import RobotBlocks.Proofs.PortEntries

/-!
# Cleaning an assignment of ports

Three readings of an assignment say which ports have no controller: the controller on a port, the
ports with a controller, and the entries that are left out when the assignment is cleaned. The
first two agree (`Ports.occupied_eq`). The third goes by the stored name alone, and leaves the
entries with an empty name (`Ports.mem_withoutAbsent_iff`); so it agrees with the others just where
no stored name is empty.
-/

set_option autoImplicit false

namespace RobotBlocks

namespace Ports

variable {ports : Ports} {port : UInt8} {name : String}

/-- Two stored names stand for no controller, the empty one and the one that says so. -/
theorem controllerNamed_eq_absent_iff :
    controllerNamed name = .absent ↔ name = "" ∨ name = Controller.absent.displayName := by
  unfold controllerNamed
  by_cases empty : name = ""
  · simp [empty]
  · rw [if_neg empty, or_iff_right empty]
    cases found : Controller.ofDisplayName? name with
    | none =>
      have other : name ≠ Controller.absent.displayName := by
        rintro rfl
        rw [Controller.ofDisplayName?_displayName] at found
        cases found
      simp [other]
    | some controller =>
      have named := Controller.displayName_of_ofDisplayName? found
      constructor
      · rintro rfl
        exact named.symm
      · rintro rfl
        rw [Controller.ofDisplayName?_displayName] at found
        exact (Option.some.inj found).symm

/-- The controller on an assigned port is the one that its stored name stands for. -/
theorem controllerAt_of_mem (member : (port, name) ∈ ports.entries) :
    ports.controllerAt port = controllerNamed name := by
  rw [controllerAt, name?_eq_some_iff.mpr member]

/-- The ports with a controller are those whose stored name stands for one. -/
theorem occupied_eq (ports : Ports) :
    ports.occupied =
      (ports.entries.filter fun entry => decide (controllerNamed entry.2 ≠ .absent)).map
        Prod.fst := by
  rw [occupied, List.filter_map]
  congr 1
  refine List.filter_congr fun entry member => ?_
  rw [Function.comp_apply, controllerAt_of_mem member]

/-- An assigned port has a controller if its stored name is neither empty nor the one that says
there is none. -/
theorem mem_occupied_iff (member : (port, name) ∈ ports.entries) :
    port ∈ ports.occupied ↔ name ≠ "" ∧ name ≠ Controller.absent.displayName := by
  have listed : port ∈ ports.entries.map Prod.fst := List.mem_map_of_mem member
  rw [occupied, List.mem_filter, decide_eq_true_eq, and_iff_right listed,
    controllerAt_of_mem member, ne_eq, controllerNamed_eq_absent_iff, not_or]

/-! ## What is left -/

/-- Cleaning leaves the entries out whose stored name says that there is no controller. -/
theorem entries_withoutAbsent (ports : Ports) :
    ports.withoutAbsent.entries =
      ports.entries.filter fun entry => decide (entry.2 ≠ Controller.absent.displayName) := rfl

/-- An entry is left by cleaning if it was there and its stored name does not say that there is no
controller. -/
theorem mem_withoutAbsent_iff :
    (port, name) ∈ ports.withoutAbsent.entries ↔
      (port, name) ∈ ports.entries ∧ name ≠ Controller.absent.displayName := by
  rw [entries_withoutAbsent, List.mem_filter, decide_eq_true_eq]

/-- Of the entries, those stay whose port has a controller or whose stored name is empty. -/
theorem mem_withoutAbsent_iff_occupied (member : (port, name) ∈ ports.entries) :
    (port, name) ∈ ports.withoutAbsent.entries ↔ port ∈ ports.occupied ∨ name = "" := by
  have absentIsNamed : Controller.absent.displayName ≠ "" := by decide
  rw [mem_withoutAbsent_iff, mem_occupied_iff member, and_iff_right member]
  by_cases empty : name = ""
  · subst empty
    simp [absentIsNamed.symm]
  · simp [empty]

/-- Cleaning leaves the controller on each port as it was. -/
theorem controllerAt_withoutAbsent (ports : Ports) (port : UInt8) :
    ports.withoutAbsent.controllerAt port = ports.controllerAt port := by
  cases stored : ports.name? port with
  | none =>
    have cleaned : ports.withoutAbsent.name? port = none := by
      rw [name?_eq_none_iff] at stored ⊢
      exact fun listed => stored ((List.filter_sublist.map Prod.fst).subset listed)
    rw [controllerAt, controllerAt, stored, cleaned]
  | some name =>
    have member := name?_eq_some_iff.mp stored
    rw [controllerAt_of_mem member]
    by_cases absent : name = Controller.absent.displayName
    · have cleaned : ports.withoutAbsent.name? port = none := by
        refine Option.eq_none_iff_forall_ne_some.mpr fun left still => ?_
        obtain ⟨there, named⟩ := mem_withoutAbsent_iff.mp (name?_eq_some_iff.mp still)
        -- no port has two names, so the one that is left is the one that was left out
        have same : some left = some name := (name?_eq_some_iff.mpr there).symm.trans stored
        exact named (Option.some.inj same ▸ absent)
      rw [controllerAt, cleaned, controllerNamed_eq_absent_iff.mpr (Or.inr absent)]
    · exact controllerAt_of_mem (mem_withoutAbsent_iff.mpr ⟨member, absent⟩)

/-- Cleaning keeps all ports with a controller. -/
theorem occupied_withoutAbsent (ports : Ports) : ports.withoutAbsent.occupied = ports.occupied := by
  rw [occupied_eq, occupied_eq, entries_withoutAbsent, List.filter_filter]
  congr 1
  refine List.filter_congr fun entry _ => ?_
  rw [Bool.and_eq_left_iff_imp]
  intro present
  rw [decide_eq_true_eq] at present ⊢
  exact fun absent => present (controllerNamed_eq_absent_iff.mpr (Or.inr absent))

/-- Cleaning twice is cleaning once. -/
theorem withoutAbsent_withoutAbsent (ports : Ports) :
    ports.withoutAbsent.withoutAbsent = ports.withoutAbsent := by
  apply eq_of_entries
  rw [entries_withoutAbsent, entries_withoutAbsent, List.filter_filter]
  simp only [Bool.and_self]

/-- The ports that are left are those with a controller exactly if no stored name is empty. -/
theorem ports_withoutAbsent_eq_occupied_iff (ports : Ports) :
    ports.withoutAbsent.entries.map Prod.fst = ports.occupied ↔
      ∀ entry ∈ ports.entries, entry.2 ≠ "" := by
  constructor
  · rintro same ⟨port, name⟩ member empty
    have left := (mem_withoutAbsent_iff_occupied member).mpr (Or.inr empty)
    have occupied : port ∈ ports.occupied := by
      rw [← same]
      exact List.mem_map_of_mem left
    exact ((mem_occupied_iff member).mp occupied).1 empty
  · intro named
    rw [occupied_eq, entries_withoutAbsent]
    congr 1
    refine List.filter_congr fun entry member => ?_
    rw [decide_eq_decide, ne_eq, ne_eq, controllerNamed_eq_absent_iff,
      or_iff_right (named entry member)]

end Ports

/-- Cleaning an assignment keeps an entry if its port has a controller, and also if its stored name
is empty, although there is no controller on its port then. So the entries that are kept are those
of the ports with a controller exactly if no stored name is empty, and just then the ports that are
left are the ports with a controller. In every case the entries that are left are entries of the
assignment under their stored names and in their order, no port gets another controller, the ports
with a controller stay the same, and cleaning twice is cleaning once. -/
theorem cleaning_keeps_occupied_iff (ports : Ports) :
    let cleaned := ports.withoutAbsent
    let allNamed := ∀ entry ∈ ports.entries, entry.2 ≠ ""
    (∀ entry ∈ ports.entries,
      entry ∈ cleaned.entries ↔ entry.1 ∈ ports.occupied ∨ entry.2 = "") ∧
    ((∀ entry ∈ ports.entries, entry ∈ cleaned.entries ↔ entry.1 ∈ ports.occupied) ↔ allNamed) ∧
    (cleaned.entries.map Prod.fst = ports.occupied ↔ allNamed) ∧
    cleaned.entries.Sublist ports.entries ∧
    (∀ port, cleaned.controllerAt port = ports.controllerAt port) ∧
    cleaned.occupied = ports.occupied ∧ cleaned.withoutAbsent = cleaned := by
  intro cleaned allNamed
  refine ⟨fun entry => Ports.mem_withoutAbsent_iff_occupied, ?_,
    ports.ports_withoutAbsent_eq_occupied_iff, List.filter_sublist,
    ports.controllerAt_withoutAbsent, ports.occupied_withoutAbsent,
    ports.withoutAbsent_withoutAbsent⟩
  constructor
  · intro agree entry member empty
    have left := (Ports.mem_withoutAbsent_iff_occupied member).mpr (Or.inr empty)
    exact ((Ports.mem_occupied_iff member).mp ((agree entry member).mp left)).1 empty
  · intro named entry member
    rw [Ports.mem_withoutAbsent_iff_occupied member, or_iff_left (named entry member)]

/-- A port with an empty name has no controller, and its entry is kept. -/
theorem cleaning_keeps_emptyName :
    let ports := Ports.empty.insert 3 ""
    (3, "") ∈ ports.withoutAbsent.entries ∧ ports.controllerAt 3 = .absent ∧
      ports.withoutAbsent.entries.map Prod.fst ≠ ports.occupied := by
  decide

end RobotBlocks
