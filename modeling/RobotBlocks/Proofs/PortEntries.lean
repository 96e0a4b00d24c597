import Mathlib.Data.List.Basic
import Mathlib.Data.List.Induction
import Mathlib.Data.List.Perm.Basic
import RobotBlocks.Gamepad.Ports

/-!
# The entries of an assignment of ports

The ports of an assignment ascend. So no port comes twice, a port has a stored name exactly if the
two are an entry (`Ports.name?_eq_some_iff`), and the entries in any order tell the assignment
(`Ports.ofList_eq_of_perm`).
-/

set_option autoImplicit false

namespace RobotBlocks

/-- An entry with a new key is added to the others. -/
theorem Ascending.perm_insert {α κ : Type} [LT κ] [DecidableLT κ] [DecidableEq κ] (key : α → κ)
    {entry : α} {entries : List α} (new : ∀ other ∈ entries, key entry ≠ key other) :
    (insert key entry entries).Perm (entry :: entries) := by
  induction entries with
  | nil => exact List.Perm.refl _
  | cons first rest ih =>
    rw [List.forall_mem_cons] at new
    rw [insert, if_neg new.1]
    split
    · exact List.Perm.refl _
    · exact ((ih new.2).cons first).trans (List.Perm.swap entry first rest)

namespace Ports

variable {ports : Ports} {port : UInt8} {name : String}

/-- Assignments with the same entries are equal. -/
theorem eq_of_entries {left right : Ports} (same : left.entries = right.entries) :
    left = right := by
  cases left
  cases right
  congr

/-- No port is assigned twice. -/
theorem nodup_ports (ports : Ports) : (ports.entries.map Prod.fst).Nodup := by
  rw [List.Nodup, List.pairwise_map]
  exact ports.ascending.imp fun less => UInt8.ne_of_lt less

/-- A port has a stored name if the two are an entry. -/
theorem name?_eq_some_iff : ports.name? port = some name ↔ (port, name) ∈ ports.entries := by
  have distinct := ports.nodup_ports
  unfold name?
  generalize ports.entries = entries at distinct
  induction entries with
  | nil => simp
  | cons first rest ih =>
    obtain ⟨other, stored⟩ := first
    rw [List.map_cons, List.nodup_cons] at distinct
    rw [List.lookup_cons, List.mem_cons, Prod.mk.injEq]
    by_cases same : port = other
    · subst same
      have notLater : (port, name) ∉ rest := by
        intro later
        have listed : port ∈ rest.map Prod.fst := List.mem_map_of_mem later
        exact distinct.1 listed
      simp [notLater, eq_comm]
    · rw [beq_eq_false_iff_ne.mpr same]
      simp [same, ih distinct.2]

/-- A port has no stored name if it is not assigned. -/
theorem name?_eq_none_iff : ports.name? port = none ↔ port ∉ ports.entries.map Prod.fst := by
  simp only [name?, List.lookup_eq_none_iff, bne_iff_ne, List.mem_map, not_exists, not_and, ne_comm]

/-! ## Collecting entries -/

/-- The last entry is assigned after all the others. -/
theorem ofList_concat (entries : List (UInt8 × String)) (last : UInt8 × String) :
    ofList (entries ++ [last]) = (ofList entries).insert last.1 last.2 := by
  rw [ofList, List.foldl_concat]
  rfl

/-- Entries of different ports are all kept. -/
theorem perm_entries_ofList {entries : List (UInt8 × String)}
    (distinct : (entries.map Prod.fst).Nodup) : (ofList entries).entries.Perm entries := by
  induction entries using List.reverseRecOn with
  | nil => exact List.Perm.refl _
  | append_singleton entries last ih =>
    rw [List.map_append, List.map_singleton, (List.perm_append_singleton _ _).nodup_iff,
      List.nodup_cons] at distinct
    have collected := ih distinct.2
    have new : ∀ other ∈ (ofList entries).entries, last.1 ≠ other.1 := by
      intro other member same
      apply distinct.1
      rw [same]
      exact List.mem_map_of_mem (collected.mem_iff.mp member)
    rw [ofList_concat]
    show (Ascending.insert Prod.fst last (ofList entries).entries).Perm (entries ++ [last])
    exact (Ascending.perm_insert Prod.fst new).trans
      ((collected.cons last).trans (List.perm_append_singleton last entries).symm)

/-- An assignment is collected from its entries, in whatever order they come. -/
theorem ofList_eq_of_perm {entries : List (UInt8 × String)} (perm : entries.Perm ports.entries) :
    ofList entries = ports := by
  have distinct : (entries.map Prod.fst).Nodup :=
    (perm.map Prod.fst).nodup_iff.mpr ports.nodup_ports
  apply eq_of_entries
  refine List.Perm.eq_of_pairwise (fun a b _ _ before after => ?_) (ofList entries).ascending
    ports.ascending ((perm_entries_ofList distinct).trans perm)
  exact absurd after (UInt8.lt_asymm before)

end Ports

end RobotBlocks
