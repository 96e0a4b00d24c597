import RobotBlocks.Proofs.DerivedProfile
import RobotBlocks.Proofs.TableParts
import RobotBlocks.Gamepad.Reading

/-!
# The controls that are offered

The editor offers the controls of a profile in the order of its tables, and a program reads a
control by looking it up under its name. Both say the same of a table that edits made. Such tables
are all that a registry ever holds if its profiles are declared by such tables
(`areEdited_attempts`), since registering only takes tables over or derives them. The main statement
is `tables_offer_what_is_read`.
-/

set_option autoImplicit false

namespace RobotBlocks

/-! ## Profiles of a registry -/

/-- The tables that a declaration gives, if it gives any, are made by edits. -/
def Declaration.IsEdited : Declaration → Prop
  | .tables own => own.AreEdited
  | .sameAs _ => True
  | .derivedFrom _ => True

/-- The built-in profiles are declared by tables that are made by edits. -/
theorem Builtin.isEdited_declarations : ∀ call ∈ Builtin.declarations, call.2.IsEdited := by
  have absent : ControlTables.AreEdited {} := by
    intro slot table found
    cases slot with
    | button | axis | rumble | led => cases found
  have common : Builtin.common.AreEdited := by
    intro slot table found
    cases slot with
    | button | axis | rumble | led =>
      obtain rfl := Option.some.inj found
      exact SlotTable.isEdited_ofList _
  have numbered : Builtin.numbered.AreEdited := by
    intro slot table found
    cases slot with
    | button | axis | rumble | led =>
      obtain rfl := Option.some.inj found
      exact SlotTable.isEdited_ofList _
  simp only [Builtin.declarations, List.forall_mem_cons]
  exact ⟨absent, common, numbered, trivial, trivial, trivial, trivial,
    fun call member => absurd member List.not_mem_nil⟩

namespace Registry

/-- All profiles have tables that are made by edits. -/
def AreEdited (registry : Registry) : Prop :=
  ∀ controller profile, registry.resolve controller = .ok profile → profile.tables.AreEdited

variable {registry : Registry}

/-- A declaration by tables that edits can make comes to such tables. -/
theorem areEdited_of_comesTo (edited : registry.AreEdited) {declaration : Declaration}
    (declared : declaration.IsEdited) {tables : ControlTables}
    (comes : declaration.ComesTo registry tables) : tables.AreEdited := by
  cases comes with
  | tables => exact declared
  | sameAs found => exact edited _ _ found
  | derivedFrom found => exact Derivation.areEdited_apply _ (edited _ _ found)

/-- One registration keeps all tables made by edits. -/
theorem areEdited_attempt (edited : registry.AreEdited) {call : Controller × Declaration}
    (declared : call.2.IsEdited) : (registry.attempt call).AreEdited := by
  rw [attempt_eq]
  rcases registry.register_cases call.1 call.2 with
    ⟨-, refused⟩ | ⟨-, base, -, -, refused⟩ | ⟨new, -, tables, comes, accepted⟩
  · rw [refused]
    exact edited
  · rw [refused]
    exact edited
  · rw [accepted]
    intro controller profile found
    by_cases same : controller = call.1
    · subst same
      rw [resolve_append_self new tables] at found
      obtain rfl := Except.ok.inj found
      exact areEdited_of_comesTo edited declared comes
    · rw [resolve_append_of_ne same tables] at found
      exact edited controller profile found

/-- Registering keeps all tables made by edits. -/
theorem areEdited_attempts (edited : registry.AreEdited) {calls : List (Controller × Declaration)}
    (declared : ∀ call ∈ calls, call.2.IsEdited) : (registry.attempts calls).AreEdited := by
  induction calls generalizing registry with
  | nil => exact edited
  | cons call rest ih =>
    rw [List.forall_mem_cons] at declared
    exact ih (areEdited_attempt edited declared.1) declared.2

/-- In the empty registry there is no table that edits could not make. -/
theorem areEdited_empty : AreEdited {} := by
  intro controller profile found
  cases found

end Registry

/-! ## Choices and look-ups -/

namespace Profile

variable {profile : Profile} {slot : Slot}

/-- The names that are offered are those of the table. -/
theorem map_snd_choices (labels : Labels) :
    (profile.choices slot labels).map Prod.snd = profile.tables.keys slot := by
  unfold choices ControlTables.keys
  cases profile.tables.table slot with
  | none => rfl
  | some table => exact List.map_map

/-- A name is offered exactly if it finds a control. -/
theorem mem_keys_iff (key : String) :
    key ∈ profile.tables.keys slot ↔ (profile.control? slot key).isSome = true := by
  unfold control? ControlTables.keys
  cases profile.tables.table slot with
  | none => exact iff_of_false List.not_mem_nil (by simp)
  | some table => exact (table.isSome_get?_iff key).symm

/-- No name is offered twice. -/
theorem nodup_keys (edited : profile.tables.AreEdited) : (profile.tables.keys slot).Nodup := by
  unfold ControlTables.keys
  cases found : profile.tables.table slot with
  | none => exact List.nodup_nil
  | some table => exact (edited slot table found).nodup_keys

/-- A button can be read if its name finds a control, whatever the port and the action. -/
theorem isSome_buttonReading? (port : UInt8) (button : String) (action : ButtonAction) :
    (profile.buttonReading? port button action).isSome =
      (profile.control? .button button).isSome :=
  Option.isSome_map

/-- An axis can be read if its name finds a control, whatever the port. -/
theorem isSome_axisReading? (port : UInt8) (axis : String) :
    (profile.axisReading? port axis).isSome = (profile.control? .axis axis).isSome :=
  Option.isSome_map

end Profile

open TableEdit SlotTable in
/-- A table is an ordered map, and the editor offers exactly what a program can read.

After any run of edits on the empty table, the names in order and the names in the map are the same
and none comes twice, so that reading the controls off in order loses none. A name finds the control
that it was set to last. The names that are present are those that have arrived, and they stand in
the order of their arrival; there are as many as the map holds. Tables are equal exactly if they
list the same controls in order, and so are their two parts.

After any run of calls that registers profiles declared by such tables, as the same as others, or as
derived from others, the names that any profile offers for a kind of control are distinct and are
those under which it finds a control. For buttons and axes they are those for which there is an
expression that reads them, whatever the port and the action. -/
theorem tables_offer_what_is_read :
    (∀ edits : List TableEdit,
      let parts := Parts.afterEdits edits
      let table := SlotTable.afterEdits edits
      (parts.order.Nodup ∧ ∀ key, key ∈ parts.order ↔ key ∈ parts.entries) ∧
      (parts.iter = table.toList ∧ ∀ key, parts.entries.lookup key = table.get? key) ∧
      (∀ key control, table.get? key = some control ↔ LastSets edits key control) ∧
      (table.keys.Nodup ∧ ∀ key, key ∈ table.keys ↔ (table.get? key).isSome = true) ∧
      ((∀ key, key ∈ table.keys ↔ ∃! position, Arrives edits key position) ∧
        table.keys.Pairwise (ArrivesBefore edits)) ∧
      table.size = parts.order.length ∧ table.size = parts.entries.keys.card) ∧
    (∀ left right : List TableEdit,
      (Parts.afterEdits left = Parts.afterEdits right ↔
        (Parts.afterEdits left).iter = (Parts.afterEdits right).iter) ∧
      (SlotTable.afterEdits left = SlotTable.afterEdits right ↔
        (SlotTable.afterEdits left).toList = (SlotTable.afterEdits right).toList)) ∧
    ∀ calls : List (Controller × Declaration), (∀ call ∈ calls, call.2.IsEdited) →
      ∀ (controller : Controller) (profile : Profile),
        (Registry.attempts {} calls).resolve controller = .ok profile →
        ∀ (slot : Slot) (labels : Labels),
          let offered := (profile.choices slot labels).map Prod.snd
          offered.Nodup ∧
          (∀ key, key ∈ offered ↔ (profile.control? slot key).isSome = true) ∧
          (slot = .button → ∀ key port action,
            key ∈ offered ↔ (profile.buttonReading? port key action).isSome = true) ∧
          (slot = .axis → ∀ key port,
            key ∈ offered ↔ (profile.axisReading? port key).isSome = true) := by
  refine ⟨?_, ?_, ?_⟩
  · intro edits parts table
    have inStep : parts.InStep := Parts.inStep_afterEdits edits
    have iter : parts.iter = table.toList := Parts.iter_afterEdits edits
    have size : table.size = parts.order.length := by
      rw [SlotTable.size, ← iter, ← inStep.keys_iter, List.length_map]
    have arrived (key : String) : key ∈ table.keys ↔ ∃! position, Arrives edits key position := by
      rw [mem_keys_afterEdits_iff]
      exact ⟨fun ⟨position, here⟩ => ⟨position, here, fun other there => there.unique here⟩,
        ExistsUnique.exists⟩
    exact ⟨⟨inStep.nodup, inStep.mem_iff⟩, ⟨iter, Parts.lookup_afterEdits edits⟩,
      get?_afterEdits_eq_some_iff edits,
      ⟨IsEdited.nodup_keys ⟨edits, rfl⟩, fun key => (table.isSome_get?_iff key).symm⟩,
      ⟨arrived, pairwise_keys_afterEdits edits⟩, size, size.trans inStep.length_order⟩
  · intro left right
    exact ⟨⟨congrArg Parts.iter,
        (Parts.inStep_afterEdits left).eq_of_iter (Parts.inStep_afterEdits right)⟩,
      ⟨congrArg SlotTable.toList, congrArg SlotTable.mk⟩⟩
  · intro calls declared controller profile found slot labels offered
    have edited : profile.tables.AreEdited :=
      Registry.areEdited_attempts Registry.areEdited_empty declared controller profile found
    have offeredEq : offered = profile.tables.keys slot := profile.map_snd_choices labels
    rw [offeredEq]
    refine ⟨Profile.nodup_keys edited, Profile.mem_keys_iff, ?_, ?_⟩
    · rintro rfl key port action
      rw [Profile.isSome_buttonReading?]
      exact Profile.mem_keys_iff key
    · rintro rfl key port
      rw [Profile.isSome_axisReading?]
      exact Profile.mem_keys_iff key

/-- Among the built-in profiles, that of the PlayStation 5 gamepad is the same as that of the
PlayStation 4 gamepad, which is derived from the common one. It offers the touchpad, which can be
read on every port, and not the button that was taken out. -/
theorem tables_offer_what_is_read_of_builtin :
    let profile : Profile := ⟨.playStation5, Builtin.playStation4.apply Builtin.common⟩
    (∀ call ∈ Builtin.declarations, call.2.IsEdited) ∧
    (Registry.attempts {} Builtin.declarations).resolve .playStation5 = .ok profile ∧
    ∀ labels, let offered := (profile.choices .button labels).map Prod.snd
      offered.Nodup ∧ "MISC1" ∉ offered ∧
      ∀ port, (profile.buttonReading? port "TOUCHPAD" .wasPressed).isSome = true := by
  intro profile
  have declared := Builtin.isEdited_declarations
  have found : (Registry.attempts {} Builtin.declarations).resolve .playStation5 = .ok profile :=
    rfl
  refine ⟨declared, found, fun labels => ?_⟩
  obtain ⟨distinct, read, buttons, -⟩ :=
    tables_offer_what_is_read.2.2 Builtin.declarations declared _ _ found .button labels
  have touchpad : (profile.control? .button "TOUCHPAD").isSome = true := by decide
  have missing : ¬(profile.control? .button "MISC1").isSome = true := by decide
  exact ⟨distinct, fun offered => missing ((read "MISC1").mp offered),
    fun port => (buttons rfl "TOUCHPAD" port .wasPressed).mp ((read "TOUCHPAD").mpr touchpad)⟩

end RobotBlocks
