import RobotBlocks.Proofs.Registration
import RobotBlocks.Proofs.TableHistory

/-!
# Derived profiles

A derivation changes the tables of its base by three passes over lists: controls are put in, then
controls are taken out, then whole tables. A change of one table is not seen in those of other
kinds, so each pass can be told kind by kind (`ControlTables.table_foldl_changeTable`), and what
remains are runs of insertions and of removals on one table. `keys_insertAll`, `get?_insertAll`,
`keys_eraseAll` and `get?_eraseAll` say what these do to the names and to a look-up. The main
statement is `derived_profile_is_exact`.
-/

set_option autoImplicit false

namespace RobotBlocks

/-! ## Runs of insertions and of removals -/

namespace SlotTable

/-- Puts controls in, one after the other. -/
def insertAll (table : SlotTable) (controls : List (String × Control)) : SlotTable :=
  controls.foldl (fun table entry => table.insert entry.1 entry.2) table

/-- Takes controls out, one after the other. -/
def eraseAll (table : SlotTable) (keys : List String) : SlotTable :=
  keys.foldl erase table

/-- The control that comes last under a name. -/
def lastOf? (controls : List (String × Control)) (key : String) : Option Control :=
  (controls.filter fun entry => decide (entry.1 = key)).getLast?.map Prod.snd

/-- The names that are not among given ones, in the order in which they come first. -/
def newNames (known : List String) (controls : List (String × Control)) : List String :=
  ((controls.map Prod.fst).filter fun key => decide (key ∉ known)).eraseDups

variable (table : SlotTable)

/-- The last control goes in after all the others. -/
theorem insertAll_concat (controls : List (String × Control)) (last : String × Control) :
    table.insertAll (controls ++ [last]) = (table.insertAll controls).insert last.1 last.2 :=
  List.foldl_concat _ table last controls

/-- The last control is taken out after all the others. -/
theorem eraseAll_concat (keys : List String) (last : String) :
    table.eraseAll (keys ++ [last]) = (table.eraseAll keys).erase last :=
  List.foldl_concat _ table last keys

/-- The last of the controls comes last under its own name, and under no other. -/
theorem lastOf?_concat (controls : List (String × Control)) (last : String × Control)
    (key : String) :
    lastOf? (controls ++ [last]) key =
      if last.1 = key then some last.2 else lastOf? controls key := by
  unfold lastOf?
  rw [List.filter_append, List.filter_singleton]
  by_cases same : last.1 = key
  · rw [if_pos same]
    simp [same]
  · rw [if_neg same]
    simp [same]

/-- One more control adds its name at the end, unless the name is known or came before. -/
theorem newNames_concat (known : List String) (controls : List (String × Control))
    (last : String × Control) :
    newNames known (controls ++ [last]) =
      if last.1 ∈ known ++ newNames known controls then newNames known controls
      else newNames known controls ++ [last.1] := by
  unfold newNames
  rw [List.map_append, List.filter_append, List.eraseDups_append, List.map_singleton]
  by_cases old : last.1 ∈ known
  · simp [old, List.removeAll]
  · have single : [last.1].filter (fun key => decide (key ∉ known)) = [last.1] := by simp [old]
    rw [single]
    by_cases seen : last.1 ∈ controls.map Prod.fst
    · simp [old, seen, List.removeAll]
    · simp [old, seen, List.removeAll, List.eraseDups_cons]

/-- The names that are new come after those of the table, in the order in which they come first. -/
theorem keys_insertAll (controls : List (String × Control)) :
    (table.insertAll controls).keys = table.keys ++ newNames table.keys controls := by
  induction controls using List.reverseRecOn with
  | nil => exact (List.append_nil table.keys).symm
  | append_singleton controls last ih =>
    -- the last name is new for the list of names exactly if it is new for the table
    rw [insertAll_concat, newNames_concat, ← ih]
    by_cases known : last.1 ∈ (table.insertAll controls).keys
    · rw [keys_insert_of_mem _ _ known, if_pos known, ih]
    · rw [keys_insert_of_notMem _ _ known, if_neg known, ih, List.append_assoc]

/-- A name finds the control that came last, or what it found before. -/
theorem get?_insertAll (controls : List (String × Control)) (key : String) :
    (table.insertAll controls).get? key = (lastOf? controls key).or (table.get? key) := by
  induction controls using List.reverseRecOn with
  | nil => rfl
  | append_singleton controls last ih =>
    rw [insertAll_concat, lastOf?_concat]
    by_cases same : last.1 = key
    · subst same
      rw [get?_insert_self, if_pos rfl, Option.some_or]
    · rw [get?_insert_of_ne _ last.2 (Ne.symm same), if_neg same, ih]

variable {table}

/-- A table stays one that edits can make when controls are put in. -/
theorem IsEdited.insertAll (edited : table.IsEdited) (controls : List (String × Control)) :
    (table.insertAll controls).IsEdited := by
  induction controls using List.reverseRecOn with
  | nil => exact edited
  | append_singleton controls last ih =>
    rw [insertAll_concat]
    exact ih.edit (.insert last.1 last.2)

/-- A table stays one that edits can make when controls are taken out. -/
theorem IsEdited.eraseAll (edited : table.IsEdited) (keys : List String) :
    (table.eraseAll keys).IsEdited := by
  induction keys using List.reverseRecOn with
  | nil => exact edited
  | append_singleton keys last ih =>
    rw [eraseAll_concat]
    exact ih.edit (.remove last)

/-- The names that are left are those not taken out, in their order. -/
theorem keys_eraseAll (distinct : table.keys.Nodup) (keys : List String) :
    (table.eraseAll keys).keys = table.keys.filter fun key => decide (key ∉ keys) := by
  induction keys using List.reverseRecOn with
  | nil => simp [SlotTable.eraseAll]
  | append_singleton keys last ih =>
    have left : (table.keys.filter fun key => decide (key ∉ keys)).Nodup := distinct.filter _
    -- a name is taken out once, which takes all of it out where no name comes twice
    rw [eraseAll_concat, keys_erase, ih, left.erase_eq_filter, List.filter_filter]
    refine List.filter_congr fun key _ => ?_
    by_cases same : key = last
    · simp [same]
    · simp [same]

/-- A name that was taken out finds nothing, and any other what it found before. -/
theorem get?_eraseAll (edited : table.IsEdited) (keys : List String) (key : String) :
    (table.eraseAll keys).get? key = if key ∈ keys then none else table.get? key := by
  induction keys using List.reverseRecOn with
  | nil => rw [if_neg List.not_mem_nil, SlotTable.eraseAll, List.foldl_nil]
  | append_singleton keys last ih =>
    rw [eraseAll_concat]
    by_cases same : key = last
    · subst same
      rw [get?_erase_self (edited.eraseAll keys).nodup_keys, if_pos (by simp)]
    · rw [get?_erase_of_ne _ same, ih]
      simp [same]

end SlotTable

/-! ## Passes over the tables -/

namespace ControlTables

/-- All tables are made by edits. -/
def AreEdited (tables : ControlTables) : Prop :=
  ∀ slot table, tables.table slot = some table → table.IsEdited

/-- The names of the controls of a kind, in order. -/
def keys (tables : ControlTables) (slot : Slot) : List String :=
  ((tables.table slot).map SlotTable.keys).getD []

/-- Changes the table that an entry is about. -/
def changeTable {α : Type} (change : Option SlotTable → α → Option SlotTable)
    (tables : ControlTables) (entry : Slot × α) : ControlTables :=
  tables.setTable entry.1 (change (tables.table entry.1) entry.2)

/-- The entries about a kind of control. -/
def entriesOf {α : Type} (entries : List (Slot × α)) (slot : Slot) : List α :=
  (entries.filter fun entry => decide (entry.1 = slot)).map Prod.snd

/-- The entries about a kind are those that come with it. -/
theorem mem_entriesOf {α : Type} {entries : List (Slot × α)} {slot : Slot} {value : α} :
    value ∈ entriesOf entries slot ↔ (slot, value) ∈ entries := by
  unfold entriesOf
  rw [List.mem_map]
  constructor
  · rintro ⟨⟨kind, value⟩, member, rfl⟩
    obtain ⟨there, same⟩ := List.mem_filter.mp member
    obtain rfl : kind = slot := of_decide_eq_true same
    exact there
  · intro there
    exact ⟨(slot, value), List.mem_filter.mpr ⟨there, decide_eq_true rfl⟩, rfl⟩

/-- A pass over the tables is, for the table of a kind, a pass over the entries about it. -/
theorem table_foldl_changeTable {α : Type} (change : Option SlotTable → α → Option SlotTable)
    (tables : ControlTables) (entries : List (Slot × α)) (slot : Slot) :
    (entries.foldl (changeTable change) tables).table slot =
      (entriesOf entries slot).foldl change (tables.table slot) := by
  induction entries generalizing tables with
  | nil => rfl
  | cons entry rest ih =>
    rw [List.foldl_cons, ih]
    unfold entriesOf
    by_cases same : entry.1 = slot
    · subst same
      rw [List.filter_cons_of_pos (by simp), List.map_cons, List.foldl_cons, changeTable,
        table_setTable_self]
    · rw [List.filter_cons_of_neg (by simpa using same), changeTable,
        table_setTable_of_ne _ _ (Ne.symm same)]

end ControlTables

namespace Derivation

open ControlTables

/-- Puts a control into a table, which is begun if it is missing. -/
def putIn (table : Option SlotTable) (entry : String × Control) : Option SlotTable :=
  some ((table.getD .empty).insert entry.1 entry.2)

/-- Takes a control out of a table, if there is one. -/
def takeOut (table : Option SlotTable) (key : String) : Option SlotTable :=
  table.map fun table => table.erase key

/-- Controls put in one after the other go into the table, which is begun if there are any. -/
theorem foldl_putIn (table : Option SlotTable) (controls : List (String × Control)) :
    controls.foldl putIn table =
      if controls = [] then table else some ((table.getD .empty).insertAll controls) := by
  induction controls using List.reverseRecOn with
  | nil => rfl
  | append_singleton controls last ih =>
    rw [List.foldl_concat, ih, if_neg (List.append_ne_nil_of_right_ne_nil _ (by simp)),
      SlotTable.insertAll_concat, putIn]
    by_cases none : controls = []
    · rw [if_pos none, none, SlotTable.insertAll, List.foldl_nil]
    · rw [if_neg none, Option.getD_some]

/-- Controls taken out one after the other leave a table that is missing as it is. -/
theorem foldl_takeOut (table : Option SlotTable) (keys : List String) :
    keys.foldl takeOut table = table.map fun table => table.eraseAll keys := by
  cases table with
  | none =>
    induction keys with
    | nil => rfl
    | cons first rest ih => exact ih
  | some table =>
    induction keys generalizing table with
    | nil => rfl
    | cons first rest ih => exact ih (table.erase first)

/-- The controls of a kind that are put in. -/
def overridesOf (derivation : Derivation) (slot : Slot) : List (String × Control) :=
  entriesOf derivation.overrides slot

/-- The names of the controls of a kind that are taken out. -/
def removalsOf (derivation : Derivation) (slot : Slot) : List String :=
  entriesOf derivation.removals slot

/-- The table of a kind after the controls were put in: a missing table is begun only if there is a
control to put in. -/
def overriddenTable (derivation : Derivation) (base : ControlTables) (slot : Slot) :
    Option SlotTable :=
  if derivation.overridesOf slot = [] then base.table slot
  else some (((base.table slot).getD .empty).insertAll (derivation.overridesOf slot))

variable (derivation : Derivation) (base : ControlTables) (slot : Slot)

/-- The overrides change the table of a kind by the overrides about this kind. -/
theorem table_overrides :
    (derivation.overrides.foldl override base).table slot =
      derivation.overriddenTable base slot := by
  rw [overriddenTable, ← foldl_putIn]
  exact table_foldl_changeTable putIn base derivation.overrides slot

/-- The removals take out of the table of a kind the names removed for this kind. -/
theorem table_removals :
    (derivation.removals.foldl remove base).table slot =
      (base.table slot).map fun table => table.eraseAll (derivation.removalsOf slot) := by
  rw [← foldl_takeOut]
  exact table_foldl_changeTable takeOut base derivation.removals slot

/-- The table of a kind is missing if the kind is left out, and is not changed otherwise. -/
theorem table_without :
    (derivation.without.foldl drop base).table slot =
      if slot ∈ derivation.without then none else base.table slot := by
  induction derivation.without generalizing base with
  | nil => simp
  | cons first rest ih =>
    rw [List.foldl_cons, ih, drop]
    by_cases same : slot = first
    · simp [same]
    · simp [same, table_setTable_of_ne]

/-- The table of a kind in a derived profile. -/
theorem table_apply :
    (derivation.apply base).table slot =
      if slot ∈ derivation.without then none
      else (derivation.overriddenTable base slot).map fun table =>
        table.eraseAll (derivation.removalsOf slot) := by
  unfold apply
  rw [table_without, table_removals, table_overrides]

/-! ## What is found in a derived profile -/

variable {derivation base slot}

/-- A kind has overrides if there is an override about it. -/
theorem overridesOf_ne_nil_iff :
    derivation.overridesOf slot ≠ [] ↔
      ∃ key control, (slot, key, control) ∈ derivation.overrides := by
  rw [ne_eq, List.eq_nil_iff_forall_not_mem]
  simp [overridesOf, mem_entriesOf]

/-- A kind has a table after the overrides if it had one before or is overridden. -/
theorem isSome_overriddenTable_iff :
    (derivation.overriddenTable base slot).isSome = true ↔
      (base.table slot).isSome = true ∨
        ∃ key control, (slot, key, control) ∈ derivation.overrides := by
  rw [← overridesOf_ne_nil_iff, overriddenTable]
  by_cases none : derivation.overridesOf slot = []
  · simp [none]
  · simp [none]

/-- After the overrides a name finds what it was set to last, or else what it found in the base. -/
theorem get?_overriddenTable (key : String) :
    (derivation.overriddenTable base slot).bind (fun table => table.get? key) =
      (SlotTable.lastOf? (derivation.overridesOf slot) key).or
        ((base.table slot).bind fun table => table.get? key) := by
  unfold overriddenTable
  by_cases none : derivation.overridesOf slot = []
  · rw [if_pos none, none]
    rfl
  · rw [if_neg none, Option.bind_some, SlotTable.get?_insertAll]
    cases base.table slot with
    | none => rfl
    | some table => rfl

/-- After the overrides the names of the base come first, in their order, and then the new ones. -/
theorem keys_overriddenTable {table : SlotTable}
    (found : derivation.overriddenTable base slot = some table) :
    table.keys = base.keys slot ++
      SlotTable.newNames (base.keys slot) (derivation.overridesOf slot) := by
  unfold overriddenTable at found
  unfold ControlTables.keys
  by_cases none : derivation.overridesOf slot = []
  · rw [if_pos none] at found
    rw [found, none]
    exact (List.append_nil table.keys).symm
  · rw [if_neg none] at found
    obtain rfl := Option.some.inj found
    rw [SlotTable.keys_insertAll]
    cases base.table slot with
    | none => rfl
    | some table => rfl

/-- The overrides leave tables that edits can make. -/
theorem isEdited_overriddenTable (edited : base.AreEdited) {table : SlotTable}
    (found : derivation.overriddenTable base slot = some table) : table.IsEdited := by
  unfold overriddenTable at found
  by_cases none : derivation.overridesOf slot = []
  · rw [if_pos none] at found
    exact edited slot table found
  · rw [if_neg none] at found
    obtain rfl := Option.some.inj found
    cases there : base.table slot with
    | none => exact SlotTable.isEdited_empty.insertAll _
    | some table => exact (edited slot table there).insertAll _

/-- The tables of a derived profile are made by edits if those of its base are. -/
theorem areEdited_apply (derivation : Derivation) (edited : base.AreEdited) :
    (derivation.apply base).AreEdited := by
  intro slot table found
  rw [table_apply] at found
  by_cases missing : slot ∈ derivation.without
  · rw [if_pos missing] at found
    cases found
  · rw [if_neg missing, Option.map_eq_some_iff] at found
    obtain ⟨overridden, there, rfl⟩ := found
    exact (isEdited_overriddenTable edited there).eraseAll _

/-- In a derived profile a name finds nothing if it was removed or its kind left out, else what it
was set to last, and else what it found in the base. -/
theorem control?_apply (edited : base.AreEdited) (key : String) :
    ((derivation.apply base).table slot).bind (fun table => table.get? key) =
      if slot ∈ derivation.without ∨ (slot, key) ∈ derivation.removals then none
      else (SlotTable.lastOf? (derivation.overridesOf slot) key).or
        ((base.table slot).bind fun table => table.get? key) := by
  rw [table_apply, ← get?_overriddenTable]
  by_cases missing : slot ∈ derivation.without
  · rw [if_pos missing, if_pos (Or.inl missing), Option.bind_none]
  · rw [if_neg missing]
    have removed : key ∈ derivation.removalsOf slot ↔ (slot, key) ∈ derivation.removals :=
      mem_entriesOf
    cases there : derivation.overriddenTable base slot with
    | none => simp
    | some table =>
      have edited := isEdited_overriddenTable edited there
      rw [Option.map_some, Option.bind_some, Option.bind_some, SlotTable.get?_eraseAll edited]
      simp [missing, removed]

/-- The names of a derived table are those of the base and then the new ones, without those that
were removed. -/
theorem keys_apply (edited : base.AreEdited) {table : SlotTable}
    (found : (derivation.apply base).table slot = some table) :
    table.keys =
      (base.keys slot ++ SlotTable.newNames (base.keys slot) (derivation.overridesOf slot)).filter
        fun key => decide ((slot, key) ∉ derivation.removals) := by
  rw [table_apply] at found
  by_cases missing : slot ∈ derivation.without
  · rw [if_pos missing] at found
    cases found
  · rw [if_neg missing, Option.map_eq_some_iff] at found
    obtain ⟨overridden, there, rfl⟩ := found
    have distinct := (isEdited_overriddenTable edited there).nodup_keys
    rw [SlotTable.keys_eraseAll distinct, keys_overriddenTable there]
    refine List.filter_congr fun key _ => ?_
    rw [decide_eq_decide, removalsOf, mem_entriesOf]

/-- What a derived profile has, for any base whose tables are made by edits and any lists of
overrides, removals and missing kinds, in which names and kinds may come again. If the base is
registered and the controller is new, then registering succeeds and the controller resolves to the
profile with the derived tables.

There is a table of a kind exactly if the kind is not missing and the base has one or an override is
about it. A name of a missing kind finds nothing, nor does one that is removed; any other finds the
last override of it, or what it finds in the base. The names of a table are those of the base in
their order, followed by the new ones in the order of their first override, without those that are
removed. -/
theorem derived_profile_is_exact (derivation : Derivation) (base : ControlTables)
    (edited : base.AreEdited) :
    let derived := derivation.apply base
    (∀ (registry : Registry) (controller : Controller) (profile : Profile),
      registry.resolve derivation.base = .ok profile → profile.tables = base →
      ¬registry.Knows controller →
        ∃ after, registry.register controller (.derivedFrom derivation) = .ok after ∧
          after.resolve controller = .ok ⟨controller, derived⟩) ∧
    ∀ (controller : Controller) (slot : Slot),
      ((derived.table slot).isSome = true ↔
        slot ∉ derivation.without ∧ ((base.table slot).isSome = true ∨
          ∃ key control, (slot, key, control) ∈ derivation.overrides)) ∧
      (∀ key, Profile.control? ⟨controller, derived⟩ slot key =
        if slot ∈ derivation.without ∨ (slot, key) ∈ derivation.removals then none
        else (SlotTable.lastOf? (derivation.overridesOf slot) key).or
          (Profile.control? ⟨derivation.base, base⟩ slot key)) ∧
      ∀ table, derived.table slot = some table →
        table.keys =
          (base.keys slot ++
            SlotTable.newNames (base.keys slot) (derivation.overridesOf slot)).filter
              fun key => decide ((slot, key) ∉ derivation.removals) := by
  intro derived
  refine ⟨?_, fun controller slot => ⟨?_, fun key => control?_apply edited key,
    fun table found => keys_apply edited found⟩⟩
  · rintro registry controller profile found rfl new
    exact ⟨_, Registry.register_of_new new (.derivedFrom found),
      Registry.resolve_append_self new _⟩
  · show ((derivation.apply base).table slot).isSome = true ↔ _
    rw [table_apply, ← isSome_overriddenTable_iff]
    by_cases missing : slot ∈ derivation.without
    · simp [missing]
    · simp [missing]

/-- A gamepad derived from a common one, where the edits meet: a button is overridden twice, a new
one comes before it, another is removed, an axis is put in and removed again, and the lights are put
in and then missing, as are the rumble motors of the base. -/
theorem derived_profile_is_exact_of_meeting_edits :
    let base : ControlTables :=
      { buttons := some (.ofList [("SOUTH", ⟨"A", "getA", ""⟩), ("EAST", ⟨"B", "getB", ""⟩)])
        rumble := some (.ofList [("LEFT", ⟨"L", "left", ""⟩)]) }
    let derivation : Derivation :=
      { base := .generic
        overrides :=
          [(.button, "MISC", ⟨"M", "getMisc", ""⟩), (.button, "SOUTH", ⟨"X", "getCross", ""⟩),
            (.axis, "LEFT_X", ⟨"X", "getX", ""⟩), (.button, "SOUTH", ⟨"C", "getCross", "x"⟩),
            (.led, "ALL", ⟨"ALL", "leds", ""⟩)]
        removals := [(.button, "EAST"), (.axis, "LEFT_X")]
        without := [.rumble, .led] }
    let registry : Registry := ⟨[⟨.generic, base⟩]⟩
    ∃ after profile, registry.register .playStation4 (.derivedFrom derivation) = .ok after ∧
      after.resolve .playStation4 = .ok profile ∧
      profile.tables.keys .button = ["SOUTH", "MISC"] ∧
      profile.control? .button "SOUTH" = some ⟨"C", "getCross", "x"⟩ ∧
      profile.control? .button "EAST" = none ∧
      (profile.tables.table .axis).isSome = true ∧ profile.tables.keys .axis = [] ∧
      (profile.tables.table .led).isSome = false := by
  intro base derivation registry
  have edited : base.AreEdited := by
    intro slot table found
    cases slot with
    | button =>
      obtain rfl := Option.some.inj found
      exact SlotTable.isEdited_ofList _
    | axis => cases found
    | rumble =>
      obtain rfl := Option.some.inj found
      exact SlotTable.isEdited_ofList _
    | led => cases found
  obtain ⟨registers, tells⟩ := derived_profile_is_exact derivation base edited
  have new : ¬registry.Knows .playStation4 := by
    rw [Registry.knows_iff_mem_controllers]
    decide
  obtain ⟨after, accepted, resolved⟩ :=
    registers registry .playStation4 ⟨.generic, base⟩ rfl rfl new
  obtain ⟨hasButtons, finds, buttonNames⟩ := tells .playStation4 .button
  obtain ⟨hasAxes, -, axisNames⟩ := tells .playStation4 .axis
  obtain ⟨hasLeds, -, -⟩ := tells .playStation4 .led
  have someButtons := hasButtons.mpr ⟨by decide, Or.inl rfl⟩
  have someAxes := hasAxes.mpr ⟨by decide, Or.inr ⟨"LEFT_X", ⟨"X", "getX", ""⟩, by decide⟩⟩
  obtain ⟨buttons, isButtons⟩ := Option.isSome_iff_exists.mp someButtons
  obtain ⟨axes, isAxes⟩ := Option.isSome_iff_exists.mp someAxes
  refine ⟨after, _, accepted, resolved, ?_, ?_, ?_, someAxes, ?_, ?_⟩
  · rw [ControlTables.keys, isButtons, Option.map_some, Option.getD_some, buttonNames _ isButtons]
    decide
  · rw [finds]
    decide
  · rw [finds]
    decide
  · rw [ControlTables.keys, isAxes, Option.map_some, Option.getD_some, axisNames _ isAxes]
    decide
  · rw [Bool.eq_false_iff, ne_eq, hasLeds]
    exact fun there => there.1 (by decide)

end Derivation

end RobotBlocks
