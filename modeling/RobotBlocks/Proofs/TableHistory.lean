import Mathlib.Data.List.Basic
import Mathlib.Data.List.Induction
import RobotBlocks.Gamepad.SlotTable
import RobotBlocks.Proofs.KeyedHistory

/-!
# Tables as the outcome of edits

A table of controls is what insertions and removals make of the empty one. So everything about it
can be told from the edits: what a name finds is what it was set to last
(`get?_afterEdits_eq_some_iff`), and the names stand in the order in which they arrived, where a
name that was removed arrives anew (`mem_keys_afterEdits_iff`, `pairwise_keys_afterEdits`). The
order is that of any list whose entries carry keys, for an edit of a table is one of such a list
(`TableEdit.toKeyed`).
-/

set_option autoImplicit false

namespace RobotBlocks

/-- An edit of a table. -/
inductive TableEdit
  /-- A control is put under a name. -/
  | insert (key : String) (control : Control)
  /-- The control under a name is taken out, if there is one. -/
  | remove (key : String)
deriving DecidableEq, Repr

/-- The name that an edit is about. -/
def TableEdit.key : TableEdit → String
  | .insert key _ => key
  | .remove key => key

namespace SlotTable

/-- The table after an edit. -/
def edit (table : SlotTable) : TableEdit → SlotTable
  | .insert key control => table.insert key control
  | .remove key => table.erase key

/-- What edits make of the empty table. -/
def afterEdits (edits : List TableEdit) : SlotTable :=
  edits.foldl edit empty

/-- A table that edits can make. -/
def IsEdited (table : SlotTable) : Prop :=
  ∃ edits, afterEdits edits = table

/-- The last edit works on what the earlier ones have made of the table. -/
theorem afterEdits_concat (edits : List TableEdit) (last : TableEdit) :
    afterEdits (edits ++ [last]) = (afterEdits edits).edit last :=
  List.foldl_concat edit empty last edits

/-- The empty table is made by no edits. -/
theorem isEdited_empty : empty.IsEdited := ⟨[], rfl⟩

/-- A table that edits made is such a table after one more edit. -/
theorem IsEdited.edit {table : SlotTable} (edited : table.IsEdited) (last : TableEdit) :
    (table.edit last).IsEdited := by
  obtain ⟨edits, rfl⟩ := edited
  exact ⟨edits ++ [last], afterEdits_concat edits last⟩

/-- A table that is made of a list of controls is made by edits. -/
theorem isEdited_ofList (controls : List (String × Control)) : (ofList controls).IsEdited := by
  refine ⟨controls.map fun entry => .insert entry.1 entry.2, ?_⟩
  rw [afterEdits, List.foldl_map]
  rfl

/-- No name comes twice after an edit if none did before. -/
theorem nodup_keys_edit {table : SlotTable} (distinct : table.keys.Nodup) (last : TableEdit) :
    (table.edit last).keys.Nodup := by
  cases last with
  | insert key control => exact Keyed.nodup_keys_upsert Prod.fst (key, control) _ distinct
  | remove key => exact Keyed.nodup_keys_erase Prod.fst key _ distinct

/-- No name comes twice in a table that edits made. -/
theorem IsEdited.nodup_keys {table : SlotTable} (edited : table.IsEdited) : table.keys.Nodup := by
  obtain ⟨edits, rfl⟩ := edited
  induction edits using List.reverseRecOn with
  | nil => exact List.nodup_nil
  | append_singleton edits last ih =>
    rw [afterEdits_concat]
    exact nodup_keys_edit ih last

/-- A name is in a table exactly if it finds a control. -/
theorem isSome_get?_iff (table : SlotTable) (key : String) :
    (table.get? key).isSome = true ↔ key ∈ table.keys := by
  have absent : Keyed.find? Prod.fst key table.toList = none ↔ key ∉ table.keys :=
    Keyed.find?_eq_none_iff
  rw [get?, Option.isSome_map, ← not_iff_not, ← absent]
  simp

/-- A name that was taken out finds nothing. -/
theorem get?_erase_self {table : SlotTable} (distinct : table.keys.Nodup) (key : String) :
    (table.erase key).get? key = none := by
  rw [get?, erase, Keyed.find?_erase_self Prod.fst key distinct, Option.map_none]

/-- Taking a control out is not seen under another name. -/
theorem get?_erase_of_ne (table : SlotTable) {key other : String} (different : other ≠ key) :
    (table.erase key).get? other = table.get? other := by
  rw [get?, erase, Keyed.find?_erase_of_ne Prod.fst _ different, get?]

/-- An edit is not seen under another name. -/
theorem get?_edit_of_ne (table : SlotTable) {last : TableEdit} {key : String}
    (different : last.key ≠ key) : (table.edit last).get? key = table.get? key := by
  cases last with
  | insert other control => exact table.get?_insert_of_ne control (Ne.symm different)
  | remove other => exact table.get?_erase_of_ne (Ne.symm different)

end SlotTable

/-! ## What the edits tell -/

namespace TableEdit

open Keyed

/-- A control was put under a name by an edit after which no edit was about the name. -/
def LastSets (edits : List TableEdit) (key : String) (control : Control) : Prop :=
  ∃ position : Nat, edits[position]? = some (.insert key control) ∧
    ∀ (later : Nat) (edit : TableEdit), position < later → edits[later]? = some edit →
      edit.key ≠ key

/-- A name arrived with the edit at a position: this edit inserts the name, no later edit removes
it, and every earlier insertion of the name was undone by a removal in between. So it is the first
insertion of the name since its last removal. -/
structure Arrives (edits : List TableEdit) (key : String) (position : Nat) : Prop where
  inserted : ∃ control, edits[position]? = some (.insert key control)
  kept : ∀ later, position < later → edits[later]? ≠ some (.remove key)
  first : ∀ earlier control, earlier < position →
    edits[earlier]? = some (.insert key control) →
      ∃ between, earlier < between ∧ between < position ∧ edits[between]? = some (.remove key)

section Concat

variable {edits : List TableEdit} {last : TableEdit} {key : String} {position : Nat}

/-- An edit that is about another name does not change what a name was set to last. -/
theorem lastSets_concat_of_ne (different : last.key ≠ key) {control : Control} :
    LastSets (edits ++ [last]) key control ↔ LastSets edits key control := by
  have unlike : last ≠ .insert key control := by
    rintro rfl
    exact different rfl
  unfold LastSets
  refine exists_congr fun position => and_congr (getElem?_concat_of_ne unlike) ?_
  constructor
  · intro untouched later edit after there
    exact untouched later edit after (getElem?_concat_of_some there)
  · intro untouched later edit after there
    rcases getElem?_concat_eq_some_iff.mp there with there | ⟨-, rfl⟩
    · exact untouched later edit after there
    · exact different

/-- An edit sets its name to the control that it puts in, and to none if it takes one out. -/
theorem lastSets_concat_self {control : Control} :
    LastSets (edits ++ [last]) last.key control ↔ last = .insert last.key control := by
  have atEnd : (edits ++ [last])[edits.length]? = some last := List.getElem?_concat_length
  constructor
  · rintro ⟨position, there, untouched⟩
    rcases getElem?_concat_eq_some_iff.mp there with there | ⟨-, same⟩
    · exact absurd rfl (untouched _ _ (lt_length_of_getElem? there) atEnd)
    · exact same
  · intro same
    refine ⟨edits.length, same ▸ atEnd, fun later edit after there => ?_⟩
    exact absurd after (Nat.not_lt.mpr (le_length_of_getElem?_concat there))

/-- No name is set before the first edit. -/
theorem not_lastSets_nil {control : Control} : ¬LastSets [] key control := by
  rintro ⟨position, there, -⟩
  simp at there

end Concat

/-- One name arrived before another. -/
def ArrivesBefore (edits : List TableEdit) (key other : String) : Prop :=
  ∃ position later, Arrives edits key position ∧ Arrives edits other later ∧ position < later

/-! ## Edits of lists with keys -/

/-- An edit of a table as an edit of its entries, whose keys are the names. -/
def toKeyed : TableEdit → Edit (Prod.fst : String × Control → String)
  | .insert key control => .put (key, control)
  | .remove key => .take key

section ToKeyed

variable {edits : List TableEdit} {key other : String} {position : Nat}

/-- The removals of a name are the edits that take its entry out. -/
theorem toKeyed_eq_take_iff {edit : TableEdit} : edit.toKeyed = .take key ↔ edit = .remove key := by
  cases edit <;> simp [toKeyed]

/-- The insertions of a name are the edits that put an entry in under it. -/
theorem puts_toKeyed_iff {edit : TableEdit} :
    edit.toKeyed.Puts key ↔ ∃ control, edit = .insert key control := by
  cases edit <;> simp [toKeyed, Edit.Puts]

/-- A name is removed where its entry is taken out. -/
theorem getElem?_map_toKeyed_eq_take_iff :
    (edits.map toKeyed)[position]? = some (.take key) ↔ edits[position]? = some (.remove key) := by
  simp [List.getElem?_map, Option.map_eq_some_iff, toKeyed_eq_take_iff]

/-- A name is inserted where an entry is put in under it. -/
theorem exists_puts_map_toKeyed_iff :
    (∃ edit, (edits.map toKeyed)[position]? = some edit ∧ edit.Puts key) ↔
      ∃ control, edits[position]? = some (.insert key control) := by
  simp only [List.getElem?_map, Option.map_eq_some_iff]
  constructor
  · rintro ⟨_, ⟨edit, there, rfl⟩, puts⟩
    obtain ⟨control, rfl⟩ := puts_toKeyed_iff.mp puts
    exact ⟨control, there⟩
  · rintro ⟨control, there⟩
    exact ⟨_, ⟨_, there, rfl⟩, puts_toKeyed_iff.mpr ⟨control, rfl⟩⟩

/-- A name arrives in a table as a key does in a list. -/
theorem arrives_map_toKeyed_iff :
    Edit.Arrives (edits.map toKeyed) key position ↔ Arrives edits key position := by
  constructor
  · rintro ⟨put, kept, first⟩
    refine ⟨exists_puts_map_toKeyed_iff.mp put, fun later after removed => ?_, ?_⟩
    · exact kept later after (getElem?_map_toKeyed_eq_take_iff.mpr removed)
    · intro earlier control before inserted
      obtain ⟨edit, there, puts⟩ := exists_puts_map_toKeyed_iff.mpr ⟨control, inserted⟩
      obtain ⟨between, above, below, taken⟩ := first earlier edit before there puts
      exact ⟨between, above, below, getElem?_map_toKeyed_eq_take_iff.mp taken⟩
  · rintro ⟨inserted, kept, first⟩
    refine ⟨exists_puts_map_toKeyed_iff.mpr inserted, fun later after taken => ?_, ?_⟩
    · exact kept later after (getElem?_map_toKeyed_eq_take_iff.mp taken)
    · intro earlier edit before there puts
      obtain ⟨control, insertedToo⟩ := exists_puts_map_toKeyed_iff.mp ⟨edit, there, puts⟩
      obtain ⟨between, above, below, removed⟩ := first earlier control before insertedToo
      exact ⟨between, above, below, getElem?_map_toKeyed_eq_take_iff.mpr removed⟩

/-- A name arrives at one position only. -/
theorem Arrives.unique {later : Nat} (first : Arrives edits key position)
    (second : Arrives edits key later) : position = later :=
  (arrives_map_toKeyed_iff.mpr first).unique (arrives_map_toKeyed_iff.mpr second)

/-- Names arrive in a table in the order in which keys do in a list. -/
theorem arrivesBefore_map_toKeyed_iff :
    Edit.ArrivesBefore (edits.map toKeyed) key other ↔ ArrivesBefore edits key other := by
  simp only [Edit.ArrivesBefore, ArrivesBefore, arrives_map_toKeyed_iff]

end ToKeyed

end TableEdit

namespace SlotTable

open Keyed TableEdit

/-- A name finds the control that it was set to last, if no removal came after it. -/
theorem get?_afterEdits_eq_some_iff (edits : List TableEdit) (key : String) (control : Control) :
    (afterEdits edits).get? key = some control ↔ LastSets edits key control := by
  induction edits using List.reverseRecOn with
  | nil => exact iff_of_false (by simp [afterEdits, empty, get?, Keyed.find?]) not_lastSets_nil
  | append_singleton edits last ih =>
    rw [afterEdits_concat]
    by_cases same : last.key = key
    · subst same
      rw [lastSets_concat_self]
      cases last with
      | insert key given =>
        show ((afterEdits edits).insert key given).get? key = _ ↔ _
        rw [get?_insert_self]
        simp [TableEdit.key]
      | remove key =>
        show ((afterEdits edits).erase key).get? key = _ ↔ _
        rw [get?_erase_self (IsEdited.nodup_keys ⟨edits, rfl⟩)]
        simp
    · rw [get?_edit_of_ne _ same, ih, lastSets_concat_of_ne same]

/-- The entries of a table are what the edits make of the empty list. -/
theorem toList_afterEdits (edits : List TableEdit) :
    (afterEdits edits).toList = Edit.run (edits.map toKeyed) := by
  induction edits using List.reverseRecOn with
  | nil => rfl
  | append_singleton edits last ih =>
    rw [afterEdits_concat, List.map_append, List.map_singleton, Edit.run_concat, ← ih]
    cases last <;> rfl

/-- The names in a table are those that have arrived. -/
theorem mem_keys_afterEdits_iff {edits : List TableEdit} {key : String} :
    key ∈ (afterEdits edits).keys ↔ ∃ position, Arrives edits key position := by
  simp only [keys, toList_afterEdits, Edit.mem_keys_run_iff, arrives_map_toKeyed_iff]

/-- The names in a table stand in the order of their arrival. -/
theorem pairwise_keys_afterEdits (edits : List TableEdit) :
    (afterEdits edits).keys.Pairwise (ArrivesBefore edits) := by
  have ordered := Edit.pairwise_keys_run (edits.map toKeyed)
  rw [← toList_afterEdits] at ordered
  exact ordered.imp arrivesBefore_map_toKeyed_iff.mp

end SlotTable

end RobotBlocks
