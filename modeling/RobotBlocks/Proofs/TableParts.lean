import Mathlib.Data.Finmap
import RobotBlocks.Proofs.TableHistory

/-!
# Tables in two parts

A table may be kept in two parts, as the names in order and a map from the names to their controls.
The two parts stay in step under every edit (`Parts.inStep_afterEdits`), parts in step are told
apart by what they hold in order (`Parts.InStep.eq_of_iter`), and this is the table
(`Parts.iter_afterEdits`).
-/

set_option autoImplicit false

namespace RobotBlocks

namespace SlotTable

/-- A table in two parts: the names in the order in which they came, and the controls under their
names. -/
structure Parts where
  /-- The names in order. -/
  order : List String
  /-- The controls under their names. -/
  entries : Finmap fun _ : String => Control

namespace Parts

/-- The parts of the table without controls. -/
def empty : Parts := ⟨[], ∅⟩

/-- Puts a control under a name; a name that is not in the map yet goes to the end of the order. -/
def insert (parts : Parts) (key : String) (control : Control) : Parts where
  order := if key ∈ parts.entries then parts.order else parts.order ++ [key]
  entries := parts.entries.insert key control

/-- Takes a name out of the map and, if it was there, out of the order. -/
def remove (parts : Parts) (key : String) : Parts :=
  if key ∈ parts.entries then
    ⟨parts.order.filter fun name => decide (name ≠ key), parts.entries.erase key⟩
  else parts

/-- The names and controls in order; a name that is not in the map is left out. -/
def iter (parts : Parts) : List (String × Control) :=
  parts.order.filterMap fun key => (parts.entries.lookup key).map fun control => (key, control)

/-- The parts after an edit. -/
def edit (parts : Parts) : TableEdit → Parts
  | .insert key control => parts.insert key control
  | .remove key => parts.remove key

/-- What edits make of the parts of the empty table. -/
def afterEdits (edits : List TableEdit) : Parts :=
  edits.foldl edit empty

/-- The two parts are in step: the order holds exactly the names in the map, each of them once. -/
structure InStep (parts : Parts) : Prop where
  nodup : parts.order.Nodup
  mem_iff : ∀ key, key ∈ parts.order ↔ key ∈ parts.entries

variable {parts : Parts}

/-- The last edit works on what the earlier ones have made of the parts. -/
theorem afterEdits_concat (edits : List TableEdit) (last : TableEdit) :
    afterEdits (edits ++ [last]) = (afterEdits edits).edit last :=
  List.foldl_concat edit empty last edits

/-- Putting a control in keeps the parts in step. -/
theorem InStep.insert (inStep : parts.InStep) (key : String) (control : Control) :
    (parts.insert key control).InStep := by
  by_cases known : key ∈ parts.entries
  · have order : (parts.insert key control).order = parts.order := if_pos known
    refine ⟨order ▸ inStep.nodup, fun name => ?_⟩
    rw [order, inStep.mem_iff]
    show name ∈ parts.entries ↔ name ∈ parts.entries.insert key control
    rw [Finmap.mem_insert]
    refine ⟨Or.inr, ?_⟩
    rintro (rfl | there)
    · exact known
    · exact there
  · have order : (parts.insert key control).order = parts.order ++ [key] := if_neg known
    rw [← inStep.mem_iff] at known
    refine ⟨?_, fun name => ?_⟩
    · rw [order, List.nodup_append]
      refine ⟨inStep.nodup, List.nodup_singleton key, ?_⟩
      rintro name member other single rfl
      obtain rfl := List.mem_singleton.mp single
      exact known member
    · rw [order, List.mem_append, List.mem_singleton, inStep.mem_iff, or_comm]
      exact Finmap.mem_insert.symm

/-- Taking a control out keeps the parts in step. -/
theorem InStep.remove (inStep : parts.InStep) (key : String) : (parts.remove key).InStep := by
  unfold Parts.remove
  split
  · refine ⟨inStep.nodup.filter _, fun name => ?_⟩
    rw [List.mem_filter, inStep.mem_iff, Finmap.mem_erase, decide_eq_true_eq, and_comm]
  · exact inStep

/-- An edit keeps the parts in step. -/
theorem InStep.edit (inStep : parts.InStep) (last : TableEdit) : (parts.edit last).InStep := by
  cases last with
  | insert key control => exact inStep.insert key control
  | remove key => exact inStep.remove key

/-- The two parts of a table stay in step under all edits. -/
theorem inStep_afterEdits (edits : List TableEdit) : (afterEdits edits).InStep := by
  induction edits using List.reverseRecOn with
  | nil => exact ⟨List.nodup_nil, fun key => iff_of_false List.not_mem_nil Finmap.notMem_empty⟩
  | append_singleton edits last ih =>
    rw [afterEdits_concat]
    exact ih.edit last

/-- The names of the controls in order are the whole order. -/
theorem InStep.keys_iter (inStep : parts.InStep) : parts.iter.map Prod.fst = parts.order := by
  -- no name of the order is missing in the map, so nothing is left out
  have named : ∀ key ∈ parts.order,
      ((parts.entries.lookup key).map fun control => (key, control)).map Prod.fst = some key := by
    intro key member
    obtain ⟨control, found⟩ := Finmap.mem_iff.mp ((inStep.mem_iff key).mp member)
    rw [found]
    rfl
  rw [iter, List.map_filterMap, List.filterMap_congr named, List.filterMap_some]

/-- A name finds among the controls in order what it finds in the map. -/
theorem InStep.find?_iter (inStep : parts.InStep) (key : String) :
    Keyed.find? Prod.fst key parts.iter =
      (parts.entries.lookup key).map fun control => (key, control) := by
  have keys := inStep.keys_iter
  cases found : parts.entries.lookup key with
  | none =>
    have absent : key ∉ parts.iter.map Prod.fst := by
      rw [keys, inStep.mem_iff]
      exact Finmap.lookup_eq_none.mp found
    rw [Keyed.find?_eq_none_iff.mpr absent, Option.map_none]
  | some control =>
    have listed : key ∈ parts.order :=
      (inStep.mem_iff key).mpr (Finmap.mem_of_lookup_eq_some found)
    have member : (key, control) ∈ parts.iter :=
      List.mem_filterMap.mpr ⟨key, listed, by rw [found, Option.map_some]⟩
    exact Keyed.find?_of_mem Prod.fst (keys.symm ▸ inStep.nodup) member

/-- Parts that are in step are told apart by their controls in order. -/
theorem InStep.eq_of_iter {left right : Parts} (leftInStep : left.InStep)
    (rightInStep : right.InStep) (same : left.iter = right.iter) : left = right := by
  have order : left.order = right.order := by
    rw [← leftInStep.keys_iter, same, rightInStep.keys_iter]
  have entries : left.entries = right.entries := by
    refine Finmap.ext_lookup fun key => ?_
    have found := leftInStep.find?_iter key
    rw [same, rightInStep.find?_iter] at found
    exact (Option.map_injective (Prod.mk_right_injective key) found).symm
  cases left
  cases right
  exact congrArg₂ Parts.mk order entries

/-- Putting a control into the two parts puts it in its place among the controls in order. -/
theorem InStep.iter_insert (inStep : parts.InStep) (key : String) (control : Control) :
    (parts.insert key control).iter = Keyed.upsert Prod.fst (key, control) parts.iter := by
  have after := inStep.insert key control
  -- both sides have the same names in order, and each name finds the same control
  refine Keyed.ext Prod.fst ?_ (after.keys_iter.symm ▸ after.nodup) fun name => ?_
  · rw [after.keys_iter]
    by_cases known : key ∈ parts.entries
    · have listed : key ∈ parts.iter.map Prod.fst := by
        rw [inStep.keys_iter, inStep.mem_iff]
        exact known
      rw [Keyed.keys_upsert_of_mem Prod.fst (key, control) _ listed, inStep.keys_iter]
      exact if_pos known
    · have unlisted : key ∉ parts.iter.map Prod.fst := by
        rw [inStep.keys_iter, inStep.mem_iff]
        exact known
      rw [Keyed.keys_upsert_of_notMem Prod.fst (key, control) _ unlisted, inStep.keys_iter]
      exact if_neg known
  · rw [after.find?_iter]
    show ((parts.entries.insert key control).lookup name).map _ = _
    by_cases same : name = key
    · subst same
      rw [Finmap.lookup_insert, Option.map_some]
      exact (Keyed.find?_upsert_self Prod.fst (name, control) parts.iter).symm
    · rw [Finmap.lookup_insert_of_ne _ same,
        Keyed.find?_upsert_of_ne Prod.fst (key, control) parts.iter same, inStep.find?_iter]

/-- Taking a control out takes its name out of the order. -/
theorem InStep.order_remove (inStep : parts.InStep) (key : String) :
    (parts.remove key).order = parts.order.erase key := by
  unfold Parts.remove
  split
  · rw [inStep.nodup.erase_eq_filter]
    refine List.filter_congr fun name _ => ?_
    rw [decide_not, ← beq_eq_decide, bne]
  · rename_i absent
    rw [← inStep.mem_iff] at absent
    exact (List.erase_of_not_mem absent).symm

/-- In the map a name that was taken out finds nothing, and any other what it found before. -/
theorem lookup_remove (parts : Parts) (key name : String) :
    (parts.remove key).entries.lookup name =
      if name = key then none else parts.entries.lookup name := by
  unfold Parts.remove
  split
  · by_cases same : name = key
    · rw [if_pos same, same, Finmap.lookup_erase]
    · rw [if_neg same, Finmap.lookup_erase_ne same]
  · rename_i absent
    by_cases same : name = key
    · rw [if_pos same, same, Finmap.lookup_eq_none.mpr absent]
    · rw [if_neg same]

/-- Taking a control out of the two parts takes it out from among the controls in order. -/
theorem InStep.iter_remove (inStep : parts.InStep) (key : String) :
    (parts.remove key).iter = Keyed.erase Prod.fst key parts.iter := by
  have after := inStep.remove key
  have distinct : (parts.iter.map Prod.fst).Nodup := inStep.keys_iter.symm ▸ inStep.nodup
  refine Keyed.ext Prod.fst ?_ (after.keys_iter.symm ▸ after.nodup) fun name => ?_
  · rw [after.keys_iter, Keyed.keys_erase, inStep.keys_iter, inStep.order_remove]
  · rw [after.find?_iter, lookup_remove]
    by_cases same : name = key
    · rw [if_pos same, same, Keyed.find?_erase_self Prod.fst key distinct, Option.map_none]
    · rw [if_neg same, Keyed.find?_erase_of_ne Prod.fst parts.iter same, inStep.find?_iter]

/-- The two parts of a table, read off in order, are the table. -/
theorem iter_afterEdits (edits : List TableEdit) :
    (afterEdits edits).iter = (SlotTable.afterEdits edits).toList := by
  induction edits using List.reverseRecOn with
  | nil => rfl
  | append_singleton edits last ih =>
    have inStep := inStep_afterEdits edits
    rw [afterEdits_concat, SlotTable.afterEdits_concat]
    cases last with
    | insert key control =>
      show ((afterEdits edits).insert key control).iter = _
      rw [inStep.iter_insert, ih]
      rfl
    | remove key =>
      show ((afterEdits edits).remove key).iter = _
      rw [inStep.iter_remove, ih]
      rfl

/-- A name finds in the map what it finds in the table. -/
theorem lookup_afterEdits (edits : List TableEdit) (key : String) :
    (afterEdits edits).entries.lookup key = (SlotTable.afterEdits edits).get? key := by
  rw [get?, ← iter_afterEdits, (inStep_afterEdits edits).find?_iter, Option.map_map]
  exact Option.map_id'.symm

/-- The order has as many names as the map. -/
theorem InStep.length_order (inStep : parts.InStep) :
    parts.order.length = parts.entries.keys.card := by
  have keys : parts.order.toFinset = parts.entries.keys := by
    ext key
    rw [List.mem_toFinset, inStep.mem_iff, Finmap.mem_keys]
  rw [← keys, List.toFinset_card_of_nodup inStep.nodup]

end Parts

end SlotTable

end RobotBlocks
