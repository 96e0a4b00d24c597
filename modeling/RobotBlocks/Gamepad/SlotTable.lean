import RobotBlocks.Keyed

/-!
# Tables of controls

A table lists the controls of one kind that a controller has, under the name that programs use
for each. The order is that in which the names first came; replacing a control keeps its place.
`get?_insert_self`, `get?_insert_of_ne`, `keys_insert_of_mem` and `keys_insert_of_notMem` say
what an insertion does, through the view `toList`.
-/

set_option autoImplicit false

namespace RobotBlocks

/-- How a control is shown and reached. -/
structure Control where
  /-- The key of its label. -/
  labelKey : String
  /-- The method that reads it, which may come with fixed arguments. -/
  accessor : String
  /-- A hint for the user, such as the sign printed on the button. -/
  comment : String := ""
deriving DecidableEq, Repr

/-- The call of the method that reads a control, with `suffix` at the end of its name. Fixed
arguments stay behind the name; without any, the call has none. -/
def Control.call (control : Control) (suffix : String) : String :=
  let accessor := control.accessor.toList
  let name := String.ofList (accessor.takeWhile (· ≠ '('))
  match accessor.dropWhile (· ≠ '(') with
  | [] => name ++ suffix ++ "()"
  | arguments => name ++ suffix ++ String.ofList arguments

/-- The controls of one kind, each under its name. -/
structure SlotTable where
  /-- The names and controls in the order in which the names first came. -/
  toList : List (String × Control)
deriving DecidableEq, Repr

namespace SlotTable

/-- The table without controls. -/
def empty : SlotTable := ⟨[]⟩

/-- Puts a control under a name, in the place of the one that is there. -/
def insert (table : SlotTable) (key : String) (control : Control) : SlotTable :=
  ⟨Keyed.upsert Prod.fst (key, control) table.toList⟩

/-- Takes the control under a name out. -/
def erase (table : SlotTable) (key : String) : SlotTable :=
  ⟨Keyed.erase Prod.fst key table.toList⟩

/-- The control under a name. -/
def get? (table : SlotTable) (key : String) : Option Control :=
  (Keyed.find? Prod.fst key table.toList).map Prod.snd

/-- The names in order. -/
def keys (table : SlotTable) : List String :=
  table.toList.map Prod.fst

/-- The number of controls. -/
def size (table : SlotTable) : Nat :=
  table.toList.length

/-- Whether there is no control. -/
def isEmpty (table : SlotTable) : Bool :=
  table.toList.isEmpty

/-- The table that results from inserting controls in order. -/
def ofList (controls : List (String × Control)) : SlotTable :=
  controls.foldl (fun table entry => table.insert entry.1 entry.2) empty

/-- A control just put in is found. -/
@[simp]
theorem get?_insert_self (table : SlotTable) (key : String) (control : Control) :
    (table.insert key control).get? key = some control := by
  simp [insert, get?, Keyed.find?_upsert_self Prod.fst (key, control) table.toList]

/-- An insertion is not seen under another name. -/
theorem get?_insert_of_ne (table : SlotTable) {key other : String} (control : Control)
    (different : other ≠ key) : (table.insert key control).get? other = table.get? other := by
  simp [insert, get?, Keyed.find?_upsert_of_ne Prod.fst (key, control) table.toList different]

/-- Replacing a control keeps the names in order. -/
theorem keys_insert_of_mem (table : SlotTable) {key : String} (control : Control)
    (present : key ∈ table.keys) : (table.insert key control).keys = table.keys :=
  Keyed.keys_upsert_of_mem Prod.fst (key, control) table.toList present

/-- A new name goes to the end. -/
theorem keys_insert_of_notMem (table : SlotTable) {key : String} (control : Control)
    (absent : key ∉ table.keys) : (table.insert key control).keys = table.keys ++ [key] :=
  Keyed.keys_upsert_of_notMem Prod.fst (key, control) table.toList absent

/-- Taking a control out takes its name out. -/
theorem keys_erase (table : SlotTable) (key : String) :
    (table.erase key).keys = table.keys.erase key :=
  Keyed.keys_erase Prod.fst key table.toList

end SlotTable

end RobotBlocks
