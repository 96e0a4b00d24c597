import RobotBlocks.Fault
import RobotBlocks.Gamepad.SlotTable

/-!
# Profiles of controllers

A profile says which controls a controller has. It is declared by its tables, as the same as
another profile, or as derived from one. The base must be registered before, and what is taken
from it is taken at the moment of registration. A registry only ever grows.
-/

set_option autoImplicit false

namespace RobotBlocks

/-- The controls of a controller, by kind. No table means no control of the kind. -/
structure ControlTables where
  /-- The buttons. -/
  buttons : Option SlotTable := none
  /-- The axes. -/
  axes : Option SlotTable := none
  /-- The rumble motors. -/
  rumble : Option SlotTable := none
  /-- The lights. -/
  leds : Option SlotTable := none
deriving DecidableEq, Repr

namespace ControlTables

/-- The table of a kind of control. -/
def table (tables : ControlTables) : Slot → Option SlotTable
  | .button => tables.buttons
  | .axis => tables.axes
  | .rumble => tables.rumble
  | .led => tables.leds

/-- The tables with the one of a kind replaced. -/
def setTable (tables : ControlTables) (slot : Slot) (table : Option SlotTable) : ControlTables :=
  match slot with
  | .button => { tables with buttons := table }
  | .axis => { tables with axes := table }
  | .rumble => { tables with rumble := table }
  | .led => { tables with leds := table }

/-- A table just replaced is the new one. -/
@[simp]
theorem table_setTable_self (tables : ControlTables) (slot : Slot) (table : Option SlotTable) :
    (tables.setTable slot table).table slot = table := by
  cases slot <;> rfl

/-- Replacing a table leaves those of other kinds as they are. -/
theorem table_setTable_of_ne (tables : ControlTables) {slot other : Slot}
    (table : Option SlotTable) (different : other ≠ slot) :
    (tables.setTable slot table).table other = tables.table other := by
  cases slot <;> cases other <;> first | rfl | exact absurd rfl different

end ControlTables

/-- What a profile does otherwise than its base. -/
structure Derivation where
  /-- The base. -/
  base : Controller
  /-- Controls put in, or in the place of those of the base. -/
  overrides : List (Slot × String × Control) := []
  /-- Controls taken out. -/
  removals : List (Slot × String) := []
  /-- Kinds of control that are missing altogether. -/
  without : List Slot := []
deriving DecidableEq, Repr

namespace Derivation

/-- Puts one control in; a missing table is begun. -/
def override (tables : ControlTables) (entry : Slot × String × Control) : ControlTables :=
  let (slot, key, control) := entry
  tables.setTable slot (some (((tables.table slot).getD .empty).insert key control))

/-- Takes one control out. -/
def remove (tables : ControlTables) (entry : Slot × String) : ControlTables :=
  let (slot, key) := entry
  tables.setTable slot ((tables.table slot).map fun table => table.erase key)

/-- Takes a whole table out. -/
def drop (tables : ControlTables) (slot : Slot) : ControlTables :=
  tables.setTable slot none

/-- The tables of the derived profile: the overrides come first, then the removals, then the
missing kinds. -/
def apply (derivation : Derivation) (base : ControlTables) : ControlTables :=
  let tables := derivation.overrides.foldl override base
  let tables := derivation.removals.foldl remove tables
  derivation.without.foldl drop tables

end Derivation

/-- How a profile is declared. -/
inductive Declaration
  /-- By its tables. -/
  | tables (tables : ControlTables)
  /-- As the same as another profile. -/
  | sameAs (base : Controller)
  /-- As derived from another profile. -/
  | derivedFrom (derivation : Derivation)
deriving DecidableEq, Repr

/-- The profile of a controller. -/
structure Profile where
  /-- The controller. -/
  controller : Controller
  /-- Its controls. -/
  tables : ControlTables
deriving DecidableEq, Repr

/-- A control of a profile; none when there is no such table or no such name in it. -/
def Profile.control? (profile : Profile) (slot : Slot) (key : String) : Option Control := do
  let table ← profile.tables.table slot
  table.get? key

/-- The profiles known, in the order of their registration. -/
structure Registry where
  /-- The profiles. -/
  profiles : List Profile := []
deriving DecidableEq, Repr

namespace Registry

/-- The profile of a controller, if there is one. -/
def find? (registry : Registry) (controller : Controller) : Option Profile :=
  Keyed.find? Profile.controller controller registry.profiles

/-- The profile of a controller, which must be there. -/
def resolve (registry : Registry) (controller : Controller) : Except Fault Profile :=
  match registry.find? controller with
  | some profile => .ok profile
  | none => .error (.unknownProfile controller)

/-- The tables that a declaration comes to. -/
def tablesOf (registry : Registry) : Declaration → Except Fault ControlTables
  | .tables tables => .ok tables
  | .sameAs base => (registry.resolve base).map Profile.tables
  | .derivedFrom derivation =>
    (registry.resolve derivation.base).map fun base => derivation.apply base.tables

/-- Adds the profile of a controller that has none yet. -/
def register (registry : Registry) (controller : Controller) (declaration : Declaration) :
    Except Fault Registry :=
  match registry.find? controller with
  | some _ => .error (.duplicateProfile controller)
  | none =>
    (registry.tablesOf declaration).map fun tables =>
      ⟨registry.profiles ++ [⟨controller, tables⟩]⟩

/-- A control of a controller; none when there is no such profile either. -/
def control? (registry : Registry) (controller : Controller) (slot : Slot) (key : String) :
    Option Control := do
  let profile ← registry.find? controller
  profile.control? slot key

/-- The number of profiles. -/
def size (registry : Registry) : Nat :=
  registry.profiles.length

/-- Whether there is no profile. -/
def isEmpty (registry : Registry) : Bool :=
  registry.profiles.isEmpty

end Registry

end RobotBlocks
