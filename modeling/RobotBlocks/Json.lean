import RobotBlocks.Json.Real
import RobotBlocks.Text.Quoted

/-!
# JSON values

The values that saved states, library functions and project settings are exchanged in. An object
is its list of entries. A reader that keeps one entry per key builds it with `object`, and
look-ups take the first entry with the key.

`Json.describe` is how a message names a value that was not expected where it stands.
-/

set_option autoImplicit false

namespace RobotBlocks

/-- A JSON value. -/
inductive Json
  /-- The value `null`. -/
  | null
  /-- A truth value. -/
  | bool (value : Bool)
  /-- A number. -/
  | number (value : Json.Number)
  /-- A text. -/
  | text (value : String)
  /-- A list of values. -/
  | list (items : List Json)
  /-- Entries, each a key and a value. -/
  | object (entries : List (String × Json))

namespace Json

instance : Inhabited Json := ⟨null⟩

/-- The value under the first entry with the given key. -/
def valueAt? (key : String) (entries : List (String × Json)) : Option Json :=
  entries.lookup key

/-- How a message names a value that was not expected. -/
def describe : Json → String
  | .null => "null"
  | .bool true => "boolean `true`"
  | .bool false => "boolean `false`"
  | .number (.integer value) => "integer `" ++ toString value ++ "`"
  | .number (.real negative significand exponent) =>
    "floating point `" ++ realText negative significand exponent ++ "`"
  | .text value => "string " ++ Text.quote value
  | .list _ => "sequence"
  | .object _ => "map"

/-- The integer that a value is, if it is one. -/
def integer? : Json → Option Int
  | .number (.integer value) => some value
  | _ => none

/-- The text that a value is, if it is one. -/
def text? : Json → Option String
  | .text value => some value
  | _ => none

/-- The items of a list; any other value has none. -/
def items : Json → List Json
  | .list items => items
  | _ => []

/-- The entries of an object; any other value has none. -/
def entries : Json → List (String × Json)
  | .object entries => entries
  | _ => []

/-- The value under a key; `null` where there is none. -/
def get (value : Json) (key : String) : Json :=
  (valueAt? key value.entries).getD .null

/-- The value of an option, or `null`. -/
def ofOption {α : Type} (toJson : α → Json) : Option α → Json
  | none => .null
  | some value => toJson value

end Json

end RobotBlocks
