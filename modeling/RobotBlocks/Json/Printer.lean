import RobotBlocks.Json
import RobotBlocks.Json.Escape

/-!
# JSON text

A value is written without white space, with the entries of an object in their order.
-/

set_option autoImplicit false

namespace RobotBlocks.Json

/-- A text between quotes. -/
def textChars (text : String) : List Char :=
  '"' :: escape text ++ ['"']

/-- The digits of a number. -/
def Number.chars : Number → List Char
  | .integer value => (toString value).toList
  | .real negative significand exponent =>
    (if negative then ['-'] else []) ++ (toString significand).toList ++
      'e' :: (toString exponent).toList

mutual

/-- The characters of a value. -/
def chars : Json → List Char
  | .null => ['n', 'u', 'l', 'l']
  | .bool true => ['t', 'r', 'u', 'e']
  | .bool false => ['f', 'a', 'l', 's', 'e']
  | .number value => value.chars
  | .text value => textChars value
  | .list items => '[' :: itemsChars items ++ [']']
  | .object entries => '\x7b' :: entriesChars entries ++ ['\x7d']

/-- The characters of the items of a list. -/
def itemsChars : List Json → List Char
  | [] => []
  | [item] => chars item
  | item :: items => chars item ++ ',' :: itemsChars items

/-- The characters of the entries of an object. -/
def entriesChars : List (String × Json) → List Char
  | [] => []
  | [(key, value)] => textChars key ++ ':' :: chars value
  | (key, value) :: entries => textChars key ++ ':' :: chars value ++ ',' :: entriesChars entries

end

/-- The text of a value. -/
def render (value : Json) : String :=
  String.ofList (chars value)

end RobotBlocks.Json
