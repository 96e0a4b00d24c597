import RobotBlocks.Text.Invisible

/-!
# Quoted text

The form in which a message shows a text it complains about: double quotes around it, short
escapes for the quote, the backslash and four controls, and the code point in braces for any
other character that does not show by itself.
-/

set_option autoImplicit false

namespace RobotBlocks.Text

/-- A character as it stands between the quotes. -/
def quotedChar (c : Char) : List Char :=
  if c = '"' then ['\\', '"']
  else if c = '\\' then ['\\', '\\']
  else if c = '\n' then ['\\', 'n']
  else if c = '\r' then ['\\', 'r']
  else if c = '\t' then ['\\', 't']
  else if c = '\x00' then ['\\', '0']
  else if isInvisible c then
    ['\\', 'u', '\x7b'] ++ Nat.toDigits 16 c.toNat ++ ['\x7d']
  else [c]

/-- The text between double quotes, with its escapes. -/
def quote (text : String) : String :=
  String.ofList (['"'] ++ text.toList.flatMap quotedChar ++ ['"'])

end RobotBlocks.Text
