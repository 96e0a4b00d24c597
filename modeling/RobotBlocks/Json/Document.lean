import RobotBlocks.Json
import RobotBlocks.Json.Escape
import RobotBlocks.Json.Lexeme
import RobotBlocks.Keyed

/-!
# JSON documents

A `Document` is the structure of a JSON text with its texts and numbers still as written, its
entries in the order of the text, and a repeated key as often as it is repeated. What a reader of
the text has to refuse and what it may overlook is decided on the document; `Document.toJson?` is
the value that a document means when nothing of it is overlooked.

The reader folds one step over the lexemes. Its state is what may come next, together with the
lists and objects that are still open, the innermost first.
-/

set_option autoImplicit false

namespace RobotBlocks.Json

/-- The structure of a JSON text. -/
inductive Document
  /-- The word `null`. -/
  | null
  /-- A truth value. -/
  | bool (value : Bool)
  /-- A number as written. -/
  | number (literal : Literal)
  /-- A text as written between its quotes. -/
  | text (written : List Char)
  /-- The items of a list. -/
  | list (items : List Document)
  /-- The entries of an object in the order of the text. -/
  | object (entries : List (List Char × Document))

namespace Document

/-- A list or an object that is still open; what it holds so far is kept last first. -/
inductive Open
  /-- A list. -/
  | list (items : List Document)
  /-- An object, with the key whose value comes next. -/
  | object (entries : List (List Char × Document)) (key : List Char)

/-- What may come next. -/
inductive Expecting
  /-- A value. -/
  | value
  /-- A value, or the end of a list that was just opened. -/
  | firstItem
  /-- A key, or the end of an object that was just opened. -/
  | firstKey
  /-- A key of an object with these entries. -/
  | key (entries : List (List Char × Document))
  /-- The colon after this key of an object with these entries. -/
  | colon (entries : List (List Char × Document)) (key : List Char)
  /-- The comma or the end after an item or an entry, or the end of the text. -/
  | next (value : Document)

/-- The state of the reader: what may come next, and the open lists and objects, innermost
first. -/
structure Reader where
  /-- What may come next. -/
  expecting : Expecting
  /-- The open lists and objects, innermost first. -/
  enclosing : List Open

/-- The state at the start of a text. -/
def Reader.start : Reader := ⟨.value, []⟩

/-- Takes the first lexeme of a value. -/
def Reader.value (enclosing : List Open) : Lexeme → Option Reader
  | .null => some ⟨.next .null, enclosing⟩
  | .bool value => some ⟨.next (.bool value), enclosing⟩
  | .number literal => some ⟨.next (.number literal), enclosing⟩
  | .text written => some ⟨.next (.text written), enclosing⟩
  | .openList => some ⟨.firstItem, enclosing⟩
  | .openObject => some ⟨.firstKey, enclosing⟩
  | _ => none

/-- Takes the lexeme after a value that stands within a list or an object. -/
def Reader.next (value : Document) : List Open → Lexeme → Option Reader
  | .list items :: outer, .comma => some ⟨.value, .list (value :: items) :: outer⟩
  | .list items :: outer, .closeList =>
    some ⟨.next (.list (value :: items).reverse), outer⟩
  | .object entries key :: outer, .comma => some ⟨.key ((key, value) :: entries), outer⟩
  | .object entries key :: outer, .closeObject =>
    some ⟨.next (.object ((key, value) :: entries).reverse), outer⟩
  | _, _ => none

/-- Takes the next lexeme. -/
def Reader.step (reader : Reader) (lexeme : Lexeme) : Option Reader :=
  match reader.expecting, lexeme with
  | .value, lexeme => Reader.value reader.enclosing lexeme
  | .firstItem, .closeList => some ⟨.next (.list []), reader.enclosing⟩
  | .firstItem, lexeme => Reader.value (.list [] :: reader.enclosing) lexeme
  | .firstKey, .closeObject => some ⟨.next (.object []), reader.enclosing⟩
  | .firstKey, .text key => some ⟨.colon [] key, reader.enclosing⟩
  | .key entries, .text key => some ⟨.colon entries key, reader.enclosing⟩
  | .colon entries key, .colon => some ⟨.value, .object entries key :: reader.enclosing⟩
  | .next value, lexeme => Reader.next value reader.enclosing lexeme
  | _, _ => none

/-- The document read, once the text has ended. -/
def Reader.finish : Reader → Option Document
  | ⟨.next value, []⟩ => some value
  | _ => none

/-- The document that a row of lexemes makes. -/
def ofLexemes? (lexemes : List Lexeme) : Option Document := do
  let reader ← lexemes.foldlM Reader.step Reader.start
  reader.finish

/-- The document that a text makes, if the text is JSON. -/
def ofText? (text : String) : Option Document := do
  let lexemes ← lexemes? text.toList
  ofLexemes? lexemes

mutual

/-- The value that a document means, if each of its texts is one. The last of several entries
with one key counts. -/
def toJson? : Document → Option Json
  | .null => some .null
  | .bool value => some (.bool value)
  | .number literal => some (.number literal.number)
  | .text written => (unescape? written).map .text
  | .list items => (itemsToJson? items).map .list
  | .object entries =>
    (entriesToJson? entries).map fun entries =>
      .object (entries.foldl (fun kept entry => Keyed.upsert Prod.fst entry kept) [])

/-- The values of the items of a list. -/
def itemsToJson? : List Document → Option (List Json)
  | [] => some []
  | item :: items => do
    let value ← toJson? item
    let values ← itemsToJson? items
    some (value :: values)

/-- The values of the entries of an object, repeated keys included. -/
def entriesToJson? : List (List Char × Document) → Option (List (String × Json))
  | [] => some []
  | (key, item) :: entries => do
    let key ← unescape? key
    let value ← toJson? item
    let values ← entriesToJson? entries
    some ((key, value) :: values)

end

end Document

/-- The value that a text means, if the text is JSON. -/
def ofText? (text : String) : Option Json := do
  let document ← Document.ofText? text
  document.toJson?

end RobotBlocks.Json
