import RobotBlocks.Json.DecodeFault

/-!
# Records in JSON

A record is written as an object, or as the list of its fields in their order. `Fields` describes
both forms at once: each field gives its name, a second spelling if it has one, how its value is
read, and what stands in for it when it is left out.

An object is read key by key in the order of the keys, and the first key that makes trouble is
the one reported; only when no key does are the fields that are left out looked at, in the order
of the record. `Reading.both` states this without reference to an order of visits: of two
troubles the one under the lesser key counts. Keys are compared by code points, which is the
order of their UTF-8 bytes.

A list is read from its start, and the first trouble counts.
-/

set_option autoImplicit false

namespace RobotBlocks.Json

/-- A way to read a value. -/
abbrev Decoder (α : Type) : Type := Json → Except DecodeFault α

/-- Reads a text. -/
def Decoder.text : Decoder String
  | .text value => .ok value
  | found => .error (.wrongType found .text)

/-- Reads a list; the first item that is refused is reported. -/
def Decoder.list {α : Type} (item : Decoder α) : Decoder (List α)
  | .list items => items.mapM item
  | found => .error (.wrongType found .sequence)

/-- Reads a value that may be `null`. -/
def Decoder.nullable {α : Type} (value : Decoder α) : Decoder (Option α)
  | .null => .ok none
  | found => (value found).map some

/-- What reading some of the entries of an object comes to. -/
inductive Reading (α : Type)
  /-- All is well. -/
  | value (a : α)
  /-- There is trouble under `key`, and under no lesser key. -/
  | faulty (key : String) (fault : DecodeFault)
  /-- The field `name` is left out, and no key makes trouble. -/
  | lacking (name : String)

namespace Reading

variable {α β γ : Type}

/-- Changes the value read. -/
def map (f : α → β) : Reading α → Reading β
  | .value a => .value (f a)
  | .faulty key fault => .faulty key fault
  | .lacking name => .lacking name

/-- Joins the readings of different entries. Trouble under a key comes before a field left out;
of two keys the lesser counts, and of two fields left out the first. -/
def both (f : α → β → γ) : Reading α → Reading β → Reading γ
  | .value a, second => second.map (f a)
  | .faulty key fault, .faulty key' fault' =>
    if key' < key then .faulty key' fault' else .faulty key fault
  | .faulty key fault, _ => .faulty key fault
  | .lacking _, .faulty key' fault' => .faulty key' fault'
  | .lacking name, _ => .lacking name

/-- What reading comes to in the end. -/
def result : Reading α → Except DecodeFault α
  | .value a => .ok a
  | .faulty _ fault => .error fault
  | .lacking name => .error (.missingField name)

/-- The reading of the value under one key. -/
def ofExcept (key : String) : Except DecodeFault α → Reading α
  | .ok a => .value a
  | .error fault => .faulty key fault

/-- The readings of all entries of an object, each read with its key. -/
def entries (read : String → Json → Except DecodeFault α) :
    List (String × Json) → Reading (List α)
  | [] => .value []
  | (key, found) :: rest =>
    both List.cons (ofExcept key (read key found)) (entries read rest)

end Reading

/-- One field of a record. -/
structure Field (α : Type) where
  /-- The name under which it is written, and which messages use. -/
  name : String
  /-- A second spelling of the name. -/
  secondName : Option String
  /-- How its value is read. -/
  decode : Decoder α
  /-- What stands in for it when it is left out; without this it must be there. -/
  absent : Option α

namespace Field

variable {α : Type}

/-- A field that must be there. -/
def required (name : String) (decode : Decoder α) : Field α :=
  { name, secondName := none, decode, absent := none }

/-- A field that may be left out. -/
def optional (name : String) (decode : Decoder α) (absent : α) : Field α :=
  { name, secondName := none, decode, absent := some absent }

/-- The field with a second spelling of its name. -/
def orNamed (field : Field α) (secondName : String) : Field α :=
  { field with secondName := some secondName }

/-- The reading of a field that is there once, under the spelling `key`. -/
def readOnce (field : Field α) (key : String) (value : Json) : Reading α :=
  .ofExcept key (field.decode value)

/-- The reading of a field that is there under two spellings: the value under the lesser key is
read, and the other key is one too many. -/
def readTwice (field : Field α) (key : String) (value : Json) (second : String) : Reading α :=
  match field.decode value with
  | .error fault => .faulty key fault
  | .ok _ => .faulty second (.duplicateField field.name)

/-- The reading of a field that is left out. -/
def readAbsent (field : Field α) : Reading α :=
  match field.absent with
  | some a => .value a
  | none => .lacking field.name

/-- The value under the second spelling, if there is one, with that spelling. -/
def secondValue? (field : Field α) (entries : List (String × Json)) : Option (String × Json) := do
  let name ← field.secondName
  let value ← valueAt? name entries
  some (name, value)

/-- Reads the field from the entries of an object. -/
def ofObject (field : Field α) (entries : List (String × Json)) : Reading α :=
  match valueAt? field.name entries, field.secondValue? entries with
  | none, none => field.readAbsent
  | some value, none => field.readOnce field.name value
  | none, some (second, value) => field.readOnce second value
  | some value, some (second, value') =>
    if second < field.name then field.readTwice second value' field.name
    else field.readTwice field.name value second

end Field

/-- Why the items of a list do not make the fields of a record. -/
inductive Shortfall
  /-- An item is refused. -/
  | faulty (fault : DecodeFault)
  /-- The list ends at `position`, before a field that must be there. -/
  | ended (position : Nat)

/-- Some fields of a record, read in either form. -/
structure Fields (α : Type) where
  /-- How many fields these are. -/
  count : Nat
  /-- Reads them from the entries of an object. -/
  ofObject : List (String × Json) → Reading α
  /-- Reads them from the items of a list that starts at the given position; what is left of the
  list comes with the result. -/
  ofItems : Nat → List Json → Except Shortfall (α × List Json)

namespace Fields

variable {α β : Type}

/-- No field at all. -/
def none (a : α) : Fields α where
  count := 0
  ofObject _ := .value a
  ofItems _ items := .ok (a, items)

/-- Reads one field from the items of a list. -/
def itemOf (field : Field α) (position : Nat) : List Json → Except Shortfall (α × List Json)
  | [] =>
    match field.absent with
    | some a => .ok (a, [])
    | .none => .error (.ended position)
  | item :: rest =>
    match field.decode item with
    | .ok a => .ok (a, rest)
    | .error fault => .error (.faulty fault)

/-- The given fields and one more after them. -/
def and (fields : Fields (α → β)) (field : Field α) : Fields β where
  count := fields.count + 1
  ofObject entries := .both (fun f a => f a) (fields.ofObject entries) (field.ofObject entries)
  ofItems position items := do
    let (f, items) ← fields.ofItems position items
    let (a, items) ← itemOf field (position + fields.count) items
    .ok (f a, items)

/-- Reads a record with these fields; messages call it `name`. -/
def decoder (name : String) (fields : Fields α) : Decoder α
  | .object entries => (fields.ofObject entries).result
  | .list items =>
    match fields.ofItems 0 items with
    | .ok (a, []) => .ok a
    | .ok (_, _ :: _) => .error (.tooManyItems items.length)
    | .error (.faulty fault) => .error fault
    | .error (.ended position) => .error (.tooFewItems position name fields.count)
  | found => .error (.wrongType found (.record name))

end Fields

end RobotBlocks.Json
