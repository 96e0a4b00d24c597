import Mathlib.Data.List.Basic
import Mathlib.Logic.Relation
import RobotBlocks.Proofs.RecordReading
import RobotBlocks.SavedState.Interchange

/-!
# Spellings of a saved node

`SavedState.Reads` lists what each field of a saved node reads from the entries of an object, and
`ofJson_object_eq_ok_iff` says that this is what the reader does. A saved node is read back from
what is written for it (`reads_entries`).

`Respelling` is one change to an object that has no meaning for the saved node in it. What the
fields keep reading one by one, the saved node keeps (`Reads.of_each`), so each change is a matter
of a single field (`Respelling.reads`); a run of changes follows by induction. The main statement
is `saved_json_is_lossless_in_any_spelling`.
-/

set_option autoImplicit false

namespace RobotBlocks

open Json

/-! ## Reading back -/

/-- An argument is read back from what is written for it. -/
theorem Argument.decoder_toJson (argument : Argument) :
    Argument.decoder argument.toJson = .ok argument := rfl

/-- Arguments are read back from the list that is written for them. -/
theorem Argument.decoder_list_toJson (given : List Argument) :
    Decoder.list Argument.decoder (.list (given.map Argument.toJson)) = .ok given := by
  show (given.map Argument.toJson).mapM Argument.decoder = .ok given
  have each : (Argument.decoder ∘ Argument.toJson) = fun argument => pure argument :=
    funext Argument.decoder_toJson
  rw [List.mapM_map, each, List.mapM_pure]
  simp [pure, Except.pure]

/-- An identifier is read back where there may be `null` too. -/
theorem NodeId.nullable_decoder_toJson (id : NodeId) :
    Decoder.nullable NodeId.decoder id.toJson = .ok (some id) := rfl

namespace SavedState

/-- The fields of a saved node, each with what it reads from the entries of an object. -/
structure Reads (entries : List (String × Json)) (state : SavedState) : Prop where
  kindTag : ((Field.required "functionKind" .text).orNamed "kind").Reads entries state.kindTag
  returnText : (Field.required "returnType" .text).Reads entries state.returnText
  arguments :
    (Field.optional "args" (.list Argument.decoder) []).Reads entries state.arguments
  tooltip : (Field.optional "tooltip" .text "").Reads entries state.tooltip
  importModule : (Field.optional "importModule" .text "").Reads entries state.importModule
  calleeName :
    ((Field.optional "actualFunctionName" .text "").orNamed "actualCalleeName").Reads entries
      state.calleeName
  definitionId :
    ((Field.optional "classMethodDefBlockId" (.nullable NodeId.decoder) none).orNamed
      "calleeDefinitionId").Reads entries state.definitionId
  componentName : (Field.optional "componentName" .text "").Reads entries state.componentName
  componentClass :
    ((Field.optional "componentClassName" .text "").orNamed "componentTypeName").Reads entries
      state.componentClass
  componentId :
    ((Field.optional "componentBlockId" (.nullable NodeId.decoder) none).orNamed
      "componentId").Reads entries state.componentId

/-- The fields of a saved node are read from the entries of an object exactly if each of them is. -/
theorem fields_eq_value_iff {entries : List (String × Json)} {state : SavedState} :
    fields.ofObject entries = .value state ↔ Reads entries state := by
  constructor
  · intro ten
    obtain ⟨_, _, nine, componentId, rfl⟩ := (Fields.and_eq_value_iff (by decide)).mp ten
    obtain ⟨_, _, eight, componentClass, rfl⟩ := (Fields.and_eq_value_iff (by decide)).mp nine
    obtain ⟨_, _, seven, componentName, rfl⟩ := (Fields.and_eq_value_iff (by decide)).mp eight
    obtain ⟨_, _, six, definitionId, rfl⟩ := (Fields.and_eq_value_iff (by decide)).mp seven
    obtain ⟨_, _, five, calleeName, rfl⟩ := (Fields.and_eq_value_iff (by decide)).mp six
    obtain ⟨_, _, four, importModule, rfl⟩ := (Fields.and_eq_value_iff (by decide)).mp five
    obtain ⟨_, _, three, tooltip, rfl⟩ := (Fields.and_eq_value_iff (by decide)).mp four
    obtain ⟨_, _, two, arguments, rfl⟩ := (Fields.and_eq_value_iff (by decide)).mp three
    obtain ⟨_, _, one, returnText, rfl⟩ := (Fields.and_eq_value_iff (by decide)).mp two
    obtain ⟨_, _, nothing, kindTag, rfl⟩ := (Fields.and_eq_value_iff (by decide)).mp one
    cases nothing
    exact {
      kindTag, returnText, arguments, tooltip, importModule, calleeName, definitionId,
      componentName, componentClass, componentId }
  · intro reads
    obtain ⟨_, _, _, _, _, _, _, _, _, _⟩ := state
    refine (Fields.and_eq_value_iff (by decide)).mpr ⟨_, _, ?_, reads.componentId, rfl⟩
    refine (Fields.and_eq_value_iff (by decide)).mpr ⟨_, _, ?_, reads.componentClass, rfl⟩
    refine (Fields.and_eq_value_iff (by decide)).mpr ⟨_, _, ?_, reads.componentName, rfl⟩
    refine (Fields.and_eq_value_iff (by decide)).mpr ⟨_, _, ?_, reads.definitionId, rfl⟩
    refine (Fields.and_eq_value_iff (by decide)).mpr ⟨_, _, ?_, reads.calleeName, rfl⟩
    refine (Fields.and_eq_value_iff (by decide)).mpr ⟨_, _, ?_, reads.importModule, rfl⟩
    refine (Fields.and_eq_value_iff (by decide)).mpr ⟨_, _, ?_, reads.tooltip, rfl⟩
    refine (Fields.and_eq_value_iff (by decide)).mpr ⟨_, _, ?_, reads.arguments, rfl⟩
    refine (Fields.and_eq_value_iff (by decide)).mpr ⟨_, _, ?_, reads.returnText, rfl⟩
    exact (Fields.and_eq_value_iff (by decide)).mpr ⟨_, _, rfl, reads.kindTag, rfl⟩

/-- A saved node is read from an object exactly if each of its fields is read from the entries. -/
theorem ofJson_object_eq_ok_iff {entries : List (String × Json)} {state : SavedState} :
    ofJson (.object entries) = .ok state ↔ Reads entries state := by
  rw [← fields_eq_value_iff, ← Fields.decoder_object_eq_ok_iff]
  unfold ofJson decoder
  cases Fields.decoder "ExtraState" fields (.object entries) <;> simp [Except.mapError]

/-! ## What is written -/

/-- A text that is not empty stands under its name, and an empty one is left out. -/
@[simp]
theorem valueAt?_textEntry (key name value : String) :
    valueAt? key (textEntry name value) =
      if key = name ∧ value ≠ "" then some (.text value) else none := by
  unfold textEntry
  by_cases empty : value = ""
  · simp [empty, valueAt?_nil]
  · simp [empty, valueAt?_cons, valueAt?_nil]

/-- An identifier stands under its name, where there is one. -/
@[simp]
theorem valueAt?_idEntry (key name : String) (id : Option NodeId) :
    valueAt? key (idEntry name id) = if key = name then id.map NodeId.toJson else none := by
  cases id with
  | none => simp [idEntry, valueAt?_nil]
  | some id => simp [idEntry, valueAt?_cons, valueAt?_nil]

/-- What stands under a key of the object written for a saved node. -/
@[simp]
theorem valueAt?_entries (state : SavedState) (key : String) :
    valueAt? key state.entries =
      if key = "functionKind" then some (.text state.kindTag)
      else if key = "returnType" then some (.text state.returnText)
      else if key = "args" then some (.list (state.arguments.map Argument.toJson))
      else (valueAt? key (textEntry "tooltip" state.tooltip)).or
        ((valueAt? key (textEntry "importModule" state.importModule)).or
          ((valueAt? key (textEntry "actualFunctionName" state.calleeName)).or
            ((valueAt? key (idEntry "classMethodDefBlockId" state.definitionId)).or
              ((valueAt? key (textEntry "componentName" state.componentName)).or
                ((valueAt? key (textEntry "componentClassName" state.componentClass)).or
                  (valueAt? key (idEntry "componentBlockId" state.componentId))))))) := by
  simp only [SavedState.entries, List.append_assoc, List.cons_append, List.nil_append,
    valueAt?_cons, valueAt?_append]

section Written

variable {entries : List (String × Json)}

/-- A text is read from where it is written, and a text that is left out is read as the empty one.
-/
theorem reads_text {field : Json.Field String} {value : String}
    (reading : field.decode = Decoder.text) (empty : field.absent = some "")
    (found : valueAt? field.name entries = if value = "" then none else some (.text value))
    (only : ∀ second, field.secondName = some second → valueAt? second entries = none) :
    field.Reads entries value := by
  refine Field.reads_of_name only ?_
  rw [found]
  by_cases filled : value = ""
  · simp [filled, empty]
  · simp [filled, reading, Decoder.text]

/-- An identifier is read from where it is written, and one that is left out is read as none. -/
theorem reads_id {field : Json.Field (Option NodeId)} {id : Option NodeId}
    (reading : field.decode = Decoder.nullable NodeId.decoder) (empty : field.absent = some none)
    (found : valueAt? field.name entries = id.map NodeId.toJson)
    (only : ∀ second, field.secondName = some second → valueAt? second entries = none) :
    field.Reads entries id := by
  refine Field.reads_of_name only ?_
  rw [found]
  cases id with
  | none => exact empty
  | some id => rw [reading]; exact NodeId.nullable_decoder_toJson id

end Written

/-- A saved node is read back from what is written for it. -/
theorem reads_entries (state : SavedState) : Reads state.entries state where
  kindTag := by
    refine Field.reads_of_name ?_ ?_
    · simp [Field.required, Field.orNamed]
    · simp [Field.required, Field.orNamed, Decoder.text]
  returnText := by
    refine Field.reads_of_name ?_ ?_
    · simp [Field.required]
    · simp [Field.required, Decoder.text]
  arguments := by
    refine Field.reads_of_name ?_ ?_
    · simp [Field.optional]
    · simp [Field.optional, Argument.decoder_list_toJson]
  tooltip := reads_text rfl rfl (by simp [Field.optional]) (by simp [Field.optional])
  importModule := reads_text rfl rfl (by simp [Field.optional]) (by simp [Field.optional])
  calleeName :=
    reads_text rfl rfl (by simp [Field.optional, Field.orNamed])
      (by simp [Field.optional, Field.orNamed])
  definitionId :=
    reads_id rfl rfl (by simp [Field.optional, Field.orNamed])
      (by simp [Field.optional, Field.orNamed])
  componentName := reads_text rfl rfl (by simp [Field.optional]) (by simp [Field.optional])
  componentClass :=
    reads_text rfl rfl (by simp [Field.optional, Field.orNamed])
      (by simp [Field.optional, Field.orNamed])
  componentId :=
    reads_id rfl rfl (by simp [Field.optional, Field.orNamed])
      (by simp [Field.optional, Field.orNamed])

/-! ## Which keys are written -/

/-- The texts that are written unless they are empty. -/
def texts (state : SavedState) : List (String × String) :=
  [("tooltip", state.tooltip), ("importModule", state.importModule),
    ("actualFunctionName", state.calleeName), ("componentName", state.componentName),
    ("componentClassName", state.componentClass)]

/-- The identifiers that are written if there are any. -/
def ids (state : SavedState) : List (String × Option NodeId) :=
  [("classMethodDefBlockId", state.definitionId), ("componentBlockId", state.componentId)]

/-- What is to be written for a saved node under a key. -/
inductive Writes (state : SavedState) : String → Json → Prop
  | kindTag : Writes state "functionKind" (.text state.kindTag)
  | returnText : Writes state "returnType" (.text state.returnText)
  | arguments : Writes state "args" (.list (state.arguments.map Argument.toJson))
  | text {key value : String} (named : (key, value) ∈ state.texts) (filled : value ≠ "") :
    Writes state key (.text value)
  | id {key : String} {id : NodeId} (named : (key, some id) ∈ state.ids) :
    Writes state key id.toJson

/-- What is written for a text is one entry, if the text is not empty. -/
theorem mem_textEntry_iff {key name value : String} {written : Json} :
    (key, written) ∈ textEntry name value ↔ key = name ∧ written = .text value ∧ value ≠ "" := by
  unfold textEntry
  by_cases empty : value = "" <;> simp [empty]

/-- What is written for an identifier is one entry, if there is one. -/
theorem mem_idEntry_iff {key name : String} {id : Option NodeId} {written : Json} :
    (key, written) ∈ idEntry name id ↔
      key = name ∧ ∃ given, some given = id ∧ written = given.toJson := by
  cases id <;> simp [idEntry]

/-- The entries that are written for a saved node are those that it is said to write. -/
theorem mem_entries_iff {state : SavedState} {key : String} {value : Json} :
    (key, value) ∈ state.entries ↔ state.Writes key value := by
  simp only [entries, List.mem_append, mem_textEntry_iff, mem_idEntry_iff, List.mem_cons,
    List.not_mem_nil, or_false, Prod.mk.injEq, or_assoc]
  constructor
  · rintro (⟨rfl, rfl⟩ | ⟨rfl, rfl⟩ | ⟨rfl, rfl⟩ | ⟨rfl, rfl, filled⟩ | ⟨rfl, rfl, filled⟩ |
      ⟨rfl, rfl, filled⟩ | ⟨rfl, there, given, rfl⟩ | ⟨rfl, rfl, filled⟩ | ⟨rfl, rfl, filled⟩ |
      ⟨rfl, there, given, rfl⟩)
    · exact .kindTag
    · exact .returnText
    · exact .arguments
    · exact .text (by simp [texts]) filled
    · exact .text (by simp [texts]) filled
    · exact .text (by simp [texts]) filled
    · exact .id (by simp [ids, given])
    · exact .text (by simp [texts]) filled
    · exact .text (by simp [texts]) filled
    · exact .id (by simp [ids, given])
  · intro writes
    cases writes with
    | kindTag => simp
    | returnText => simp
    | arguments => simp
    | text named filled =>
      simp only [texts, List.mem_cons, Prod.mk.injEq, List.not_mem_nil, or_false] at named
      rcases named with ⟨rfl, rfl⟩ | ⟨rfl, rfl⟩ | ⟨rfl, rfl⟩ | ⟨rfl, rfl⟩ | ⟨rfl, rfl⟩
      all_goals simp [filled]
    | id named =>
      simp only [ids, List.mem_cons, Prod.mk.injEq, List.not_mem_nil, or_false] at named
      rcases named with ⟨rfl, given⟩ | ⟨rfl, given⟩
      all_goals simp [← given]

/-- What is written for a text has no key but the name. -/
theorem keys_textEntry_sublist (name value : String) :
    ((textEntry name value).map Prod.fst).Sublist [name] := by
  unfold textEntry
  split <;> simp

/-- What is written for an identifier has no key but the name. -/
theorem keys_idEntry_sublist (name : String) (id : Option NodeId) :
    ((idEntry name id).map Prod.fst).Sublist [name] := by
  cases id <;> simp [idEntry]

/-- No key is written twice. -/
theorem nodup_keys_entries (state : SavedState) : (state.entries.map Prod.fst).Nodup := by
  have order : (state.entries.map Prod.fst).Sublist
      (["functionKind", "returnType", "args"] ++ ["tooltip"] ++ ["importModule"] ++
        ["actualFunctionName"] ++ ["classMethodDefBlockId"] ++ ["componentName"] ++
        ["componentClassName"] ++ ["componentBlockId"]) := by
    simp only [entries, List.map_append]
    exact (((((((List.Sublist.refl _).append (keys_textEntry_sublist _ _)).append
      (keys_textEntry_sublist _ _)).append (keys_textEntry_sublist _ _)).append
      (keys_idEntry_sublist _ _)).append (keys_textEntry_sublist _ _)).append
      (keys_textEntry_sublist _ _)).append (keys_idEntry_sublist _ _)
  exact order.nodup (by decide)

/-! ## Respelling -/

/-- The keys that mean the same, field by field. -/
def spellings : List (List String) :=
  [["functionKind", "kind"], ["returnType"], ["args"], ["tooltip"], ["importModule"],
    ["actualFunctionName", "actualCalleeName"], ["classMethodDefBlockId", "calleeDefinitionId"],
    ["componentName"], ["componentClassName", "componentTypeName"],
    ["componentBlockId", "componentId"]]

/-- The keys of the identifiers. -/
def idSpellings : List (List String) :=
  [["classMethodDefBlockId", "calleeDefinitionId"], ["componentBlockId", "componentId"]]

/-- The names that have a second spelling, with it. -/
def secondNames : List (String × String) :=
  [("functionKind", "kind"), ("actualFunctionName", "actualCalleeName"),
    ("classMethodDefBlockId", "calleeDefinitionId"), ("componentClassName", "componentTypeName"),
    ("componentBlockId", "componentId")]

/-- The other spelling of a key, if it has one. -/
def otherSpelling (key : String) : String :=
  ((secondNames ++ secondNames.map Prod.swap).lookup key).getD key

/-- A key in its other spelling, if it is among the chosen ones. -/
def respell (chosen : String → Bool) (key : String) : String :=
  if chosen key then otherSpelling key else key

/-- Changes to the entries of an object that leave the saved node in it as it is. -/
inductive Respelling : List (String × Json) → List (String × Json) → Prop
  /-- The same stands under each key, as when the entries are put in another order. -/
  | reorder {before after : List (String × Json)}
    (same : ∀ key, valueAt? key after = valueAt? key before) : Respelling before after
  /-- The chosen keys get their other spelling. -/
  | rename (chosen : String → Bool) (entries : List (String × Json)) :
    Respelling entries (renameKeys (respell chosen) entries)
  /-- A key without a meaning is added. -/
  | unknown {front back : List (String × Json)} {key : String} (value : Json)
    (meaningless : key ∉ spellings.flatten) :
    Respelling (front ++ back) (front ++ (key, value) :: back)
  /-- An identifier that is left out is set to `null`. -/
  | null {front back : List (String × Json)} {key : String} {names : List String}
    (id : names ∈ idSpellings) (spelled : key ∈ names)
    (missing : ∀ name ∈ names, valueAt? name (front ++ back) = none) :
    Respelling (front ++ back) (front ++ (key, .null) :: back)
  /-- The saved node is read and written anew. -/
  | encode {entries : List (String × Json)} {state : SavedState}
    (read : ofJson (.object entries) = .ok state) : Respelling entries state.entries

/-- What each field of a saved node keeps reading is kept for the saved node. -/
theorem Reads.of_each {before after : List (String × Json)} {state : SavedState}
    (reads : Reads before state)
    (each : ∀ {α : Type} (field : Json.Field α) (a : α), field.spellings ∈ spellings →
      (field.spellings ∈ idSpellings → field.NullIsAbsent) →
      field.Reads before a → field.Reads after a) :
    Reads after state := by
  have nullable : ∀ name second,
      ((Field.optional name (.nullable NodeId.decoder) none).orNamed second).NullIsAbsent := by
    intro name second default given
    rw [← Option.some.inj given]
    rfl
  exact {
    kindTag := each _ _ (by decide) (fun id => absurd id (by decide)) reads.kindTag
    returnText := each _ _ (by decide) (fun id => absurd id (by decide)) reads.returnText
    arguments := each _ _ (by decide) (fun id => absurd id (by decide)) reads.arguments
    tooltip := each _ _ (by decide) (fun id => absurd id (by decide)) reads.tooltip
    importModule := each _ _ (by decide) (fun id => absurd id (by decide)) reads.importModule
    calleeName := each _ _ (by decide) (fun id => absurd id (by decide)) reads.calleeName
    definitionId := each _ _ (by decide) (fun _ => nullable _ _) reads.definitionId
    componentName := each _ _ (by decide) (fun id => absurd id (by decide)) reads.componentName
    componentClass := each _ _ (by decide) (fun id => absurd id (by decide)) reads.componentClass
    componentId := each _ _ (by decide) (fun _ => nullable _ _) reads.componentId }

/-- A key that no field looks under has no other spelling. -/
theorem otherSpelling_of_unknown {key : String} (unknown : key ∉ spellings.flatten) :
    otherSpelling key = key := by
  have known : ∀ pair ∈ secondNames ++ secondNames.map Prod.swap, pair.1 ∈ spellings.flatten := by
    decide
  have missing : (secondNames ++ secondNames.map Prod.swap).lookup key = none := by
    rw [List.lookup_eq_none_iff]
    intro pair member
    rw [bne_iff_ne]
    rintro rfl
    exact unknown (known pair member)
  rw [otherSpelling, missing, Option.getD_none]

/-- The other spelling of a key belongs to the same field. -/
theorem otherSpelling_mem_iff {names : List String} (listed : names ∈ spellings) (key : String) :
    otherSpelling key ∈ names ↔ key ∈ names := by
  by_cases known : key ∈ spellings.flatten
  · have all : ∀ names ∈ spellings, ∀ key ∈ spellings.flatten,
        (otherSpelling key ∈ names ↔ key ∈ names) := by decide
    exact all names listed key known
  · rw [otherSpelling_of_unknown known]

/-- A key that is respelled belongs to the same field. -/
theorem respell_mem_iff {names : List String} (listed : names ∈ spellings)
    (chosen : String → Bool) (key : String) : respell chosen key ∈ names ↔ key ∈ names := by
  unfold respell
  split
  · exact otherSpelling_mem_iff listed key
  · rfl

/-- Two lists of keys that share a key belong to the same field. -/
theorem eq_of_mem_spellings {key : String} {names others : List String} (listed : names ∈ spellings)
    (listedToo : others ∈ spellings) (spelled : key ∈ names) (spelledToo : key ∈ others) :
    names = others := by
  have all : ∀ names ∈ spellings, ∀ others ∈ spellings, ∀ key ∈ names, key ∈ others →
      names = others := by decide
  exact all names listed others listedToo key spelled spelledToo

/-- One change leaves what is read as it is. -/
theorem Respelling.reads {before after : List (String × Json)} {state : SavedState}
    (change : Respelling before after) (reads : Reads before state) : Reads after state := by
  cases change with
  | reorder same => exact reads.of_each fun field a _ _ here => here.of_same fun key _ => same key
  | rename chosen =>
    exact reads.of_each fun field a listed _ here => here.rename (respell_mem_iff listed chosen)
  | @unknown front back key value meaningless =>
    refine reads.of_each fun field a listed _ here => here.of_same fun target spelled => ?_
    refine valueAt?_insert_of_ne ?_ value
    rintro rfl
    exact meaningless (List.mem_flatten.mpr ⟨field.spellings, listed, spelled⟩)
  | @null front back key names id spelled missing =>
    have ids : ∀ names ∈ idSpellings, names ∈ spellings := by decide
    refine reads.of_each fun field a listed nullable here => ?_
    by_cases own : key ∈ field.spellings
    · obtain rfl := eq_of_mem_spellings (ids names id) listed spelled own
      exact here.insert_null missing own (nullable id)
    · -- A field that does not look under the key reads what it read.
      refine here.of_same fun target spelledHere => valueAt?_insert_of_ne ?_ .null
      rintro rfl
      exact own spelledHere
  | encode read =>
    have same := reads
    rw [← ofJson_object_eq_ok_iff, read, Except.ok.injEq] at same
    rw [same]
    exact reads_entries state

/-- No saved node is read from an object that has both spellings of a field. -/
theorem not_reads_of_both {entries : List (String × Json)} {state : SavedState}
    {name second : String} (paired : (name, second) ∈ secondNames)
    (first : valueAt? name entries ≠ none) (also : valueAt? second entries ≠ none) :
    ¬Reads entries state := by
  intro reads
  have different : name ≠ second := by
    have all : ∀ pair ∈ secondNames, pair.1 ≠ pair.2 := by decide
    exact all (name, second) paired
  have clash : ∀ {α : Type} {field : Json.Field α} {a : α}, field.Reads entries a →
      name ∈ field.spellings → second ∉ field.spellings := by
    intro α field a here spelled spelledToo
    rcases here.once spelled spelledToo different with missing | missing
    · exact first missing
    · exact also missing
  simp only [secondNames, List.mem_cons, Prod.mk.injEq, List.not_mem_nil, or_false] at paired
  rcases paired with ⟨rfl, rfl⟩ | ⟨rfl, rfl⟩ | ⟨rfl, rfl⟩ | ⟨rfl, rfl⟩ | ⟨rfl, rfl⟩
  · exact clash reads.kindTag (by decide) (by decide)
  · exact clash reads.calleeName (by decide) (by decide)
  · exact clash reads.definitionId (by decide) (by decide)
  · exact clash reads.componentClass (by decide) (by decide)
  · exact clash reads.componentId (by decide) (by decide)

/-- Nothing of a saved node is lost in JSON, and the spelling of its keys does not matter. A saved
node is read back from the object written for it. The object has no key twice and has just the keys
of the kind, the return type and the arguments, of each text that is not empty, and of each
identifier there is, be it empty. What is read from an object stays the same after any number of
these changes, in any order: keys change place, any set of keys gets its other spelling, a key
without a meaning is added, an identifier that is left out is set to `null`, the saved node is
written anew. An object with both spellings of a key is refused. -/
theorem saved_json_is_lossless_in_any_spelling :
    (∀ state : SavedState, ofJson state.toJson = .ok state ∧
      (state.toJson.entries.map Prod.fst).Nodup ∧
      ∀ key value, (key, value) ∈ state.toJson.entries ↔ state.Writes key value) ∧
    (∀ (before after : List (String × Json)) (state : SavedState),
      ofJson (.object before) = .ok state → Relation.ReflTransGen Respelling before after →
        ofJson (.object after) = .ok state) ∧
    ∀ (entries : List (String × Json)) (name second : String), (name, second) ∈ secondNames →
      valueAt? name entries ≠ none → valueAt? second entries ≠ none →
        ∃ fault, ofJson (.object entries) = .error fault := by
  refine ⟨fun state => ⟨?_, nodup_keys_entries state, fun key value => mem_entries_iff⟩, ?_, ?_⟩
  · exact ofJson_object_eq_ok_iff.mpr (reads_entries state)
  · intro before after state read changes
    rw [ofJson_object_eq_ok_iff] at read ⊢
    induction changes with
    | refl => exact read
    | tail _ change ih => exact change.reads ih
  · intro entries name second paired first also
    cases read : ofJson (.object entries) with
    | error fault => exact ⟨fault, rfl⟩
    | ok state =>
      have reads : Reads entries state := ofJson_object_eq_ok_iff.mp read
      exact absurd reads (not_reads_of_both paired first also)

/-- A call of a component method with the short spellings. All its keys are respelled, an unknown
key is put in front and the definition that it lacks is set to `null`. -/
theorem saved_json_is_lossless_in_short_spelling :
    let short : List (String × Json) :=
      [("kind", .text "instance_component"), ("returnType", .text ""), ("componentId", .text ""),
        ("componentTypeName", .text "rev.Motor"), ("actualCalleeName", .text "set_speed")]
    let long : List (String × Json) :=
      [("version", .null), ("functionKind", .text "instance_component"), ("returnType", .text ""),
        ("componentBlockId", .text ""), ("calleeDefinitionId", .null),
        ("componentClassName", .text "rev.Motor"), ("actualFunctionName", .text "set_speed")]
    let state : SavedState :=
      { kindTag := "instance_component", returnText := "", calleeName := "set_speed"
        componentClass := "rev.Motor", componentId := some ⟨""⟩ }
    ofJson (.object short) = .ok state ∧ ofJson (.object long) = .ok state ∧
      ofJson state.toJson = .ok state ∧ ("componentBlockId", .text "") ∈ state.toJson.entries ∧
      ∃ fault, ofJson (.object (("functionKind", .text "") :: short)) = .error fault := by
  intro short long state
  obtain ⟨written, stays, refused⟩ := saved_json_is_lossless_in_any_spelling
  obtain ⟨readBack, -, keys⟩ := written state
  have readShort : ofJson (.object short) = .ok state := rfl
  have changes : Relation.ReflTransGen Respelling short long := by
    let renamed := renameKeys (respell fun _ => true) short
    have first : Respelling short renamed := .rename (fun _ => true) short
    have second : Respelling ([] ++ renamed) ([] ++ ("version", .null) :: renamed) :=
      .unknown .null (by decide)
    have id : ["classMethodDefBlockId", "calleeDefinitionId"] ∈ idSpellings := by decide
    have third : Respelling (long.take 4 ++ renamed.drop 3)
        (long.take 4 ++ ("calleeDefinitionId", .null) :: renamed.drop 3) :=
      .null id (by decide) (by decide)
    exact ((Relation.ReflTransGen.single first).tail second).tail third
  refine ⟨readShort, stays short long state readShort changes, readBack, ?_, ?_⟩
  · exact (keys "componentBlockId" (.text "")).mpr (.id (by decide))
  · exact refused _ "functionKind" "kind" (by decide) (by decide) (by decide)

end SavedState

end RobotBlocks
