import RobotBlocks.Graph.Interchange
import RobotBlocks.SavedState

/-!
# Saved nodes in JSON

A saved node is written with its kind, its return type and its arguments, and with each other
part only when there is something in it. It is read back under these names, or under the shorter
second spelling that some of them have.
-/

set_option autoImplicit false

namespace RobotBlocks.SavedState

open Json

/-- The entry of a text, unless the text is empty. -/
def textEntry (name value : String) : List (String × Json) :=
  if value = "" then [] else [(name, .text value)]

/-- The entry of an identifier, if there is one. -/
def idEntry (name : String) (id : Option NodeId) : List (String × Json) :=
  match id with
  | none => []
  | some id => [(name, id.toJson)]

/-- The entries of a saved node. -/
def entries (state : SavedState) : List (String × Json) :=
  [("functionKind", .text state.kindTag), ("returnType", .text state.returnText),
    ("args", .list (state.arguments.map Argument.toJson))] ++
    textEntry "tooltip" state.tooltip ++
    textEntry "importModule" state.importModule ++
    textEntry "actualFunctionName" state.calleeName ++
    idEntry "classMethodDefBlockId" state.definitionId ++
    textEntry "componentName" state.componentName ++
    textEntry "componentClassName" state.componentClass ++
    idEntry "componentBlockId" state.componentId

/-- A saved node as a JSON object. -/
def toJson (state : SavedState) : Json := .object state.entries

/-- The fields of a saved node. -/
def fields : Fields SavedState :=
  (Fields.none SavedState.mk)
    |>.and ((Field.required "functionKind" .text).orNamed "kind")
    |>.and (Field.required "returnType" .text)
    |>.and (Field.optional "args" (.list Argument.decoder) [])
    |>.and (Field.optional "tooltip" .text "")
    |>.and (Field.optional "importModule" .text "")
    |>.and ((Field.optional "actualFunctionName" .text "").orNamed "actualCalleeName")
    |>.and ((Field.optional "classMethodDefBlockId" (.nullable NodeId.decoder) none).orNamed
      "calleeDefinitionId")
    |>.and (Field.optional "componentName" .text "")
    |>.and ((Field.optional "componentClassName" .text "").orNamed "componentTypeName")
    |>.and ((Field.optional "componentBlockId" (.nullable NodeId.decoder) none).orNamed
      "componentId")

/-- Reads a saved node. -/
def decoder : Decoder SavedState := Fields.decoder "ExtraState" fields

/-- Reads a saved node, as a piece of work of its own. -/
def ofJson (value : Json) : Except Fault SavedState :=
  (decoder value).mapError .invalidSavedState

end RobotBlocks.SavedState
