import RobotBlocks.Graph.Definition
import RobotBlocks.Json.Record

/-!
# Arguments, components and identifiers in JSON

An identifier is a bare text. An argument may leave its type out. A component names its
identifier `blockId`.
-/

set_option autoImplicit false

namespace RobotBlocks

open Json

namespace NodeId

/-- An identifier as a JSON text. -/
def toJson (id : NodeId) : Json := .text id.name

/-- Reads an identifier. -/
def decoder : Decoder NodeId := fun found => (Decoder.text found).map NodeId.mk

end NodeId

namespace Argument

/-- An argument as a JSON object. -/
def toJson (argument : Argument) : Json :=
  .object [("name", .text argument.name), ("type", .text argument.type)]

/-- Reads an argument; messages call it `record`. -/
def decoderNamed (record : String) : Decoder Argument :=
  Fields.decoder record
    ((Fields.none Argument.mk).and (Field.required "name" .text)
      |>.and (Field.optional "type" .text ""))

/-- Reads an argument of a call node. -/
def decoder : Decoder Argument := decoderNamed "FunctionArg"

end Argument

namespace Component

/-- A component as a JSON object. -/
def toJson (component : Component) : Json :=
  .object [("blockId", component.id.toJson), ("name", .text component.name),
    ("className", .text component.className)]

/-- Reads a component. -/
def decoder : Decoder Component :=
  Fields.decoder "ComponentInstance"
    ((Fields.none Component.mk).and (Field.required "blockId" NodeId.decoder)
      |>.and (Field.required "name" .text)
      |>.and (Field.required "className" .text))

end Component

end RobotBlocks
