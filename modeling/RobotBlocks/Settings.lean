import RobotBlocks.Code.Context
import RobotBlocks.Gamepad.Ports
import RobotBlocks.Json.Document

/-!
# Project settings

What a project sets for itself: the controllers on the ports, and one level of indentation in
generated code. Settings are read from JSON in two ways. `Settings.decoder` reads a value and
reports what is wrong with it. `Settings.ofText` reads the text of a project file and checks the
settings too.

The text is read more strictly than a value in one point, for it shows what a value does not: a
field that is set twice is refused. It is read less strictly in another: of what stands under a
name that is no field only the form is looked at, so that it may be a text that stands for no
text. A port set twice keeps its last name.
-/

set_option autoImplicit false

namespace RobotBlocks

open Json

/-- What a project sets for itself. -/
structure Settings where
  /-- The controllers on the ports. -/
  gamepads : Ports := .initial
  /-- One level of indentation. -/
  indent : String := Code.standardIndent
deriving DecidableEq

namespace Settings

/-- Whether a character may be part of the indentation. -/
def isIndentChar (c : Char) : Bool :=
  c = ' ' || c = '\t'

/-- Whether a text is one level of indentation. -/
def isIndent (indent : String) : Bool :=
  decide (indent ≠ "") && indent.toList.all isIndentChar

/-- Refuses settings that cannot be worked with; the indentation is looked at first. -/
def check (settings : Settings) : Except SettingsFault Unit :=
  if isIndent settings.indent then settings.gamepads.check
  else .error (.badIndent settings.indent)

/-- Settings as a JSON object. -/
def toJson (settings : Settings) : Json :=
  .object [("gamepads", settings.gamepads.toJson), ("indent", .text settings.indent)]

/-- Reads settings. -/
def decoder : Decoder Settings :=
  Fields.decoder "ProjectConfig"
    ((Fields.none Settings.mk).and (Field.optional "gamepads" Ports.decoder .initial)
      |>.and (Field.optional "indent" .text Code.standardIndent))

/-- The text that a document is, if it is one. -/
def textOf? : Document → Option String
  | .text written => unescape? written
  | _ => none

/-- The entry of a port. The key is taken as written, so an escape in it is refused. -/
def portOf? (entry : List Char × Document) : Option (UInt8 × String) := do
  let port ← (Ports.portOfKey entry.1).toOption
  let name ← textOf? entry.2
  some (port, name)

/-- The ports that a document is, if it is an object of ports. -/
def portsOf? : Document → Option Ports
  | .object entries => (entries.mapM portOf?).map Ports.ofList
  | _ => none

/-- The fields set so far while the entries of an object are gone through. -/
structure Draft where
  /-- The ports, if they are set. -/
  gamepads : Option Ports := none
  /-- The indentation, if it is set. -/
  indent : Option String := none

/-- Takes the next entry of an object. A field that is set is not set again, and an entry that is
no field counts for nothing. -/
def Draft.step (draft : Draft) (entry : List Char × Document) : Option Draft := do
  let key ← unescape? entry.1
  if key = "gamepads" then
    if draft.gamepads.isSome then none
    else
      let ports ← portsOf? entry.2
      some { draft with gamepads := some ports }
  else if key = "indent" then
    if draft.indent.isSome then none
    else
      let indent ← textOf? entry.2
      some { draft with indent := some indent }
  else some draft

/-- The settings, with the initial value of each field that is not set. -/
def Draft.settings (draft : Draft) : Settings where
  gamepads := draft.gamepads.getD .initial
  indent := draft.indent.getD Code.standardIndent

/-- The settings that a document is, if it is an object or a list of their fields. -/
def ofDocument? : Document → Option Settings
  | .object entries => (entries.foldlM Draft.step {}).map Draft.settings
  | .list [] => some {}
  | .list [gamepads] => do
    let gamepads ← portsOf? gamepads
    some { gamepads }
  | .list [gamepads, indent] => do
    let gamepads ← portsOf? gamepads
    let indent ← textOf? indent
    some { gamepads, indent }
  | _ => none

/-- Reads the text of a project file, and checks the settings. -/
def ofText (text : String) : Except SettingsFault Settings :=
  match (Document.ofText? text).bind ofDocument? with
  | none => .error .unreadable
  | some settings => settings.check.map fun _ => settings

/-- The context in which a module of the project is written, with nothing plugged in. -/
def context (settings : Settings) (moduleKind : Code.ModuleKind) : Code.Context :=
  { moduleKind, indent := settings.indent }

end Settings

end RobotBlocks
