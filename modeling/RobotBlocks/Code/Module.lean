import RobotBlocks.Code.Fragment
import RobotBlocks.Graph.Workspace

/-!
# Generated modules

The code of all call nodes of a workspace. A node without code is noted with its fault, and the
others are not affected. The text of a module has a heading, the imports and the statements; the
expressions are part of the statements into which they are plugged.
-/

set_option autoImplicit false

namespace RobotBlocks.Code

/-- The code of all call nodes of a workspace. -/
structure CompiledModule where
  /-- The kind of module. -/
  moduleKind : ModuleKind
  /-- The modules to import, in ascending order. -/
  imports : List String
  /-- The code of the nodes that have some, in the order of the nodes. -/
  fragments : List (NodeId × Fragment)
  /-- Why the other nodes have none, in the order of the nodes. -/
  failures : List (NodeId × Fault)

namespace CompiledModule

/-- Whether every node has code. -/
def isComplete (compiled : CompiledModule) : Bool :=
  compiled.failures.isEmpty

/-- The code of a node. -/
def fragment? (compiled : CompiledModule) (id : NodeId) : Option Fragment :=
  (Keyed.find? Prod.fst id compiled.fragments).map Prod.snd

/-- The lines at the start of every module. -/
def heading : String :=
  "# Auto-generated code from robot blocks\n# DO NOT EDIT - Changes will be overwritten\n\n"

/-- The line of an import. -/
def importLine (name : String) : String :=
  "import " ++ name ++ "\n"

/-- The lines of the imports, and an empty line after them. -/
def importLines : List String → String
  | [] => ""
  | names => String.join (names.map importLine) ++ "\n"

/-- What a fragment adds to the text: a statement itself, an expression nothing. -/
def statementText : Fragment → String
  | .expression _ _ => ""
  | .statement code => code

/-- The text of the module. -/
def render (compiled : CompiledModule) : String :=
  heading ++ importLines compiled.imports ++
    String.join (compiled.fragments.map fun entry => statementText entry.2)

end CompiledModule

/-- Code written so far, with what writing more depends on. -/
structure Progress where
  /-- What writing more depends on. -/
  context : Context
  /-- The code of the nodes that have some, in order. -/
  fragments : List (NodeId × Fragment) := []
  /-- Why the other nodes have none, in order. -/
  failures : List (NodeId × Fault) := []

/-- Writes the code of one listed node. -/
def Progress.step (workspace : Workspace) (progress : Progress) (id : NodeId) : Progress :=
  match workspace.node? id with
  | none => { progress with failures := progress.failures ++ [(id, .nodeNotFound id)] }
  | some node =>
    match emit node progress.context with
    | (.ok code, context) =>
      { progress with context, fragments := progress.fragments ++ [(id, code)] }
    | (.error fault, context) =>
      { progress with context, failures := progress.failures ++ [(id, fault)] }

/-- Writes the code of the nodes that the editor lists. The context comes back with the imports
that were asked for. -/
def compileOver (workspace : Workspace) (listed : List NodeId) (context : Context) :
    CompiledModule × Context :=
  let progress := listed.foldl (Progress.step workspace) { context }
  ({ moduleKind := progress.context.moduleKind
     imports := progress.context.imports.modules
     fragments := progress.fragments
     failures := progress.failures }, progress.context)

/-- Writes the code of all call nodes of a workspace. -/
def compile (workspace : Workspace) (context : Context) : CompiledModule × Context :=
  compileOver workspace workspace.nodeIds context

end RobotBlocks.Code
