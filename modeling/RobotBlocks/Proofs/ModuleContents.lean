import Mathlib.Data.List.Sort
import RobotBlocks.Code.Module

/-!
# What a generated module holds

Writing the code of a workspace threads one context through all nodes. A node changes this context
in its imports only (`contextAfter_eq`), and these are not read when code is written
(`fragment_imports`). So each node is written as if it were the only one, and `compile_eq` gives the
module in one equation: the nodes with code and the nodes without, in their order, and the imports
that any of them asked for.

Of the order of the nodes the imports keep no trace, since they are told by their members
(`Imports.ext`). The main statement is `module_holds_each_emission`.
-/

set_option autoImplicit false

namespace RobotBlocks.Code

/-! ## Imports -/

namespace Imports

/-- Imports with the same members are the same. -/
theorem ext {left right : Imports}
    (same : ∀ name, name ∈ left.modules ↔ name ∈ right.modules) : left = right := by
  obtain ⟨leftModules, leftAscending⟩ := left
  obtain ⟨rightModules, rightAscending⟩ := right
  have modules : leftModules = rightModules :=
    leftAscending.eq_of_mem_iff rightAscending same
  subst modules
  rfl

/-- The imports after a node asked for its own, if it has one. -/
def asking (imports : Imports) (node : CallNode) : Imports :=
  if node.importModule = "" then imports else imports.insert node.importModule

/-- The imports after each of the nodes asked for its own. -/
def askedBy (imports : Imports) (nodes : List CallNode) : Imports :=
  nodes.foldl asking imports

/-- After a node asked for its import there is this one, if it has a name, besides those from
before. -/
theorem mem_asking (imports : Imports) {node : CallNode} {name : String} :
    name ∈ (imports.asking node).modules ↔
      name ∈ imports.modules ∨ name ≠ "" ∧ node.importModule = name := by
  unfold asking
  by_cases unset : node.importModule = ""
  · rw [if_pos unset, unset]
    constructor
    · exact Or.inl
    · rintro (member | ⟨named, same⟩)
      · exact member
      · exact absurd same.symm named
  · rw [if_neg unset, mem_insert]
    constructor
    · rintro (rfl | member)
      · exact Or.inr ⟨unset, rfl⟩
      · exact Or.inl member
    · rintro (member | ⟨-, rfl⟩)
      · exact Or.inr member
      · exact Or.inl rfl

/-- What is imported after nodes asked for their imports. -/
theorem mem_askedBy (imports : Imports) {nodes : List CallNode} {name : String} :
    name ∈ (imports.askedBy nodes).modules ↔
      name ∈ imports.modules ∨ name ≠ "" ∧ ∃ node ∈ nodes, node.importModule = name := by
  induction nodes generalizing imports with
  | nil => simp [askedBy]
  | cons node rest ih =>
    refine (ih (imports.asking node)).trans ?_
    rw [mem_asking, List.exists_mem_cons_iff, and_or_left, or_assoc]

/-- The order in which nodes ask leaves no trace. -/
theorem askedBy_perm {nodes reordered : List CallNode} (perm : reordered.Perm nodes)
    (imports : Imports) : imports.askedBy reordered = imports.askedBy nodes := by
  apply ext
  intro name
  rw [mem_askedBy, mem_askedBy]
  simp only [perm.mem_iff]

/-- Asking once more adds nothing. -/
theorem askedBy_askedBy (imports : Imports) (nodes : List CallNode) :
    (imports.askedBy nodes).askedBy nodes = imports.askedBy nodes := by
  apply ext
  intro name
  rw [mem_askedBy, mem_askedBy]
  tauto

end Imports

/-! ## One node -/

/-- A node changes nothing of the context but the imports. -/
theorem contextAfter_eq (node : CallNode) (context : Context) :
    contextAfter node context = { context with imports := context.imports.asking node } := by
  unfold contextAfter Imports.asking Context.importing
  split
  · rfl
  · rfl

/-- The imports are not read when code is written. -/
theorem fragment_imports (node : CallNode) (context : Context) (imports : Imports) :
    fragment node { context with imports } = fragment node context := rfl

/-- Writing a node gives its code and asks for its import, and neither shows in the other. -/
theorem emit_eq (node : CallNode) (context : Context) :
    emit node context =
      (fragment node context, { context with imports := context.imports.asking node }) := by
  have context := contextAfter_eq node context
  unfold emit
  simp only [context, fragment_imports]

/-- The entry of a node among the fragments, if it has code. -/
def written? (context : Context) (node : CallNode) : Option (NodeId × Fragment) :=
  match fragment node context with
  | .ok code => some (node.id, code)
  | .error _ => none

/-- The entry of a node among the failures, if it has no code. -/
def failed? (context : Context) (node : CallNode) : Option (NodeId × Fault) :=
  match fragment node context with
  | .ok _ => none
  | .error fault => some (node.id, fault)

/-- Whether a node has code. -/
def hasCode (context : Context) (node : CallNode) : Bool :=
  (written? context node).isSome

section Entries

variable {context : Context} {node : CallNode}

/-- The entry of a node among the fragments holds the code that is written for it. -/
theorem written?_eq_some_iff {entry : NodeId × Fragment} :
    written? context node = some entry ↔
      node.id = entry.1 ∧ (emit node context).1 = .ok entry.2 := by
  rw [emit_fst, written?]
  cases fragment node context with
  | ok code => simp [Prod.ext_iff]
  | error fault => simp

/-- The entry of a node among the failures holds the fault with which it is given up. -/
theorem failed?_eq_some_iff {entry : NodeId × Fault} :
    failed? context node = some entry ↔
      node.id = entry.1 ∧ (emit node context).1 = .error entry.2 := by
  rw [emit_fst, failed?]
  cases fragment node context with
  | ok code => simp
  | error fault => simp [Prod.ext_iff]

/-- A node stands among the fragments under its identifier if it has code. -/
theorem written?_map_fst :
    (written? context node).map Prod.fst =
      if hasCode context node = true then some node.id else none := by
  unfold hasCode written?
  cases fragment node context with
  | ok code => rfl
  | error fault => rfl

/-- A node stands among the failures under its identifier if it has no code. -/
theorem failed?_map_fst :
    (failed? context node).map Prod.fst =
      if hasCode context node = true then none else some node.id := by
  unfold hasCode failed? written?
  cases fragment node context with
  | ok code => rfl
  | error fault => rfl

end Entries

/-- Writing one node notes its code or its fault, and changes nothing of the context but the
imports. -/
theorem Progress.step_eq {workspace : Workspace} {node : CallNode}
    (found : workspace.node? node.id = some node) (progress : Progress) :
    progress.step workspace node.id =
      { context :=
          { progress.context with imports := progress.context.imports.asking node }
        fragments := progress.fragments ++ (written? progress.context node).toList
        failures := progress.failures ++ (failed? progress.context node).toList } := by
  unfold written? failed?
  cases result : fragment node progress.context with
  | ok code => simp [Progress.step, found, emit_eq, result]
  | error fault => simp [Progress.step, found, emit_eq, result]

/-! ## All nodes -/

/-- What is made of a list of nodes is what the first one gives, if anything, and then what the rest
gives. -/
theorem filterMap_cons_toList {α : Type} (made? : CallNode → Option α) (node : CallNode)
    (rest : List CallNode) :
    (node :: rest).filterMap made? = (made? node).toList ++ rest.filterMap made? := by
  rw [List.filterMap_cons]
  cases made? node with
  | none => rfl
  | some entry => rfl

/-- Writing many nodes notes the code or the fault that each has in the first context. -/
theorem Progress.steps_eq {workspace : Workspace} {nodes : List CallNode}
    (found : ∀ node ∈ nodes, workspace.node? node.id = some node) (progress : Progress) :
    (nodes.map CallNode.id).foldl (Progress.step workspace) progress =
      { context :=
          { progress.context with imports := progress.context.imports.askedBy nodes }
        fragments := progress.fragments ++ nodes.filterMap (written? progress.context)
        failures := progress.failures ++ nodes.filterMap (failed? progress.context) } := by
  induction nodes generalizing progress with
  | nil => simp [Imports.askedBy]
  | cons node rest ih =>
    rw [List.forall_mem_cons] at found
    rw [List.map_cons, List.foldl_cons, Progress.step_eq found.1, ih found.2]
    -- the imports that the first node asked for do not show in the code of the others
    have writtenStill : written? { progress.context with
        imports := progress.context.imports.asking node } = written? progress.context := rfl
    have failedStill : failed? { progress.context with
        imports := progress.context.imports.asking node } = failed? progress.context := rfl
    rw [writtenStill, failedStill, List.append_assoc, List.append_assoc,
      ← filterMap_cons_toList, ← filterMap_cons_toList]
    rfl

section Module

variable (workspace : Workspace) (distinct : workspace.nodeIds.Nodup) (context : Context)
include distinct

/-- The module of a workspace in which no identifier comes twice. -/
theorem compile_eq :
    compile workspace context =
      ({ moduleKind := context.moduleKind
         imports := (context.imports.askedBy workspace.nodes).modules
         fragments := workspace.nodes.filterMap (written? context)
         failures := workspace.nodes.filterMap (failed? context) },
        { context with imports := context.imports.askedBy workspace.nodes }) := by
  have found : ∀ node ∈ workspace.nodes, workspace.node? node.id = some node :=
    fun node member => Keyed.find?_of_mem CallNode.id distinct member
  unfold compile compileOver Workspace.nodeIds
  rw [Progress.steps_eq found]
  rfl

end Module

/-! ## Each node once, in order -/

section Order

variable (context : Context) (nodes : List CallNode)

/-- The identifiers among the fragments are those of the nodes with code, in their order. -/
theorem ids_written :
    (nodes.filterMap (written? context)).map Prod.fst =
      (nodes.filter (hasCode context)).map CallNode.id := by
  rw [List.map_filterMap, ← List.filterMap_eq_map, List.filterMap_filter]
  congr 1
  funext node
  exact written?_map_fst

/-- The identifiers among the failures are those of the nodes without code, in their order. -/
theorem ids_failed :
    (nodes.filterMap (failed? context)).map Prod.fst =
      (nodes.filter fun node => !hasCode context node).map CallNode.id := by
  rw [List.map_filterMap, ← List.filterMap_eq_map, List.filterMap_filter]
  congr 1
  funext node
  rw [failed?_map_fst]
  cases hasCode context node with
  | true => rfl
  | false => rfl

/-- Every node is among the fragments or the failures, and no node is in both or twice. -/
theorem ids_perm :
    ((nodes.filterMap (written? context)).map Prod.fst ++
      (nodes.filterMap (failed? context)).map Prod.fst).Perm (nodes.map CallNode.id) := by
  rw [ids_written, ids_failed, ← List.map_append]
  exact (List.filter_append_perm (hasCode context) nodes).map CallNode.id

end Order

/-- An entry under the identifier of a node was made by this node, where no identifier comes
twice. -/
theorem mem_filterMap_of_id {α : Type} (made? : CallNode → Option (NodeId × α))
    {nodes : List CallNode} (distinct : (nodes.map CallNode.id).Nodup)
    (keyed : ∀ node entry, made? node = some entry → node.id = entry.1) {node : CallNode}
    (member : node ∈ nodes) (value : α) :
    (node.id, value) ∈ nodes.filterMap made? ↔ made? node = some (node.id, value) := by
  rw [List.mem_filterMap]
  constructor
  · rintro ⟨other, otherMember, made⟩
    have same : other = node :=
      List.inj_on_of_nodup_map distinct otherMember member (keyed other _ made)
    rw [← same] at made ⊢
    exact made
  · intro made
    exact ⟨node, member, made⟩

/-- A module holds what each node gives when it is written alone. Every node is among the fragments
or among the failures, once and in its order, with the code or the fault that it has in the context
at the start. The imports ascend, and they are those of the context at the start and those that a
node asked for, whether it has code or not. Another order of the nodes gives another order of the
fragments and of the failures and the same imports, and writing the module once more with the
context that came back changes nothing. -/
theorem module_holds_each_emission (workspace : Workspace) (distinct : workspace.nodeIds.Nodup)
    (context : Context) :
    let compiled := (compile workspace context).1
    (compiled.fragments.map Prod.fst).Sublist workspace.nodeIds ∧
      (compiled.failures.map Prod.fst).Sublist workspace.nodeIds ∧
      (compiled.fragments.map Prod.fst ++ compiled.failures.map Prod.fst).Perm
        workspace.nodeIds ∧
      (∀ node ∈ workspace.nodes,
        (∀ code, (node.id, code) ∈ compiled.fragments ↔ (emit node context).1 = .ok code) ∧
        ∀ fault, (node.id, fault) ∈ compiled.failures ↔ (emit node context).1 = .error fault) ∧
      compiled.imports.Pairwise (fun a b => a < b) ∧
      (∀ name, name ∈ compiled.imports ↔
        name ∈ context.imports.modules ∨
          name ≠ "" ∧ ∃ node ∈ workspace.nodes, node.importModule = name) ∧
      (∀ reordered : Workspace, reordered.nodes.Perm workspace.nodes →
        (compile reordered context).1.fragments.Perm compiled.fragments ∧
        (compile reordered context).1.failures.Perm compiled.failures ∧
        (compile reordered context).1.imports = compiled.imports) ∧
      compile workspace (compile workspace context).2 = compile workspace context := by
  intro compiled
  have whole := compile_eq workspace distinct context
  have module : compiled = _ := congrArg Prod.fst whole
  rw [module]
  dsimp only
  refine ⟨?_, ?_, ids_perm context workspace.nodes, ?_,
    (context.imports.askedBy workspace.nodes).ascending,
    fun _ => context.imports.mem_askedBy, ?_, ?_⟩
  · rw [ids_written]
    exact List.filter_sublist.map CallNode.id
  · rw [ids_failed]
    exact List.filter_sublist.map CallNode.id
  · intro node member
    have writtenHere := mem_filterMap_of_id (written? context) distinct
      (fun _ _ made => (written?_eq_some_iff.mp made).1) member
    have failedHere := mem_filterMap_of_id (failed? context) distinct
      (fun _ _ made => (failed?_eq_some_iff.mp made).1) member
    constructor
    · intro code
      rw [writtenHere code, written?_eq_some_iff]
      exact and_iff_right rfl
    · intro fault
      rw [failedHere fault, failed?_eq_some_iff]
      exact and_iff_right rfl
  · intro reordered perm
    have distinctToo : reordered.nodeIds.Nodup := (perm.map CallNode.id).nodup_iff.mpr distinct
    rw [compile_eq reordered distinctToo context]
    refine ⟨perm.filterMap _, perm.filterMap _, ?_⟩
    rw [Imports.askedBy_perm perm]
  · rw [whole, compile_eq workspace distinct]
    dsimp only
    rw [Imports.askedBy_askedBy]
    rfl

/-- Of three calls the second has no label. It is the only failure, the others have the code that
they have alone, and the import of the second is asked for like that of the first. -/
theorem module_holds_each_emission_of_three_calls :
    let wait : CallNode :=
      { id := ⟨"n1"⟩, kind := .staticMethod, importModule := "wpilib",
        arguments := [⟨"seconds", "float"⟩],
        fields := { function := some "delay", owner := some "Timer" } }
    let unlabelled : CallNode := { id := ⟨"n2"⟩, kind := .ownMethod, importModule := "math" }
    let stop : CallNode := { id := ⟨"n3"⟩, kind := .robotMethod, calleeName := "stop" }
    let workspace : Workspace := { nodes := [wait, unlabelled, stop] }
    let context : Context := { moduleKind := .opMode }
    let compiled := (compile workspace context).1
    workspace.nodeIds.Nodup ∧
      (⟨"n1"⟩, .statement "Timer.delay(None)\n") ∈ compiled.fragments ∧
      (⟨"n2"⟩, .missingField ⟨"n2"⟩ .function) ∈ compiled.failures ∧
      (⟨"n3"⟩, .statement "self.robot.stop()\n") ∈ compiled.fragments ∧
      "math" ∈ compiled.imports ∧ "wpilib" ∈ compiled.imports ∧
      (compile { workspace with nodes := [stop, unlabelled, wait] } context).1.imports =
        compiled.imports := by
  intro wait unlabelled stop workspace context compiled
  have distinct : workspace.nodeIds.Nodup := by decide
  obtain ⟨-, -, -, entries, -, imports, reordered, -⟩ :=
    module_holds_each_emission workspace distinct context
  have waitThere : wait ∈ workspace.nodes := List.mem_cons_self
  have unlabelledThere : unlabelled ∈ workspace.nodes := List.mem_cons_of_mem _ List.mem_cons_self
  have stopThere : stop ∈ workspace.nodes := List.mem_of_getLast? rfl
  have reversed : [stop, unlabelled, wait].Perm workspace.nodes := workspace.nodes.reverse_perm
  refine ⟨distinct, ((entries wait waitThere).1 _).mpr rfl,
    ((entries unlabelled unlabelledThere).2 _).mpr rfl, ((entries stop stopThere).1 _).mpr rfl,
    (imports "math").mpr ?_, (imports "wpilib").mpr ?_, (reordered _ reversed).2.2⟩
  · exact Or.inr ⟨by decide, unlabelled, unlabelledThere, rfl⟩
  · exact Or.inr ⟨by decide, wait, waitThere, rfl⟩

end RobotBlocks.Code
