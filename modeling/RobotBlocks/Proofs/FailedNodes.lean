import Mathlib.Algebra.Order.BigOperators.Group.List
import Mathlib.Data.List.Perm.Subperm
import RobotBlocks.Proofs.ModuleContents

/-!
# Failed nodes in a generated module

A node without code is noted among the failures. The code of the other nodes is what it is without
this node, but the node has asked for its import before it failed. So a module and the module of the
workspace without the failed nodes agree in their fragments, and the first one imports besides what
the failed nodes asked for.

The two modules have the same text exactly when nothing is imported for a failed node alone
(`failures_leave_imports_only`): each additional import makes the text longer
(`length_importLines_lt`). An import for a failed node alone is seen in
`failed_call_leaves_its_import`.
-/

set_option autoImplicit false

namespace RobotBlocks

/-! ## Taking nodes out -/

namespace Workspace

/-- The workspace without the nodes with the given identifiers. -/
def removeNodes (workspace : Workspace) (ids : List NodeId) : Workspace :=
  ids.foldl removeNode workspace

/-- Taking several nodes out leaves the others as they are and where they are. -/
theorem nodes_removeNodes (workspace : Workspace) (distinct : workspace.nodeIds.Nodup)
    (ids : List NodeId) :
    (workspace.removeNodes ids).nodes =
      workspace.nodes.filter fun node => decide (node.id ∉ ids) := by
  induction ids generalizing workspace with
  | nil => simp [removeNodes]
  | cons id rest ih =>
    have distinctNext : (workspace.removeNode id).nodeIds.Nodup :=
      Keyed.nodup_keys_erase CallNode.id id workspace.nodes distinct
    have first : (workspace.removeNode id).nodes =
        workspace.nodes.filter fun node => decide (node.id ≠ id) :=
      Keyed.erase_eq_filter CallNode.id id distinct
    refine (ih (workspace.removeNode id) distinctNext).trans ?_
    rw [first, List.filter_filter]
    refine List.filter_congr fun node _ => ?_
    simp [Bool.and_comm]

end Workspace

namespace Code

section Removal

variable {context : Context} {node : CallNode}

/-- A node has code if writing it gives code. -/
theorem hasCode_iff : hasCode context node = true ↔ ∃ code, (emit node context).1 = .ok code := by
  rw [emit_fst]
  unfold hasCode written?
  cases fragment node context with
  | ok code => simp
  | error fault => simp

/-- A node has no code if writing it gives a fault. -/
theorem hasCode_eq_false_iff :
    hasCode context node = false ↔ ∃ fault, (emit node context).1 = .error fault := by
  rw [emit_fst]
  unfold hasCode written?
  cases fragment node context with
  | ok code => simp
  | error fault => simp

end Removal

/-- The workspace without the nodes that have no code. -/
def withoutFailed (workspace : Workspace) (context : Context) : Workspace :=
  workspace.removeNodes ((compile workspace context).1.failures.map Prod.fst)

/-- Nothing is imported for a failed node alone: what it asks for was asked for before, or is asked
for by a node with code. -/
def FailedAskNothingNew (workspace : Workspace) (context : Context) : Prop :=
  ∀ node ∈ workspace.nodes, (∃ fault, (emit node context).1 = .error fault) →
    node.importModule = "" ∨ node.importModule ∈ context.imports.modules ∨
      ∃ other ∈ workspace.nodes, (∃ code, (emit other context).1 = .ok code) ∧
        other.importModule = node.importModule

section WithoutFailed

variable (workspace : Workspace) (distinct : workspace.nodeIds.Nodup) (context : Context)
include distinct

/-- The nodes that are left without the failed ones are those with code, in their order. -/
theorem nodes_withoutFailed :
    (withoutFailed workspace context).nodes = workspace.nodes.filter (hasCode context) := by
  unfold withoutFailed
  rw [workspace.nodes_removeNodes distinct]
  refine List.filter_congr fun node member => ?_
  -- nodes are taken out by identifier, and only distinct identifiers make this the node itself
  have failed : node.id ∈ (compile workspace context).1.failures.map Prod.fst ↔
      hasCode context node = false := by
    rw [compile_eq workspace distinct]
    dsimp only
    rw [ids_failed, List.mem_map]
    constructor
    · rintro ⟨other, otherMember, sameId⟩
      obtain ⟨there, without⟩ := List.mem_filter.mp otherMember
      obtain rfl : other = node := List.inj_on_of_nodup_map distinct there member sameId
      simpa using without
    · intro without
      exact ⟨node, List.mem_filter.mpr ⟨member, by simp [without]⟩, rfl⟩
  cases coded : hasCode context node with
  | true => simpa [coded] using failed
  | false => simpa [coded] using failed

/-- No identifier comes twice among the nodes that are left. -/
theorem nodeIds_withoutFailed : (withoutFailed workspace context).nodeIds.Nodup := by
  unfold Workspace.nodeIds
  rw [nodes_withoutFailed workspace distinct]
  exact distinct.sublist (List.filter_sublist.map CallNode.id)

/-- The module without the failed nodes. -/
theorem compile_withoutFailed :
    (compile (withoutFailed workspace context) context).1 =
      { moduleKind := context.moduleKind
        imports := (context.imports.askedBy (workspace.nodes.filter (hasCode context))).modules
        fragments := workspace.nodes.filterMap (written? context)
        failures := [] } := by
  have distinctToo := nodeIds_withoutFailed workspace distinct context
  rw [compile_eq _ distinctToo, nodes_withoutFailed workspace distinct]
  have fragments : (workspace.nodes.filter (hasCode context)).filterMap (written? context) =
      workspace.nodes.filterMap (written? context) := by
    rw [List.filterMap_filter]
    congr 1
    funext node
    unfold hasCode
    cases written? context node with
    | none => rfl
    | some entry => rfl
  have failures :
      (workspace.nodes.filter (hasCode context)).filterMap (failed? context) = [] := by
    refine List.filterMap_eq_nil_iff.mpr fun node member => ?_
    have coded := (List.mem_filter.mp member).2
    have gone : (failed? context node).map Prod.fst = none := by
      rw [failed?_map_fst, if_pos coded]
    exact Option.map_eq_none_iff.mp gone
  rw [fragments, failures]

end WithoutFailed

/-! ## Imports for failed nodes -/

/-- Imports of which one has all members of the other are the longer and the shorter one of two
ascending lists. -/
theorem Imports.sublist_of_mem {fewer more : Imports}
    (members : ∀ name ∈ fewer.modules, name ∈ more.modules) :
    fewer.modules.Sublist more.modules := by
  have distinct : fewer.modules.Nodup := fewer.ascending.nodup
  exact List.sublist_of_subperm_of_pairwise (distinct.subperm members) fewer.ascending
    more.ascending

section FailedImports

variable (workspace : Workspace) (context : Context)

/-- What the nodes with code import is what was imported before and what these nodes ask for. -/
theorem mem_askedBy_coded_iff {name : String} :
    name ∈ (context.imports.askedBy (workspace.nodes.filter (hasCode context))).modules ↔
      name ∈ context.imports.modules ∨ name ≠ "" ∧ ∃ node ∈ workspace.nodes,
        (∃ code, (emit node context).1 = .ok code) ∧ node.importModule = name := by
  rw [Imports.mem_askedBy]
  simp only [List.mem_filter, hasCode_iff, and_assoc]

/-- What all nodes ask for is what the nodes with code ask for, and what the failed nodes ask
for. -/
theorem mem_askedBy_iff {name : String} :
    name ∈ (context.imports.askedBy workspace.nodes).modules ↔
      name ∈ (context.imports.askedBy (workspace.nodes.filter (hasCode context))).modules ∨
        name ≠ "" ∧ ∃ node ∈ workspace.nodes,
          (∃ fault, (emit node context).1 = .error fault) ∧ node.importModule = name := by
  rw [Imports.mem_askedBy, Imports.mem_askedBy, or_assoc, ← and_or_left]
  refine or_congr_right (and_congr_right fun _ => ?_)
  constructor
  · rintro ⟨node, member, asks⟩
    cases coded : hasCode context node with
    | true => exact Or.inl ⟨node, List.mem_filter.mpr ⟨member, coded⟩, asks⟩
    | false => exact Or.inr ⟨node, member, hasCode_eq_false_iff.mp coded, asks⟩
  · rintro (⟨node, member, asks⟩ | ⟨node, member, -, asks⟩)
    · exact ⟨node, (List.mem_filter.mp member).1, asks⟩
    · exact ⟨node, member, asks⟩

/-- The failed nodes make no difference to the imports exactly if they ask for nothing new. -/
theorem askedBy_coded_eq_iff :
    (context.imports.askedBy (workspace.nodes.filter (hasCode context))).modules =
        (context.imports.askedBy workspace.nodes).modules ↔
      FailedAskNothingNew workspace context := by
  constructor
  · intro same node member failed
    by_cases unset : node.importModule = ""
    · exact Or.inl unset
    · have asked : node.importModule ∈ (context.imports.askedBy workspace.nodes).modules :=
        (mem_askedBy_iff workspace context).mpr (Or.inr ⟨unset, node, member, failed, rfl⟩)
      rw [← same, mem_askedBy_coded_iff] at asked
      exact Or.inr (asked.imp_right And.right)
  · intro nothingNew
    congr 1
    apply Imports.ext
    intro name
    rw [mem_askedBy_iff workspace context]
    refine (or_iff_left_of_imp ?_).symm
    rintro ⟨named, node, member, failed, rfl⟩
    rw [mem_askedBy_coded_iff]
    rcases nothingNew node member failed with unset | asked
    · exact absurd unset named
    · exact asked.imp_right fun other => ⟨named, other⟩

end FailedImports

/-! ## The text of the imports -/

namespace CompiledModule

/-- The line of an import is not empty. -/
theorem length_importLine_pos (name : String) : 0 < (importLine name).length := by
  have lineEnd : "\n".length = 1 := rfl
  rw [importLine, String.length_append, lineEnd]
  omega

/-- The lines of some imports are written one after the other, with an empty line behind them. -/
theorem importLines_eq_join {names : List String} (nonempty : names ≠ []) :
    importLines names = String.join (names.map importLine) ++ "\n" := by
  cases names with
  | nil => exact absurd rfl nonempty
  | cons name rest => rfl

section Text

variable {fewer more : List String} (sub : fewer.Sublist more)
include sub

/-- More imports make a longer text. -/
theorem length_join_importLine_lt (different : fewer ≠ more) :
    (String.join (fewer.map importLine)).length < (String.join (more.map importLine)).length := by
  induction sub with
  | slnil => exact absurd rfl different
  | @cons fewer more name sub ih =>
    have line := length_importLine_pos name
    rw [List.map_cons, String.join_cons, String.length_append]
    by_cases same : fewer = more
    · rw [same]
      omega
    · have shorter := ih same
      omega
  | @cons_cons fewer more name sub ih =>
    have rest : fewer ≠ more := fun same => different (congrArg (name :: ·) same)
    have shorter := ih rest
    rw [List.map_cons, List.map_cons, String.join_cons, String.join_cons, String.length_append,
      String.length_append]
    omega

/-- Each additional import makes the lines of the imports longer. -/
theorem length_importLines_lt (different : fewer ≠ more) :
    (importLines fewer).length < (importLines more).length := by
  have shorter := length_join_importLine_lt sub different
  have lineEnd : "\n".length = 1 := rfl
  have someMore : more ≠ [] := by
    rintro rfl
    exact different (List.sublist_nil.mp sub)
  rw [importLines_eq_join someMore, String.length_append, lineEnd]
  by_cases empty : fewer = []
  · have nothing : (importLines fewer).length = 0 := by
      rw [empty]
      rfl
    omega
  · rw [importLines_eq_join empty, String.length_append, lineEnd]
    omega

/-- The lines of imports tell which of the two lists is written. -/
theorem importLines_eq_iff : importLines fewer = importLines more ↔ fewer = more := by
  constructor
  · intro same
    by_contra different
    have shorter := length_importLines_lt sub different
    rw [same] at shorter
    exact Nat.lt_irrefl _ shorter
  · exact congrArg importLines

end Text

end CompiledModule

/-- A failed node leaves its import in the module, and nothing else. A workspace and the workspace
without its failed nodes are written with the same fragments, and the second has no failures. What
is imported for the first and not for the second is what the failed nodes ask for; so they import
the same, and have the same text, exactly when nothing is imported for a failed node alone. -/
theorem failures_leave_imports_only (workspace : Workspace) (distinct : workspace.nodeIds.Nodup)
    (context : Context) :
    let compiled := (compile workspace context).1
    let reduced := (compile (withoutFailed workspace context) context).1
    reduced.moduleKind = compiled.moduleKind ∧ reduced.fragments = compiled.fragments ∧
      reduced.failures = [] ∧
      (∀ name, name ∈ compiled.imports ↔
        name ∈ reduced.imports ∨ name ≠ "" ∧ ∃ node ∈ workspace.nodes,
          (∃ fault, (emit node context).1 = .error fault) ∧ node.importModule = name) ∧
      (reduced.imports = compiled.imports ↔ FailedAskNothingNew workspace context) ∧
      (reduced.render = compiled.render ↔ FailedAskNothingNew workspace context) := by
  intro compiled reduced
  have compiledEq : compiled = _ := congrArg Prod.fst (compile_eq workspace distinct context)
  have reducedEq : reduced = _ := compile_withoutFailed workspace distinct context
  rw [compiledEq, reducedEq]
  dsimp only
  have imports := askedBy_coded_eq_iff workspace context
  refine ⟨rfl, rfl, rfl, fun name => mem_askedBy_iff workspace context, imports, ?_⟩
  have sub := Imports.sublist_of_mem fun name member =>
    (mem_askedBy_iff workspace context).mpr (Or.inl member)
  unfold CompiledModule.render
  dsimp only
  rw [String.append_left_inj, String.append_right_inj, CompiledModule.importLines_eq_iff sub,
    imports]

/-- A call without a label asks for the import that a call with code asks for as well, so the text
is the same without it. -/
theorem failures_leave_imports_only_of_shared_import :
    let wait : CallNode :=
      { id := ⟨"n1"⟩, kind := .staticMethod, importModule := "wpilib",
        fields := { function := some "delay", owner := some "Timer" } }
    let unlabelled : CallNode :=
      { id := ⟨"n2"⟩, kind := .moduleFunction, importModule := "wpilib" }
    let workspace : Workspace := { nodes := [wait, unlabelled] }
    let context : Context := { moduleKind := .robot }
    workspace.nodeIds.Nodup ∧
      (compile (withoutFailed workspace context) context).1.render =
        (compile workspace context).1.render := by
  intro wait unlabelled workspace context
  have distinct : workspace.nodeIds.Nodup := by decide
  obtain ⟨-, -, -, -, -, text⟩ := failures_leave_imports_only workspace distinct context
  have nothingNew : FailedAskNothingNew workspace context := by
    intro node member _
    refine Or.inr (Or.inr ⟨wait, List.mem_cons_self, ⟨_, rfl⟩, ?_⟩)
    rcases List.mem_pair.mp member with rfl | rfl
    · rfl
    · rfl
  exact ⟨distinct, text.mpr nothingNew⟩

/-- A static call without its class fails, and leaves its import in a module that has no other use
for it. Without the call the module has another text. -/
theorem failed_call_leaves_its_import :
    let print : CallNode :=
      { id := ⟨"n1"⟩, kind := .builtIn, fields := { function := some "print" } }
    let wait : CallNode :=
      { id := ⟨"n2"⟩, kind := .staticMethod, importModule := "wpilib",
        fields := { function := some "delay" } }
    let workspace : Workspace := { nodes := [print, wait] }
    let context : Context := { moduleKind := .robot }
    let compiled := (compile workspace context).1
    let reduced := (compile (workspace.removeNode wait.id) context).1
    workspace.nodeIds.Nodup ∧ compiled.failures.map Prod.fst = [wait.id] ∧
      reduced.failures = [] ∧ reduced.imports = [] ∧ compiled.imports = ["wpilib"] ∧
      reduced.render ≠ compiled.render := by
  intro print wait workspace context compiled reduced
  refine ⟨by decide, by decide, rfl, by decide, by decide, by decide⟩

end Code

end RobotBlocks
