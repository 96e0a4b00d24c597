import RobotBlocks.Palette
import RobotBlocks.Proofs.SignatureNotice

/-!
# Nodes placed from the palette

A node that the palette builds refers to the graph as it is at that moment: it carries what its
definition declares, or is bound to a live component and shows its name. So a full pass right after
the node was placed finds nothing to say about it (`palette_nodes_are_in_sync`).

A caller matches its definition in every field that a repair would write
(`Palette.matchesDefinition_of_caller`). A call of a component knows one component only, and learns
the others of the class from the pass; the one that it is bound to is found again, since no live
component comes twice (`Palette.followComponents_componentMethod`).
-/

set_option autoImplicit false

namespace RobotBlocks

/-! ## Passes without anything to say -/

/-- A full pass has nothing to say about a node: it reports the node as neither changed nor
relabelled and without a warning, fires no change of it, and leaves the given node in its place. -/
structure Workspace.InSync (workspace : Workspace) (id : NodeId) (left : CallNode) : Prop where
  outcome : (workspace.runPass .graphLoaded).2.outcome? id = some ⟨id, false, false, none⟩
  fired : ∃ fired, (workspace.runPass .graphLoaded).1.reported = workspace.reported ++ fired ∧
    changesOf id fired = []
  node : (workspace.runPass .graphLoaded).1.node? id = some left

/-- A repair without a warning leaves a node without one as it is. -/
theorem Repair.run_of_silent {repair : Repair} {node left : CallNode}
    (repaired : repair node = (left, [])) (unlatched : left.latched = [])
    (silent : left.warning = none) : repair.run node = left := by
  have nothing : left.allWarnings [] = [] := by
    rw [CallNode.allWarnings, unlatched]
    rfl
  rw [Repair.run, repaired]
  show left.setWarnings [] = left
  rw [CallNode.setWarnings, nothing]
  show ({ left with warning := none } : CallNode) = left
  rw [← silent]

/-- A node is in sync if its repair has no warning for it and changes neither what is saved of it
nor its labels. -/
theorem Workspace.inSync_of_repair {workspace : Workspace} (distinct : workspace.nodeIds.Nodup)
    {node left : CallNode} (member : node ∈ workspace.nodes)
    (repaired : Trigger.fullRepair workspace.components workspace.definitions node = (left, []))
    (unlatched : left.latched = []) (silent : left.warning = none)
    (saved : left.save = node.save) (labels : left.labels = node.labels) :
    workspace.InSync node.id left := by
  have ran : (workspace.repairFor .graphLoaded).run node = left :=
    Repair.run_of_silent repaired unlatched silent
  have after : workspace.afterPass .graphLoaded node = left := by
    rw [afterPass_of_concerned (concerns_graphLoaded node), ran]
  refine ⟨?_, ⟨workspace.firedBy .graphLoaded, (reported_runPass distinct).1, ?_⟩, ?_⟩
  · rw [outcome?_runPass .graphLoaded distinct member (concerns_graphLoaded node)]
    simp [Repair.outcome, ran, saved, labels, silent]
  · rw [changesOf_firedBy distinct member, changeBy_eq, after, saved]
    simp
  · rw [workspace.node?_runPass_of_mem .graphLoaded distinct member, after]

/-! ## Placing a node -/

section Placed

variable {workspace : Workspace} (node : CallNode)

/-- A node that was added is in the workspace. -/
theorem Workspace.mem_addNode : node ∈ (workspace.addNode node).nodes :=
  Keyed.mem_of_find? (Keyed.find?_upsert_self CallNode.id node workspace.nodes)

/-- No identifier comes twice after a node is added if none did before. -/
theorem Workspace.nodup_nodeIds_addNode (distinct : workspace.nodeIds.Nodup) :
    (workspace.addNode node).nodeIds.Nodup :=
  Keyed.nodup_keys_upsert CallNode.id node workspace.nodes distinct

end Placed

namespace Palette

/-! ## Callers of a definition -/

/-- The ways to build a caller of a definition. -/
def callers : List (NodeId → Definition → CallNode) :=
  [ownMethod, robotMethod, event]

section Caller

variable {build : NodeId → Definition → CallNode} (builds : build ∈ callers) (id : NodeId)
  (definition : Definition)
include builds

/-- There are three ways to build a caller of a definition. -/
theorem cases_of_caller : build = ownMethod ∨ build = robotMethod ∨ build = event := by
  simpa [callers] using builds

/-- A new caller carries what its definition declares, the name to call included if its kind has
one. -/
theorem matchesDefinition_of_caller : (build id definition).MatchesDefinition definition := by
  rcases cases_of_caller builds with rfl | rfl | rfl
  · refine ⟨rfl, ?_, rfl, rfl⟩
    show (if _ then definition.emittedName else definition.emittedName) = definition.emittedName
    exact ite_self _
  · refine ⟨rfl, ?_, rfl, rfl⟩
    show (if _ then definition.emittedName else definition.emittedName) = definition.emittedName
    exact ite_self _
  · exact ⟨rfl, rfl, rfl, rfl⟩

/-- A caller calls the definition that it is built for. -/
theorem calls_of_caller : (build id definition).calls definition.id = true := by
  rcases cases_of_caller builds with rfl | rfl | rfl
  all_goals simp [CallNode.calls, ownMethod, robotMethod, event, definitionCall,
    CallKind.callsDefinition]

/-- A caller has the identifier that it is built with, and no warning. -/
theorem unwarned_of_caller :
    (build id definition).id = id ∧ (build id definition).latched = [] ∧
      (build id definition).warning = none := by
  rcases cases_of_caller builds with rfl | rfl | rfl
  all_goals exact ⟨rfl, rfl, rfl⟩

end Caller

/-! ## Calls of a component -/

/-- The node that the palette builds for a method of a component, once it knows all live components
of the class. -/
def placedComponentMethod (id : NodeId) (component : Component) (function : LibraryFunction)
    (live : List Component) : CallNode :=
  { componentMethod id component function with
    components := componentsOfClass component.className live }

/-- Where no identifier comes twice, a live component is the first one with its identifier and
class. -/
theorem firstLive_of_mem {live : List Component} (distinct : (live.map Component.id).Nodup)
    {component : Component} (member : component ∈ live) :
    firstLive live (some component.id) component.className = some component := by
  cases first : firstLive live (some component.id) component.className with
  | none => exact absurd ⟨rfl, rfl⟩ (firstLive_eq_none_iff.mp first component member)
  | some other =>
    obtain ⟨there, sameId, -⟩ := mem_of_firstLive first
    have found := Keyed.find?_of_mem Component.id distinct member
    rw [← Option.some.inj sameId, Keyed.find?_of_mem Component.id distinct there] at found
    exact found

section ComponentCall

variable (id : NodeId) (component : Component) (function : LibraryFunction)

/-- A new call of a component has this component selected, whatever its name is. -/
theorem selected_componentMethod :
    (componentMethod id component function).selectedComponentId = some component.id := by
  simp [CallNode.selectedComponentId, CallNode.boundComponent, componentMethod, Keyed.find?]

variable {live : List Component} (distinct : (live.map Component.id).Nodup)
  (member : component ∈ live)
include distinct member

/-- A new call of a live component follows the components without a loss, and learns the live ones
of the class. -/
theorem followComponents_componentMethod :
    (componentMethod id component function).followComponents live =
      (placedComponentMethod id component function live, []) := by
  have rebound : (componentMethod id component function).rebind live =
      placedComponentMethod id component function live := by
    rw [CallNode.rebind, selected_componentMethod]
    rfl
  have bound : ((componentMethod id component function).rebind live).boundComponent =
      some component := by
    rw [CallNode.boundComponent_rebind, selected_componentMethod]
    exact firstLive_of_mem distinct member
  rw [CallNode.followComponents_eq, CallNode.lossOf, bound]
  show ((CallNode.rebind _ live).setField .component component.name, ([] : List PassWarning)) = _
  rw [rebound]
  rfl

/-- What is saved of a call of a component method does not depend on the components that it was
placed beside. -/
theorem save_placedComponentMethod :
    (placedComponentMethod id component function live).save =
      (componentMethod id component function).save := by
  have selected :=
    (componentMethod id component function).selected_followComponents live
  rw [followComponents_componentMethod id component function distinct member] at selected
  unfold CallNode.save
  rw [selected]
  rfl

end ComponentCall

end Palette

/-- A node that the palette builds is in sync as soon as it is placed. Take any workspace in which
no node, no definition and no component comes twice, and place a node under any identifier, new or
not: a caller of one of its definitions, of any of the three kinds, or a call of any function on one
of its components. A full pass over the workspace reports the node as neither changed nor relabelled
and without a warning, fires no change of it, and leaves it as it was built, except that a call of a
component knows all live components of the class afterwards. -/
theorem palette_nodes_are_in_sync (workspace : Workspace) (distinct : workspace.nodeIds.Nodup)
    (defined : (workspace.definitions.map Definition.id).Nodup) (id : NodeId) :
    (∀ definition ∈ workspace.definitions, ∀ build ∈ Palette.callers,
      (workspace.addNode (build id definition)).InSync id (build id definition)) ∧
    ((workspace.components.map Component.id).Nodup →
      ∀ component ∈ workspace.components, ∀ function : LibraryFunction,
        let node := Palette.componentMethod id component function
        (workspace.addNode node).InSync id
          { node with
            components := workspace.components.filter fun other =>
              decide (other.className = component.className) }) := by
  constructor
  · intro definition member build builds
    obtain ⟨sameId, unlatched, silent⟩ := Palette.unwarned_of_caller builds id definition
    have found := Keyed.find?_of_mem Definition.id defined member
    have repaired : Trigger.fullRepair workspace.components workspace.definitions
        (build id definition) = (build id definition, []) := by
      rw [Trigger.fullRepair_of_calls (Palette.calls_of_caller builds id definition), found]
      exact (Palette.matchesDefinition_of_caller builds id definition).follow
    have inSync := Workspace.inSync_of_repair (workspace.nodup_nodeIds_addNode _ distinct)
      (Workspace.mem_addNode _) repaired unlatched silent rfl rfl
    rw [sameId] at inSync
    exact inSync
  · intro attached component member function node
    have repaired : Trigger.fullRepair workspace.components workspace.definitions node =
        (Palette.placedComponentMethod id component function workspace.components, []) := by
      rw [Trigger.fullRepair_of_componentMethod rfl]
      exact Palette.followComponents_componentMethod id component function attached member
    exact Workspace.inSync_of_repair (workspace.nodup_nodeIds_addNode node distinct)
      (Workspace.mem_addNode node) repaired rfl rfl
      (Palette.save_placedComponentMethod id component function attached member) rfl

/-- A call through the robot and a call of a motor are placed beside a caller that still shows the
old label of the definition. Of the two passes each relabels that caller and has nothing to say
about the new node. -/
theorem palette_nodes_are_in_sync_beside_stale_caller :
    let fire : Definition := ⟨⟨"def"⟩, "fire", "fire_now", .typed "int", none, [⟨"speed", "float"⟩]⟩
    let lift : Component := ⟨⟨"m1"⟩, "lift", "Motor"⟩
    let arm : Component := ⟨⟨"m2"⟩, "arm", "Motor"⟩
    let stop : LibraryFunction := ⟨"stop", "", "None", [⟨"self", "Motor"⟩], "Motor"⟩
    let stale : CallNode :=
      { id := ⟨"n1"⟩, kind := .ownMethod, definitionId := some ⟨"def"⟩, returnType := .typed "int",
        arguments := [⟨"speed", "float"⟩], fields := { function := some "shoot" } }
    let workspace : Workspace :=
      { nodes := [stale], definitions := [fire], components := [lift, arm] }
    let robotCall := Palette.robotMethod ⟨"n2"⟩ fire
    let motorCall := Palette.componentMethod ⟨"n2"⟩ arm stop
    workspace.nodeIds.Nodup ∧ (workspace.definitions.map Definition.id).Nodup ∧
      fire ∈ workspace.definitions ∧ Palette.robotMethod ∈ Palette.callers ∧
      (workspace.addNode robotCall).InSync ⟨"n2"⟩ robotCall ∧
      ((workspace.addNode robotCall).runPass .graphLoaded).2.relabelled = [stale.id] ∧
      (workspace.components.map Component.id).Nodup ∧ arm ∈ workspace.components ∧
      (workspace.addNode motorCall).InSync ⟨"n2"⟩ { motorCall with components := [lift, arm] } ∧
      ((workspace.addNode motorCall).runPass .graphLoaded).2.relabelled = [stale.id] := by
  intro fire lift arm stop stale workspace robotCall motorCall
  have distinct : workspace.nodeIds.Nodup := by decide
  have defined : (workspace.definitions.map Definition.id).Nodup := by decide
  have attached : (workspace.components.map Component.id).Nodup := by decide
  have isCaller : Palette.robotMethod ∈ Palette.callers := List.mem_cons_of_mem _ List.mem_cons_self
  have isDefined : fire ∈ workspace.definitions := List.mem_cons_self
  have isAttached : arm ∈ workspace.components := List.mem_cons_of_mem _ List.mem_cons_self
  obtain ⟨callers, componentCalls⟩ := palette_nodes_are_in_sync workspace distinct defined ⟨"n2"⟩
  exact ⟨distinct, defined, isDefined, isCaller, callers fire isDefined _ isCaller, by decide,
    attached, isAttached, componentCalls attached arm isAttached stop, by decide⟩

end RobotBlocks
