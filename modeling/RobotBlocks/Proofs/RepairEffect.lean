import RobotBlocks.Pass

/-!
# What a repair does to a node

A repair writes a few fields of a node and leaves the rest of it alone. The part that no repair
touches is `CallNode.untouched`, and `Trigger.untouched_run` says so for the repair of every
trigger.

A repair is *settling* when it finds nothing to do on a node that it has just repaired. Settling
repairs are idempotent (`Repair.Settling.run_run`), and the repair of every trigger is settling
(`Trigger.settling_repair`). For a definition this holds because a repaired node matches it
(`CallNode.matchesDefinition_follow`); for a component, because the component that is selected
after the repair is the one that was selected before it (`CallNode.selected_followComponents`).
-/

set_option autoImplicit false

namespace RobotBlocks

/-! ## Settling repairs -/

namespace Repair

/-- A repair that finds the same warnings and nothing to change on a node it has repaired. -/
def Settling (repair : Repair) : Prop :=
  ∀ node, repair (repair.run node) = (repair.run node, (repair node).2)

end Repair

namespace CallNode

/-- Of the passing warnings the last ones count. -/
@[simp]
theorem setWarnings_setWarnings (node : CallNode) (first second : List String) :
    (node.setWarnings first).setWarnings second = node.setWarnings second := rfl

/-- The warnings that a node shows make no difference to the selected component. -/
@[simp]
theorem selectedComponentId_setWarnings (node : CallNode) (passing : List String) :
    (node.setWarnings passing).selectedComponentId = node.selectedComponentId := rfl

end CallNode

/-- A settling repair is idempotent. -/
theorem Repair.Settling.run_run {repair : Repair} (settling : repair.Settling) (node : CallNode) :
    repair.run (repair.run node) = repair.run node := by
  have again := settling node
  calc repair.run (repair.run node)
      = (repair.run node).setWarnings ((repair node).2.map PassWarning.message) := by
        rw [Repair.run, again]
    _ = repair.run node := by rw [Repair.run, CallNode.setWarnings_setWarnings]

namespace CallNode

/-- The part of a node that no repair touches. -/
def untouched (node : CallNode) : CallNode where
  id := node.id
  kind := node.kind
  tooltip := node.tooltip
  importModule := node.importModule
  definitionId := node.definitionId
  componentClass := node.componentClass
  fields := { owner := node.fields.owner, others := node.fields.others }

/-- Setting the warnings leaves alone what no repair touches. -/
@[simp]
theorem untouched_setWarnings (node : CallNode) (passing : List String) :
    (node.setWarnings passing).untouched = node.untouched := rfl

section Untouched

variable {left right : CallNode} (same : left.untouched = right.untouched)
include same

/-- States that agree in what no repair touches have the same identifier. -/
theorem id_of_untouched : left.id = right.id := by
  have ids := congrArg CallNode.id same
  exact ids

/-- States that agree in what no repair touches have the same kind. -/
theorem kind_of_untouched : left.kind = right.kind := by
  have kinds := congrArg CallNode.kind same
  exact kinds

/-- States that agree in what no repair touches call the same definition. -/
theorem definitionId_of_untouched : left.definitionId = right.definitionId := by
  have definitionIds := congrArg CallNode.definitionId same
  exact definitionIds

/-- States that agree in what no repair touches need a component of the same class. -/
theorem componentClass_of_untouched : left.componentClass = right.componentClass := by
  have classes := congrArg CallNode.componentClass same
  exact classes

end Untouched

/-! ## Following a definition -/

/-- The latched warnings after one more; a warning that is there already is not added. -/
def latchedWith (latched : List String) (warning : String) : List String :=
  if latched.contains warning then latched else latched ++ [warning]

/-- Latching changes the latched warnings and nothing else. -/
theorem latch_eq (node : CallNode) (warning : String) :
    node.latch warning = { node with latched := latchedWith node.latched warning } := by
  unfold latch latchedWith
  split <;> rfl

/-- The latched warnings of a node that takes the return type of a definition over. -/
def latchedForReturn (node : CallNode) (definition : Definition) : List String :=
  if node.returnType ≠ definition.returnType then
    latchedWith node.latched PassWarning.returnTypeChanged.message
  else node.latched

/-- The latched warnings of a node that takes the signature of a definition over: the return type
is announced before the arguments. -/
def latchedFor (node : CallNode) (definition : Definition) : List String :=
  if node.arguments ≠ definition.params then
    latchedWith (node.latchedForReturn definition) PassWarning.argumentsChanged.message
  else node.latchedForReturn definition

/-- The name to call of a node that takes it over from a definition. -/
def calleeNameFor (node : CallNode) (definition : Definition) : String :=
  if node.kind = .robotMethod ∨ node.calleeName ≠ "" then definition.emittedName
  else node.calleeName

/-- Taking the name to call over from a definition changes this name only. -/
theorem takeCalleeName_eq (node : CallNode) (definition : Definition) :
    node.takeCalleeName definition =
      { node with calleeName := node.calleeNameFor definition } := by
  unfold takeCalleeName calleeNameFor
  split <;> rfl

/-- Taking the return type over changes what is latched, and nothing else. -/
theorem takeReturnType_eq (node : CallNode) (definition : Definition) :
    node.takeReturnType definition =
      { node with
        returnType := definition.returnType
        latched := node.latchedForReturn definition } := by
  unfold takeReturnType latchedForReturn
  split
  · rw [latch_eq]
  · rename_i same
    rw [← Decidable.of_not_not same]

/-- Taking the arguments over changes what is latched, and nothing else. -/
theorem takeArguments_eq (node : CallNode) (definition : Definition) :
    node.takeArguments definition =
      { node with
        arguments := definition.params
        latched :=
          if node.arguments ≠ definition.params then
            latchedWith node.latched PassWarning.argumentsChanged.message
          else node.latched } := by
  unfold takeArguments
  split
  · rw [latch_eq]
  · rename_i same
    rw [← Decidable.of_not_not same]

/-- Everything that following a definition does to a node. -/
theorem followDefinition_some (node : CallNode) (definition : Definition) :
    node.followDefinition (some definition) =
      ({ node with
          fields := node.fields.set .function definition.displayName
          calleeName := node.calleeNameFor definition
          returnType := definition.returnType
          arguments := definition.params
          latched := node.latchedFor definition }, []) := by
  simp only [followDefinition, takeLabel, setField, takeCalleeName_eq, takeReturnType_eq,
    takeArguments_eq]
  rfl

/-- A node that shows, calls and expects what a definition declares. -/
structure MatchesDefinition (node : CallNode) (definition : Definition) : Prop where
  label : node.fields.function = some definition.displayName
  calleeName : node.calleeNameFor definition = node.calleeName
  returnType : node.returnType = definition.returnType
  arguments : node.arguments = definition.params

/-- The name to call is the same when it is taken over a second time. -/
theorem calleeNameFor_idem (node : CallNode) (definition : Definition) :
    ({ node with calleeName := node.calleeNameFor definition } : CallNode).calleeNameFor
      definition = node.calleeNameFor definition := by
  unfold calleeNameFor
  -- an unset name stays unset unless the kind needs one, whatever the definition offers
  by_cases robot : node.kind = .robotMethod
  · simp [robot]
  · by_cases unset : node.calleeName = ""
    · simp [robot, unset]
    · simp [robot, unset]

/-- A node that has followed a definition matches it. -/
theorem matchesDefinition_follow (node : CallNode) (definition : Definition) :
    (node.followDefinition (some definition)).1.MatchesDefinition definition := by
  rw [followDefinition_some]
  exact ⟨rfl, calleeNameFor_idem node definition, rfl, rfl⟩

/-- A node fits a definition whatever warnings it shows. -/
theorem MatchesDefinition.setWarnings {node : CallNode} {definition : Definition}
    (fits : node.MatchesDefinition definition) (passing : List String) :
    (node.setWarnings passing).MatchesDefinition definition :=
  ⟨fits.label, fits.calleeName, fits.returnType, fits.arguments⟩

/-- A node that matches a definition has nothing to take over from it. -/
theorem MatchesDefinition.follow {node : CallNode} {definition : Definition}
    (fits : node.MatchesDefinition definition) :
    node.followDefinition (some definition) = (node, []) := by
  have label : node.fields.set .function definition.displayName = node.fields := by
    rw [BlockFields.set, ← fits.label]
  have latched : node.latchedFor definition = node.latched := by
    simp [latchedFor, latchedForReturn, fits.returnType, fits.arguments]
  rw [followDefinition_some, label, latched, fits.calleeName, ← fits.returnType, ← fits.arguments]

/-- Following a definition, or its absence, is settling. -/
theorem settling_followDefinition (definition? : Option Definition) :
    Repair.Settling fun node => node.followDefinition definition? := by
  intro node
  cases definition? with
  | none => rfl
  | some definition =>
    have fits := (node.matchesDefinition_follow definition).setWarnings
      ((node.followDefinition (some definition)).2.map PassWarning.message)
    have passing : (node.followDefinition (some definition)).2 = [] := by
      rw [followDefinition_some]
    exact fits.follow.trans (congrArg (Prod.mk _) passing.symm)

/-- Following a definition leaves alone what no repair touches. -/
theorem untouched_followDefinition (node : CallNode) (definition? : Option Definition) :
    (node.followDefinition definition?).1.untouched = node.untouched := by
  cases definition? with
  | none => rfl
  | some definition =>
    rw [followDefinition_some]
    rfl

/-! ## Following the components -/

/-- The bound component carries the identifier that is bound. -/
theorem id_of_boundComponent {node : CallNode} {component : Component}
    (bound : node.boundComponent = some component) : node.componentId = some component.id := by
  unfold boundComponent at bound
  cases found : node.componentId with
  | none => simp [found] at bound
  | some id =>
    rw [found] at bound
    rw [Keyed.key_of_find? bound]

/-- A node that shows its bound component under its name, or shows no name at all. -/
def ShowsBound (node : CallNode) : Prop :=
  ∀ component, node.boundComponent = some component →
    node.fields.component = none ∨ node.fields.component = some component.name

/-- A node that shows its bound component has that component selected. -/
theorem ShowsBound.selected {node : CallNode} (shows : node.ShowsBound) :
    node.selectedComponentId = node.componentId := by
  unfold selectedComponentId
  cases bound : node.boundComponent with
  | none => rfl
  | some component =>
    rw [id_of_boundComponent bound]
    rcases shows component bound with unset | named
    · simp [unset]
    · simp [named]

/-- A node that knows the live components of its class, and shows the bound one if it is among
them. -/
structure MatchesComponents (node : CallNode) (live : List Component) : Prop where
  components : node.components = componentsOfClass node.componentClass live
  shown : ∀ component, node.boundComponent = some component →
    node.fields.component = some component.name

/-- What a pass says about a node that it has bound: whether its component is lost. -/
def lossOf (node : CallNode) : List PassWarning :=
  match node.boundComponent with
  | some _ => []
  | none => [.componentMissing]

/-- Following the components shows the bound component, if it is found, and changes nothing else
of a node that has just been bound. -/
theorem followComponents_eq (node : CallNode) (live : List Component) :
    node.followComponents live =
      (match (node.rebind live).boundComponent with
        | some component => (node.rebind live).setField .component component.name
        | none => node.rebind live, (node.rebind live).lossOf) := by
  cases bound : (node.rebind live).boundComponent with
  | none => simp [followComponents, lossOf, bound]
  | some component => simp [followComponents, lossOf, bound]

/-- Following the components binds what was selected. -/
theorem componentId_followComponents (node : CallNode) (live : List Component) :
    (node.followComponents live).1.componentId = node.selectedComponentId := by
  rw [followComponents_eq]
  dsimp only
  split <;> rfl

/-- Showing the bound component does not change which one it is. -/
theorem boundComponent_followComponents (node : CallNode) (live : List Component) :
    (node.followComponents live).1.boundComponent = (node.rebind live).boundComponent := by
  rw [followComponents_eq]
  dsimp only
  split <;> rfl

/-- A node that has followed the components matches them. -/
theorem matchesComponents_follow (node : CallNode) (live : List Component) :
    (node.followComponents live).1.MatchesComponents live := by
  constructor
  · rw [followComponents_eq]
    dsimp only
    split <;> rfl
  · intro component bound
    rw [boundComponent_followComponents] at bound
    rw [followComponents_eq, bound]
    rfl

/-- A node fits the live components whatever warnings it shows. -/
theorem MatchesComponents.setWarnings {node : CallNode} {live : List Component}
    (fits : node.MatchesComponents live) (passing : List String) :
    (node.setWarnings passing).MatchesComponents live :=
  ⟨fits.components, fits.shown⟩

/-- A node that matches the components shows the bound one. -/
theorem MatchesComponents.showsBound {node : CallNode} {live : List Component}
    (fits : node.MatchesComponents live) : node.ShowsBound :=
  fun component bound => Or.inr (fits.shown component bound)

/-- What is selected survives following the components. -/
theorem selected_followComponents (node : CallNode) (live : List Component) :
    (node.followComponents live).1.selectedComponentId = node.selectedComponentId := by
  rw [(node.matchesComponents_follow live).showsBound.selected, componentId_followComponents]

/-- A node that matches the components has nothing to follow them in. -/
theorem MatchesComponents.follow {node : CallNode} {live : List Component}
    (fits : node.MatchesComponents live) : node.followComponents live = (node, node.lossOf) := by
  -- the chosen name agrees with the bound component, so binding the selection binds nothing new
  have rebound : node.rebind live = node := by
    rw [rebind, fits.showsBound.selected, ← fits.components]
  rw [followComponents_eq, rebound]
  cases bound : node.boundComponent with
  | none => rfl
  | some component =>
    have named : node.setField .component component.name = node := by
      rw [setField, BlockFields.set, ← fits.shown component bound]
    exact congrArg (fun shown => (shown, node.lossOf)) named

/-- What following the components says about a node can be told from the node after it. -/
theorem lossOf_followComponents (node : CallNode) (live : List Component) :
    (node.followComponents live).1.lossOf = (node.followComponents live).2 := by
  rw [lossOf, boundComponent_followComponents, followComponents_eq, lossOf]

/-- Following the components is settling. -/
theorem settling_followComponents (live : List Component) :
    Repair.Settling fun node => node.followComponents live := by
  intro node
  have fits := (node.matchesComponents_follow live).setWarnings
    ((node.followComponents live).2.map PassWarning.message)
  exact fits.follow.trans (congrArg (Prod.mk _) (node.lossOf_followComponents live))

/-- Following the components leaves alone what no repair touches. -/
theorem untouched_followComponents (node : CallNode) (live : List Component) :
    (node.followComponents live).1.untouched = node.untouched := by
  rw [followComponents_eq]
  dsimp only
  split <;> rfl

end CallNode

/-! ## The repair of a trigger -/

namespace Trigger

/-- The repair of a full pass, for nodes of a kind that refer to a definition. -/
def repairOfKind (live : List Component) (definitions : List Definition) (kind : CallKind)
    (definitionId : Option NodeId) : Repair :=
  if kind = .componentMethod then fun node => node.followComponents live
  else if kind.callsDefinition then fun node =>
    node.followDefinition (definitionId.bind fun id => Keyed.find? Definition.id id definitions)
  else fun node => (node, [])

/-- A full pass repairs a node after its kind and the definition that it refers to. -/
theorem fullRepair_eq (live : List Component) (definitions : List Definition) (node : CallNode) :
    fullRepair live definitions node =
      repairOfKind live definitions node.kind node.definitionId node := by
  unfold fullRepair repairOfKind CallNode.definitionAmong
  split
  · rfl
  · split <;> rfl

/-- The repair for each kind of call settles a node. -/
theorem settling_repairOfKind (live : List Component) (definitions : List Definition)
    (kind : CallKind) (definitionId : Option NodeId) :
    (repairOfKind live definitions kind definitionId).Settling := by
  unfold repairOfKind
  split
  · exact CallNode.settling_followComponents live
  · split
    · exact CallNode.settling_followDefinition _
    · exact fun node => rfl

/-- The repair for each kind of call leaves alone what no repair touches. -/
theorem untouched_repairOfKind (live : List Component) (definitions : List Definition)
    (kind : CallKind) (definitionId : Option NodeId) (node : CallNode) :
    (repairOfKind live definitions kind definitionId node).1.untouched = node.untouched := by
  unfold repairOfKind
  split
  · exact node.untouched_followComponents live
  · split
    · exact node.untouched_followDefinition _
    · rfl

/-- The repair of every trigger leaves alone what no repair touches. -/
theorem untouched_run (trigger : Trigger) (live : List Component) (definitions : List Definition)
    (node : CallNode) :
    ((trigger.repair live definitions).run node).untouched = node.untouched := by
  rw [Repair.run, CallNode.untouched_setWarnings]
  cases trigger with
  | definitionEdited definition => exact node.untouched_followDefinition (some definition)
  | definitionDeleted id => exact node.untouched_followDefinition none
  | componentsEdited => exact node.untouched_followComponents live
  | graphLoaded =>
    rw [repair, fullRepair_eq]
    exact untouched_repairOfKind live definitions node.kind node.definitionId node

/-- The repair of every trigger is settling. -/
theorem settling_repair (trigger : Trigger) (live : List Component)
    (definitions : List Definition) : (trigger.repair live definitions).Settling := by
  cases trigger with
  | definitionEdited definition => exact CallNode.settling_followDefinition (some definition)
  | definitionDeleted id => exact CallNode.settling_followDefinition none
  | componentsEdited => exact CallNode.settling_followComponents live
  | graphLoaded =>
    intro node
    -- the repair is chosen by the node, but by a part of it that no repair touches
    have untouched := graphLoaded.untouched_run live definitions node
    have kind := CallNode.kind_of_untouched untouched
    have definitionId := CallNode.definitionId_of_untouched untouched
    have settled := settling_repairOfKind live definitions node.kind node.definitionId node
    have run : (graphLoaded.repair live definitions).run node =
        (repairOfKind live definitions node.kind node.definitionId).run node := by
      rw [Repair.run, repair, fullRepair_eq, Repair.run]
    rw [repair, fullRepair_eq, fullRepair_eq]
    rw [repair] at kind definitionId run
    rw [kind, definitionId, run, settled]

end Trigger

end RobotBlocks
