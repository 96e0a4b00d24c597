import RobotBlocks.Proofs.Activity

/-!
# The log as a history

Every change that a pass makes to what is saved of a node is in the log, and nothing else is. A
piece of the log is a history of what happened in the meantime (`IsHistory`): the changes of each
node lead from what was saved of it before to what is saved of it after, each taking up where the
last one left off. Histories of consecutive stretches of time are joined by `IsHistory.trans`, a
pass has one (`isHistory_runPass`), and the other activities have the empty one. The main
statement is `reported_is_exact_history`.
-/

set_option autoImplicit false

namespace RobotBlocks

/-! ## Chains of changes -/

/-- Changes that lead from one saved state to another: each starts where the last one ended. No
change leads from a state to the same state. -/
def Leads (first : SavedState) : List StateChange → SavedState → Prop
  | [], last => first = last
  | change :: rest, last => change.before = first ∧ Leads change.after rest last

/-- Chains of changes are joined end to end. -/
theorem Leads.append {first middle last : SavedState} {earlier later : List StateChange}
    (start : Leads first earlier middle) (rest : Leads middle later last) :
    Leads first (earlier ++ later) last := by
  induction earlier generalizing first with
  | nil =>
    obtain rfl : first = middle := start
    exact rest
  | cons change changes ih => exact ⟨start.1, ih start.2⟩

/-- The change that a repair makes leads from what was saved of a node to what is saved of it
after the repair. -/
theorem Repair.leads_change? (repair : Repair) (node : CallNode) :
    Leads node.save (repair.change? node).toList (repair.run node).save := by
  by_cases same : node.save = (repair.run node).save
  · simp [change?, same, Leads]
  · simp [change?, same, Leads]

/-- A repair makes a change to exactly those nodes whose outcome is marked as changed. -/
theorem Repair.nodes_changes (repair : Repair) (nodes : List CallNode) :
    (nodes.filterMap repair.change?).map StateChange.node =
      PassReport.changed (nodes.map repair.outcome) := by
  induction nodes with
  | nil => rfl
  | cons node rest ih =>
    unfold PassReport.changed at ih ⊢
    by_cases same : node.save = (repair.run node).save
    · have unchanged : repair.change? node = none := by simp [change?, same]
      have marked : (repair.outcome node).changed = false := by simp [outcome, same]
      simp [unchanged, marked, ih]
    · have changed : repair.change? node =
          some ⟨node.id, node.save, (repair.run node).save⟩ := by simp [change?, same]
      have marked : (repair.outcome node).changed = true := by simp [outcome, same]
      have named : (repair.outcome node).node = node.id := rfl
      simp [changed, marked, named, ih]

/-- The changes of one node in a piece of the log. -/
def changesOf (id : NodeId) (fired : List ReportedChange) : List StateChange :=
  (fired.map ReportedChange.change).filter fun change => decide (change.node = id)

/-- The changes of one node in a list of changes are those in its front and then those in its back.
-/
theorem changesOf_append (id : NodeId) (earlier later : List ReportedChange) :
    changesOf id (earlier ++ later) = changesOf id earlier ++ changesOf id later := by
  simp [changesOf]

/-! ## Histories -/

/-- A piece of the log tells what happened between two states of a workspace: it was appended in
between, each of its entries is a change of a node of the workspace and was not recorded for undo,
and the changes of each node lead from its saved state before to its saved state after. -/
structure IsHistory (before after : Workspace) (fired : List ReportedChange) : Prop where
  reported : after.reported = before.reported ++ fired
  recordsUndo : after.recordsUndo = before.recordsUndo
  genuine : ∀ entry ∈ fired,
    entry.change.before ≠ entry.change.after ∧ entry.undoable = false
  known : ∀ entry ∈ fired, entry.change.node ∈ before.nodeIds
  nodeIds : after.nodeIds = before.nodeIds
  leads : ∀ id node, before.node? id = some node →
    ∃ final, after.node? id = some final ∧ Leads node.save (changesOf id fired) final.save

/-- Where neither nodes nor log nor mode changed, nothing is to be told. -/
theorem IsHistory.nothing {before after : Workspace} (nodes : after.nodes = before.nodes)
    (reported : after.reported = before.reported)
    (recordsUndo : after.recordsUndo = before.recordsUndo) : IsHistory before after [] where
  reported := by rw [reported, List.append_nil]
  recordsUndo := recordsUndo
  genuine := by simp
  known := by simp
  nodeIds := congrArg (List.map CallNode.id) nodes
  leads := fun id node found =>
    ⟨node, (congrArg (Keyed.find? CallNode.id id) nodes).trans found, rfl⟩

/-- Histories of two consecutive stretches of time make one. -/
theorem IsHistory.trans {first middle last : Workspace} {earlier later : List ReportedChange}
    (start : IsHistory first middle earlier) (rest : IsHistory middle last later) :
    IsHistory first last (earlier ++ later) where
  reported := by rw [rest.reported, start.reported, List.append_assoc]
  recordsUndo := rest.recordsUndo.trans start.recordsUndo
  genuine := fun entry member =>
    (List.mem_append.mp member).elim (start.genuine entry) (rest.genuine entry)
  known := fun entry member =>
    (List.mem_append.mp member).elim (start.known entry) fun later =>
      start.nodeIds ▸ rest.known entry later
  nodeIds := rest.nodeIds.trans start.nodeIds
  leads := by
    intro id node found
    obtain ⟨halfway, foundHalfway, leadsHalfway⟩ := start.leads id node found
    obtain ⟨final, foundFinal, leadsFinal⟩ := rest.leads id halfway foundHalfway
    exact ⟨final, foundFinal, changesOf_append id earlier later ▸ leadsHalfway.append leadsFinal⟩

/-! ## The history of a pass -/

namespace Workspace

/-- The change that a pass makes to what is saved of a node. -/
def changeBy (workspace : Workspace) (trigger : Trigger) (node : CallNode) : Option StateChange :=
  if trigger.concerns node then (workspace.repairFor trigger).change? node else none

/-- The entries that a pass appends to the log. -/
def firedBy (workspace : Workspace) (trigger : Trigger) : List ReportedChange :=
  (workspace.nodes.filterMap (workspace.changeBy trigger)).map StateChange.unrecorded

variable {workspace : Workspace} {trigger : Trigger}

/-- A change by a pass tells the identifier of its node, and is one. -/
theorem changeBy_eq_some {node : CallNode} {change : StateChange}
    (changed : workspace.changeBy trigger node = some change) :
    change.node = node.id ∧ change.before ≠ change.after := by
  unfold changeBy Repair.change? at changed
  split at changed
  · split at changed
    · rename_i different
      obtain rfl := Option.some.inj changed
      exact ⟨rfl, different⟩
    · exact absurd changed (Option.some_ne_none change).symm
  · exact absurd changed (Option.some_ne_none change).symm

/-- A pass makes a change to a node if something else is saved of it after the pass. -/
theorem changeBy_eq (node : CallNode) :
    workspace.changeBy trigger node =
      if node.save ≠ (workspace.afterPass trigger node).save then
        some ⟨node.id, node.save, (workspace.afterPass trigger node).save⟩
      else none := by
  unfold changeBy
  cases concerned : trigger.concerns node with
  | true =>
    rw [afterPass_of_concerned concerned]
    rfl
  | false =>
    rw [afterPass_of_unconcerned concerned]
    simp

/-- The change that a pass makes to a node leads from what was saved of it before to what is
saved of it after. -/
theorem leads_changeBy (node : CallNode) :
    Leads node.save (workspace.changeBy trigger node).toList
      (workspace.afterPass trigger node).save := by
  unfold changeBy afterPass
  split
  · exact Repair.leads_change? _ node
  · rfl

/-- Where no identifier comes twice, the changes of one node by a pass are the one that the pass
makes to this node, if any. -/
theorem filter_changeBy {nodes : List CallNode} (distinct : (nodes.map CallNode.id).Nodup)
    {node : CallNode} (member : node ∈ nodes) :
    (nodes.filterMap (workspace.changeBy trigger)).filter
        (fun change => decide (change.node = node.id)) =
      (workspace.changeBy trigger node).toList := by
  induction nodes with
  | nil => simp at member
  | cons first rest ih =>
    rw [List.map_cons, List.nodup_cons] at distinct
    rcases List.mem_cons.mp member with rfl | later
    · -- the changes after it are about nodes with other identifiers
      have others : (rest.filterMap (workspace.changeBy trigger)).filter
          (fun change => decide (change.node = node.id)) = [] := by
        refine List.filter_eq_nil_iff.mpr fun change fired => ?_
        obtain ⟨other, there, changed⟩ := List.mem_filterMap.mp fired
        intro same
        have sameId : other.id = node.id := by
          rw [← (changeBy_eq_some changed).1]
          exact of_decide_eq_true same
        exact distinct.1 (sameId ▸ List.mem_map_of_mem there)
      cases changed : workspace.changeBy trigger node with
      | none => simp [changed, others]
      | some change => simp [changed, others, (changeBy_eq_some changed).1]
    · have other : first.id ≠ node.id := fun same =>
        distinct.1 (same ▸ List.mem_map_of_mem later)
      have rest := ih distinct.2 later
      cases changed : workspace.changeBy trigger first with
      | none => simp [changed, rest]
      | some change => simp [changed, rest, (changeBy_eq_some changed).1, other]

/-- Of what a pass fires, the part that is about one node is the change that the pass makes to this
node, if it makes one. -/
theorem changesOf_firedBy (distinct : workspace.nodeIds.Nodup) {node : CallNode}
    (member : node ∈ workspace.nodes) :
    changesOf node.id (workspace.firedBy trigger) = (workspace.changeBy trigger node).toList := by
  have recorded : (workspace.firedBy trigger).map ReportedChange.change =
      workspace.nodes.filterMap (workspace.changeBy trigger) := by
    rw [firedBy, List.map_map]
    exact List.map_id' _
  rw [changesOf, recorded]
  exact filter_changeBy distinct member

/-- Where no identifier comes twice, a pass appends its changes to the log and leaves the mode of
recording as it was. -/
theorem reported_runPass (distinct : workspace.nodeIds.Nodup) :
    (workspace.runPass trigger).1.reported = workspace.reported ++ workspace.firedBy trigger ∧
      (workspace.runPass trigger).1.recordsUndo = workspace.recordsUndo := by
  rw [workspace.runPass_eq trigger distinct, firedBy, List.filterMap_filter]
  exact ⟨rfl, rfl⟩

/-- A pass fires exactly one change for each entry of its report that is marked as changed, in the
order of the report. -/
theorem nodes_firedBy (distinct : workspace.nodeIds.Nodup) :
    (workspace.firedBy trigger).map (fun entry => entry.change.node) =
      (workspace.runPass trigger).2.changed := by
  rw [workspace.runPass_eq trigger distinct, ← Repair.nodes_changes, List.filterMap_filter]
  exact List.map_map

/-- Where no identifier comes twice, a pass appends the history of its effect to the log. -/
theorem isHistory_runPass (distinct : workspace.nodeIds.Nodup) :
    IsHistory workspace (workspace.runPass trigger).1 (workspace.firedBy trigger) where
  reported := (reported_runPass distinct).1
  recordsUndo := (reported_runPass distinct).2
  genuine := by
    intro entry fired
    obtain ⟨change, member, rfl⟩ := List.mem_map.mp fired
    obtain ⟨node, -, changed⟩ := List.mem_filterMap.mp member
    exact ⟨(changeBy_eq_some changed).2, rfl⟩
  known := by
    intro entry fired
    obtain ⟨change, member, rfl⟩ := List.mem_map.mp fired
    obtain ⟨node, there, changed⟩ := List.mem_filterMap.mp member
    exact List.mem_map.mpr ⟨node, there, (changeBy_eq_some changed).1.symm⟩
  nodeIds := workspace.nodeIds_runPass trigger
  leads := by
    intro id node found
    refine ⟨workspace.afterPass trigger node, ?_, ?_⟩
    · rw [workspace.node?_runPass, found, Option.map_some]
    · have own : changesOf node.id (workspace.firedBy trigger) =
          (workspace.changeBy trigger node).toList :=
        changesOf_firedBy distinct (Keyed.mem_of_find? found)
      rw [id_of_node? found] at own
      rw [own]
      exact leads_changeBy node

end Workspace

/-! ## The history of a run -/

namespace Activity

/-- What an activity reports is the history of what it does. -/
theorem isHistory_perform {workspace : Workspace} (distinct : workspace.nodeIds.Nodup)
    (activity : Activity) : ∃ fired, IsHistory workspace (perform workspace activity) fired := by
  cases activity with
  | pass trigger => exact ⟨_, Workspace.isHistory_runPass distinct⟩
  | define definition => exact ⟨_, IsHistory.nothing rfl rfl rfl⟩
  | undefine id => exact ⟨_, IsHistory.nothing rfl rfl rfl⟩
  | attach components => exact ⟨_, IsHistory.nothing rfl rfl rfl⟩

/-- Activities append the history of their joint effect to the log. -/
theorem isHistory_run {workspace : Workspace} (distinct : workspace.nodeIds.Nodup)
    (activities : List Activity) :
    ∃ fired, IsHistory workspace (run workspace activities) fired := by
  induction activities generalizing workspace with
  | nil => exact ⟨_, IsHistory.nothing rfl rfl rfl⟩
  | cons activity rest ih =>
    obtain ⟨earlier, start⟩ := isHistory_perform distinct activity
    have stillDistinct : (perform workspace activity).nodeIds.Nodup := by
      rw [nodeIds_perform]
      exact distinct
    obtain ⟨later, further⟩ := ih stillDistinct
    exact ⟨earlier ++ later, start.trans further⟩

end Activity

/-- The changes that any run of passes, definition edits and component edits fires are an exact
history. Each of them is a change of a node of the workspace, and none is recorded for undo,
whatever the mode. The changes of each node lead from what was saved of it before the run to what
is saved of it after the run. Each pass of the run fires one change for each node that it reports
as changed, in the order of its report, and leaves the mode of recording as it was. -/
theorem reported_is_exact_history (workspace : Workspace) (distinct : workspace.nodeIds.Nodup)
    (activities : List Activity) :
    ∃ fired : List ReportedChange,
      (Activity.run workspace activities).reported = workspace.reported ++ fired ∧
      (∀ entry ∈ fired, entry.change.node ∈ workspace.nodeIds ∧
        entry.change.before ≠ entry.change.after ∧ entry.undoable = false) ∧
      (∀ node ∈ workspace.nodes, ∃ final ∈ (Activity.run workspace activities).nodes,
        final.id = node.id ∧ Leads node.save (changesOf node.id fired) final.save) ∧
      ∀ earlier trigger later, activities = earlier ++ Activity.pass trigger :: later →
        let before := Activity.run workspace earlier
        let after := (before.runPass trigger).1
        let report := (before.runPass trigger).2
        after.recordsUndo = before.recordsUndo ∧
          ∃ firedByPass, after.reported = before.reported ++ firedByPass ∧
            firedByPass.map (fun entry => entry.change.node) = report.changed := by
  obtain ⟨fired, history⟩ := Activity.isHistory_run distinct activities
  refine ⟨fired, history.reported, ?_, ?_, ?_⟩
  · exact fun entry member => ⟨history.known entry member, history.genuine entry member⟩
  · intro node member
    have found := Keyed.find?_of_mem CallNode.id distinct member
    obtain ⟨final, foundFinal, leads⟩ := history.leads node.id node found
    exact ⟨final, Keyed.mem_of_find? foundFinal, Workspace.id_of_node? foundFinal, leads⟩
  · intro earlier trigger later _ before after report
    have distinctBefore : before.nodeIds.Nodup := by
      rw [Activity.nodeIds_run]
      exact distinct
    refine ⟨?_, before.firedBy trigger, ?_, Workspace.nodes_firedBy distinctBefore⟩
    · exact (Workspace.reported_runPass distinctBefore).2
    · exact (Workspace.reported_runPass distinctBefore).1

/-- A definition is renamed and then taken out: of the two passes after these edits the first fires
one change, and the log tells what became of the caller. -/
theorem reported_is_exact_history_of_rename :
    let shoot : Definition := ⟨⟨"def"⟩, "shoot", "shoot", .nothing, none, []⟩
    let fire : Definition := { shoot with displayName := "fire", emittedName := "fire" }
    let caller : CallNode :=
      { id := ⟨"n1"⟩, kind := .robotMethod, calleeName := "shoot", definitionId := some shoot.id }
    let workspace : Workspace := { nodes := [caller], definitions := [shoot] }
    let activities : List Activity :=
      [.define fire, .pass (.definitionEdited fire), .undefine fire.id,
        .pass (.definitionDeleted fire.id)]
    let renamed := Activity.run workspace [.define fire]
    workspace.nodeIds.Nodup ∧
      (∃ fired, (Activity.run workspace activities).reported = workspace.reported ++ fired ∧
        ∃ final ∈ (Activity.run workspace activities).nodes,
          final.id = caller.id ∧ Leads caller.save (changesOf caller.id fired) final.save) ∧
      ∃ fired, (renamed.runPass (.definitionEdited fire)).1.reported = renamed.reported ++ fired ∧
        fired.map (fun entry => entry.change.node) = [caller.id] := by
  intro shoot fire caller workspace activities renamed
  have distinct : workspace.nodeIds.Nodup := by decide
  obtain ⟨fired, reported, -, leads, passes⟩ :=
    reported_is_exact_history workspace distinct activities
  obtain ⟨-, firedByPass, appended, named⟩ :=
    passes [.define fire] (.definitionEdited fire)
      [.undefine fire.id, .pass (.definitionDeleted fire.id)] rfl
  have changed : (renamed.runPass (.definitionEdited fire)).2.changed = [caller.id] := by decide
  exact ⟨distinct, ⟨fired, reported, leads caller List.mem_cons_self⟩, firedByPass, appended,
    named.trans changed⟩

end RobotBlocks
