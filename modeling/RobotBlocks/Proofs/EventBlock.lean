import RobotBlocks.Proofs.CodeLayout
import RobotBlocks.Proofs.NameForm

/-!
# The firing of an event as a block of lines

An event is fired by a statement of two lines or more: a guard, and the call of the handler below
it, whose arguments may take further lines. `eventLines` lists these lines, and `event_eq_ofLines`
says that they are what is written.

Each line but the first begins with the indentation, which accepted settings make of spaces and tabs
(`Settings.isIndent_of_ofText`). Within the quotes stands a name made of the label, so that the
label itself, whatever it is, has no part in the lines. The main statement is
`event_is_indented_block`.
-/

set_option autoImplicit false

namespace RobotBlocks

/-- The text of lines, each with its end. -/
def Text.ofLines : List String → String
  | [] => ""
  | line :: rest => line ++ "\n" ++ Text.ofLines rest

/-! ## Accepted settings -/

namespace Settings

/-- Settings are accepted only if their indentation is one. -/
theorem isIndent_of_ofText {text : String} {settings : Settings}
    (accepted : Settings.ofText text = .ok settings) : isIndent settings.indent = true := by
  unfold Settings.ofText at accepted
  split at accepted
  · cases accepted
  · rename_i read _
    cases checked : read.check with
    | error fault =>
      rw [checked] at accepted
      cases accepted
    | ok done =>
      rw [checked] at accepted
      obtain rfl : read = settings := Except.ok.inj accepted
      unfold Settings.check at checked
      split at checked
      · assumption
      · cases checked

/-- An accepted indentation begins with a space or a tab. -/
theorem exists_indent_eq_cons {indent : String} (accepted : isIndent indent = true) :
    ∃ c rest, indent.toList = c :: rest ∧ isIndentChar c = true := by
  simp only [isIndent, Bool.and_eq_true, decide_eq_true_eq, List.all_eq_true] at accepted
  obtain ⟨nonempty, blank⟩ := accepted
  have filled : indent.toList ≠ [] := by
    simpa using nonempty
  obtain ⟨c, rest, chars⟩ := List.exists_cons_of_ne_nil filled
  exact ⟨c, rest, chars, blank c (by simp [chars])⟩

/-- An accepted indentation has no line break. -/
theorem noBreak_indent {indent : String} (accepted : isIndent indent = true) :
    '\n' ∉ indent.toList := by
  simp only [isIndent, Bool.and_eq_true, decide_eq_true_eq, List.all_eq_true] at accepted
  intro member
  exact absurd (accepted.2 '\n' member) (by decide)

end Settings

namespace Code

/-! ## The lines of a call -/

/-- The lines of several arguments below the opening parenthesis of a call, one for each. -/
def hangingLines (indent : String) : List String → List String
  | [] => []
  | [value] => [indent ++ (indent ++ value ++ ")")]
  | value :: rest => (indent ++ (indent ++ value ++ ",")) :: hangingLines indent rest

/-- What the line of a call holds behind the opening parenthesis, and the lines below it. -/
def callLines (indent : String) : List String → String × List String
  | [] => (")", [])
  | [value] => (value ++ ")", [])
  | values => ("", hangingLines indent values)

/-- The lines of several arguments, read as one text, are the arguments with commas between them and
the closing parenthesis behind the last one. -/
theorem ofLines_hangingLines (indent value : String) (rest : List String) :
    Text.ofLines (hangingLines indent (value :: rest)) =
      ",\n".intercalate ((value :: rest).map fun value => indent ++ indent ++ value) ++ ")\n" := by
  have lastEnd : ")\n" = ")" ++ "\n" := rfl
  have lineEnd : ",\n" = "," ++ "\n" := rfl
  induction rest generalizing value with
  | nil =>
    rw [lastEnd]
    simp [hangingLines, Text.ofLines, String.append_assoc]
  | cons next more ih =>
    have others := ih next
    rw [List.map_cons] at others
    rw [List.map_cons, List.map_cons, String.intercalate_cons_cons]
    simp only [hangingLines, Text.ofLines, others]
    rw [lineEnd]
    simp only [String.append_assoc]

/-- The text between parentheses, laid out in lines. -/
theorem layOut_eq_ofLines (indent : String) (values : List String) :
    layOut indent values ++ ")\n" =
      (callLines indent values).1 ++ "\n" ++ Text.ofLines (callLines indent values).2 := by
  have lastEnd : ")\n" = ")" ++ "\n" := rfl
  match values with
  | [] => rfl
  | [value] =>
    rw [lastEnd]
    simp [layOut, callLines, Text.ofLines, String.append_assoc]
  | first :: second :: rest =>
    simp only [layOut, callLines, ofLines_hangingLines, String.append_assoc, String.empty_append]

section Lines

variable {indent : String} {values : List String}

/-- Each of these lines holds one of the arguments, two levels in. -/
theorem exists_value_of_mem_hangingLines {line : String}
    (member : line ∈ hangingLines indent values) :
    ∃ value ∈ values, line = indent ++ (indent ++ value ++ ",") ∨
      line = indent ++ (indent ++ value ++ ")") := by
  induction values with
  | nil => cases member
  | cons value rest ih =>
    cases rest with
    | nil => exact ⟨value, List.mem_cons_self, Or.inr (List.mem_singleton.mp member)⟩
    | cons next more =>
      rcases List.mem_cons.mp member with rfl | later
      · exact ⟨value, List.mem_cons_self, Or.inl rfl⟩
      · obtain ⟨other, inRest, written⟩ := ih later
        exact ⟨other, List.mem_cons_of_mem value inRest, written⟩

/-- Each line below the line of a call is the indentation, taken twice, and one of the values. -/
theorem exists_value_of_mem_callLines {line : String}
    (member : line ∈ (callLines indent values).2) :
    ∃ value ∈ values, line = indent ++ (indent ++ value ++ ",") ∨
      line = indent ++ (indent ++ value ++ ")") := by
  match values with
  | [] => cases member
  | [value] => cases member
  | first :: second :: rest => exact exists_value_of_mem_hangingLines member

/-- No line break stands within a line of a call, if none stands in an argument. -/
theorem noBreak_callLines (noBreak : '\n' ∉ indent.toList)
    (each : ∀ value ∈ values, '\n' ∉ value.toList) :
    ∀ line ∈ (callLines indent values).1 :: (callLines indent values).2, '\n' ∉ line.toList := by
  rw [List.forall_mem_cons]
  constructor
  · match values, each with
    | [], _ => simp [callLines]
    | [value], each => simpa [callLines] using each
    | first :: second :: rest, _ => simp [callLines]
  · intro line member
    obtain ⟨value, inValues, rfl | rfl⟩ := exists_value_of_mem_callLines member
    · simp [noBreak, each value inValues]
    · simp [noBreak, each value inValues]

end Lines

/-! ## The lines of an event -/

/-- The lines of the firing of an event. -/
def eventLines (indent name : String) (values : List String) : List String :=
  eventGuard name :: (indent ++ (eventHandler name ++ "(" ++ (callLines indent values).1)) ::
    (callLines indent values).2

/-- The handler of an event is looked up by its name between quotes, and called. -/
theorem eventHandler_append (name : String) :
    eventHandler name ++ "(" = "self.events[\"" ++ name ++ "\"](" := by
  have handler : eventHandler name = "self.events[\"" ++ name ++ "\"]" := rfl
  have opening : "\"](" = "\"]" ++ "(" := rfl
  rw [handler, opening]
  simp only [String.append_assoc]

/-- The firing of an event, with the end of its line, is what its lines make. -/
theorem event_eq_ofLines (indent name : String) (values : List String) :
    guardedEvent indent name ++ "(" ++ layOut indent values ++ ")" ++ "\n" =
      Text.ofLines (eventLines indent name values) := by
  have lastEnd : ")" ++ "\n" = ")\n" := rfl
  rw [String.append_assoc, lastEnd, String.append_assoc, layOut_eq_ofLines, guardedEvent_eq]
  simp only [eventLines, Text.ofLines, String.append_assoc]

/-- No line break stands within a line of the firing of an event, whatever its label. -/
theorem noBreak_eventLines {indent label : String} {values : List String}
    (noBreak : '\n' ∉ indent.toList) (each : ∀ value ∈ values, '\n' ∉ value.toList) :
    ∀ line ∈ eventLines indent (identifier label) values, '\n' ∉ line.toList := by
  have call := noBreak_callLines noBreak each
  rw [List.forall_mem_cons] at call
  have guard := (inline_eventGuard label).onOneLine
  have handler := (inline_eventHandler label).onOneLine
  unfold eventLines
  rw [List.forall_mem_cons, List.forall_mem_cons]
  refine ⟨guard, ?_, call.2⟩
  simp [handler, noBreak, call.1]

/-! ## Writing an event -/

section Written

variable {node : CallNode} {context : Context}

/-- An event with a label is written as a guard and a handler with the name made of the label. -/
theorem calleeCode_of_event (kind : node.kind = .event) (labelled : node.functionName ≠ "") :
    calleeCode node context =
      .ok (guardedEvent context.indent (identifier node.functionName)) := by
  have required : requiredField node .function = .ok node.functionName :=
    requiredField_of_filled labelled
  unfold calleeCode
  rw [kind]
  simp only [required]
  rfl

/-- No argument has a line break if nothing that is plugged in has one. -/
theorem noBreak_of_mem_argumentValues
    (each : ∀ plug ∈ context.plugs, '\n' ∉ plug.code.toList) (first : Nat) :
    ∀ value ∈ argumentValues node context first, '\n' ∉ value.toList := by
  intro value member
  obtain ⟨position, -, rfl⟩ := List.mem_map.mp member
  apply argument_of_plug (P := fun code => '\n' ∉ code.toList)
  · simp [Context.noValue]
  · intro plug found
    exact each plug (List.mem_of_find?_eq_some found)
  · intro code noBreak
    simp [parenthesized, noBreak]

/-- The code of an event that gives nothing back, as lines. -/
theorem emit_event (kind : node.kind = .event) (noValue : node.returnType = .nothing)
    (labelled : node.functionName ≠ "") :
    (emit node context).1 =
      .ok (.statement (Text.ofLines (eventLines context.indent (identifier node.functionName)
        (argumentValues node context 0)))) := by
  have noResult : ¬node.hasValue = true := by
    rw [CallNode.hasValue, noValue]
    decide
  rw [emit_fst, fragment_of_calleeCode (calleeCode_of_event kind labelled), fragmentOf,
    if_neg noResult, kind, ← event_eq_ofLines]
  rfl

end Written

/-- Plugs that are put in one after the other change nothing but the plugs of the context. -/
theorem plug_foldl (plugs : List Plug) (context : Context) :
    plugs.foldl Context.plug context =
      { context with plugs := plugs.reverse ++ context.plugs } := by
  induction plugs generalizing context with
  | nil => rfl
  | cons plug rest ih =>
    rw [List.foldl_cons, ih]
    simp [Context.plug]

/-- The firing of an event is a block of lines, whatever its label. Take a project whose settings
were accepted, a module of it of any kind, and plugged-in code without line breaks. An event that
gives nothing back and has a label is then written as a statement. Its first line is the guard, its
second the indentation and the call of the handler, and each line but the first begins with a space
or a tab. The name within the quotes is the same in both lines, and it has the form of a name. -/
theorem event_is_indented_block {text : String} {settings : Settings}
    (accepted : Settings.ofText text = .ok settings) (moduleKind : ModuleKind) {plugs : List Plug}
    (each : ∀ plug ∈ plugs, '\n' ∉ plug.code.toList) {node : CallNode}
    (kind : node.kind = .event) (noValue : node.returnType = .nothing)
    (labelled : node.functionName ≠ "") :
    let name := identifier node.functionName
    IsName name ∧ ∃ first second further,
      (emit node (plugs.foldl Context.plug (settings.context moduleKind))).1 =
        .ok (.statement (Text.ofLines (first :: second :: further))) ∧
      (∀ line ∈ first :: second :: further, '\n' ∉ line.toList) ∧
      first = "if self.events.get(\"" ++ name ++ "\", None):" ∧
      (∃ rest, second = settings.indent ++ ("self.events[\"" ++ name ++ "\"](" ++ rest)) ∧
      ∀ line ∈ second :: further,
        ∃ c rest, line.toList = c :: rest ∧ (c = ' ' ∨ c = '\t') := by
  intro name
  have isIndent := Settings.isIndent_of_ofText accepted
  have noBreak := Settings.noBreak_indent isIndent
  have indentation : (plugs.foldl Context.plug (settings.context moduleKind)).indent =
      settings.indent := by
    rw [plug_foldl]
    rfl
  have plugged : ∀ plug ∈ (plugs.foldl Context.plug (settings.context moduleKind)).plugs,
      '\n' ∉ plug.code.toList := by
    intro plug member
    rw [plug_foldl] at member
    exact each plug (by simpa [Settings.context] using member)
  -- From here on only the indentation of the context and what is plugged into it matter.
  generalize plugs.foldl Context.plug (settings.context moduleKind) = context
    at indentation plugged ⊢
  have values : ∀ value ∈ argumentValues node context 0, '\n' ∉ value.toList :=
    noBreak_of_mem_argumentValues plugged 0
  have whole : (emit node context).1 = _ := emit_event kind noValue labelled
  rw [indentation] at whole
  refine ⟨isName_identifier _, _, _, _, whole,
    noBreak_eventLines noBreak values, rfl, ⟨_, by rw [eventHandler_append]⟩, fun line member => ?_⟩
  -- A line below the guard starts with the indentation, and this is not empty.
  obtain ⟨rest, rfl⟩ : ∃ rest, line = settings.indent ++ rest := by
    rcases List.mem_cons.mp member with rfl | below
    · exact ⟨_, rfl⟩
    · obtain ⟨value, -, rfl | rfl⟩ := exists_value_of_mem_callLines below
      · exact ⟨_, rfl⟩
      · exact ⟨_, rfl⟩
  obtain ⟨c, blanks, indent, blank⟩ := Settings.exists_indent_eq_cons isIndent
  refine ⟨c, blanks ++ rest.toList, ?_, ?_⟩
  · rw [String.toList_append, indent, List.cons_append]
  · simpa [Settings.isIndentChar] using blank

/-- An event whose label would end the text in quotes, the look-up and the line, in a project that
is indented with tabs. -/
theorem event_is_indented_block_of_hostile_label :
    let text := "\x7b\"indent\": \"\\t\"\x7d"
    let settings : Settings := { indent := "\t" }
    let plugs : List Plug := [⟨⟨"fire"⟩, "ARG0", "max(a, b)", .functionCall⟩]
    let fire : CallNode :=
      { id := ⟨"fire"⟩, kind := .event, arguments := [⟨"speed", "float"⟩, ⟨"angle", "float"⟩]
        fields := { function := some "stop\"]()\nimport os" } }
    Settings.ofText text = .ok settings ∧ (∀ plug ∈ plugs, '\n' ∉ plug.code.toList) ∧
      fire.kind = .event ∧ fire.returnType = .nothing ∧ fire.functionName ≠ "" ∧
      IsName "stop_import_os" ∧ ∃ first second further,
        (emit fire (plugs.foldl Context.plug (settings.context .opMode))).1 =
          .ok (.statement (Text.ofLines (first :: second :: further))) ∧
        first = "if self.events.get(\"stop_import_os\", None):" ∧
        ∃ rest, second = "\t" ++ ("self.events[\"" ++ "stop_import_os" ++ "\"](" ++ rest) := by
  intro text settings plugs fire
  have accepted : Settings.ofText text = .ok settings := by cbv
  have each : ∀ plug ∈ plugs, '\n' ∉ plug.code.toList := by
    intro plug member
    rw [List.mem_singleton.mp member]
    decide
  have labelled : fire.functionName ≠ "" := by decide
  have name : identifier fire.functionName = "stop_import_os" := by decide
  obtain ⟨form, first, second, further, whole, -, guard, call, -⟩ :=
    event_is_indented_block accepted .opMode each rfl rfl labelled
  rw [name] at form guard call
  exact ⟨accepted, each, rfl, rfl, labelled, form, first, second, further, whole, guard, call⟩

end Code

end RobotBlocks
