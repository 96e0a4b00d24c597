import Mathlib.Data.List.Permutation
import RobotBlocks.Proofs.PortSpelling
import RobotBlocks.Proofs.TextReading
import RobotBlocks.Settings

/-!
# Saving and loading project settings

Settings are saved as an object whose entries may come in any order (`Settings.WrittenAs`). The
value is read back as the settings (`Settings.decoder_of_writtenAs`), and so is its text, up to the
check that only a text is put to (`Settings.ofText_of_writtenAs`). The check refuses exactly the
settings that are not `Settings.Usable`, and says why (`Settings.check_cases`).
-/

set_option autoImplicit false

namespace RobotBlocks

open Json

namespace Settings

variable {settings : Settings} {listed : List (UInt8 × String)} {value : Json}

/-- Settings as a JSON object, with the entries in any order. -/
inductive WrittenAs (settings : Settings) : Json → Prop
  | object {listed : List (UInt8 × String)} {fields : List (String × Json)}
    (ports : listed.Perm settings.gamepads.entries)
    (both : fields.Perm
      [("gamepads", .object (listed.map Ports.writtenEntry)), ("indent", .text settings.indent)]) :
    WrittenAs settings (.object fields)

/-- The object that is written for settings is one of those in which they may be saved. -/
theorem writtenAs_toJson (settings : Settings) : settings.WrittenAs settings.toJson :=
  .object (List.Perm.refl _) (List.Perm.refl _)

/-! ## The value -/

/-- Settings are read from an object from which both of their fields are read. -/
theorem decoder_of_reads {fields : List (String × Json)}
    (gamepads : (Field.optional "gamepads" Ports.decoder .initial).Reads fields settings.gamepads)
    (indent : (Field.optional "indent" .text Code.standardIndent).Reads fields settings.indent) :
    decoder (.object fields) = .ok settings := by
  refine Fields.decoder_object_eq_ok_iff.mpr ?_
  refine (Fields.and_eq_value_iff (by decide)).mpr
    ⟨Settings.mk settings.gamepads, _, ?_, indent, rfl⟩
  exact (Fields.and_eq_value_iff (by decide)).mpr ⟨_, _, rfl, gamepads, rfl⟩

/-- Settings are read back from the value in which they are saved. -/
theorem decoder_of_writtenAs (written : settings.WrittenAs value) :
    decoder value = .ok settings := by
  obtain ⟨ports, both⟩ := written
  have read := Ports.decoder_of_perm ports
  rcases List.perm_pair.mp both with rfl | rfl
  · exact decoder_of_reads (Field.reads_of_name nofun read) (Field.reads_of_name nofun rfl)
  · exact decoder_of_reads (Field.reads_of_name nofun read) (Field.reads_of_name nofun rfl)

/-! ## The text -/

/-- An entry of an assignment in an object. -/
def portRow (entry : UInt8 × String) : Row :=
  ⟨Ports.keyOf entry.1, .text entry.2, .text (escape entry.2)⟩

/-- The ports in the object. -/
def gamepadsRow (listed : List (UInt8 × String)) : Row :=
  ⟨"gamepads", .object (listed.map Ports.writtenEntry),
    .object ((listed.map portRow).map Row.written)⟩

/-- The indentation in the object. -/
def indentRow (indent : String) : Row :=
  ⟨"indent", .text indent, .text (escape indent)⟩

/-- The ports in the object are written as they are told. -/
theorem gamepadsRow_writes (listed : List (UInt8 × String)) : (gamepadsRow listed).Writes := by
  have each : ∀ row ∈ listed.map portRow, row.Writes := by
    intro row member
    obtain ⟨entry, -, rfl⟩ := List.mem_map.mp member
    exact writes_text entry.2
  have ports := writes_object each
  have same : (listed.map portRow).map Row.entry = listed.map Ports.writtenEntry := by
    rw [List.map_map]
    rfl
  rw [same] at ports
  exact ports

/-- The indentation in the object is written as it is told. -/
theorem indentRow_writes (indent : String) : (indentRow indent).Writes :=
  writes_text indent

/-- The entry of a port is read back from the text. -/
theorem portOf?_portRow (entry : UInt8 × String) :
    portOf? (portRow entry).written = some entry := by
  obtain ⟨port, name⟩ := entry
  have digits : escape (Ports.keyOf port) = (Ports.keyOf port).toList := by
    refine escape_eq_self fun c member => ?_
    rw [Ports.toList_keyOf] at member
    exact Literal.isDigit_of_mem_toDigits member
  show portOf? (escape (Ports.keyOf port), .text (escape name)) = some (port, name)
  rw [portOf?, digits, Ports.portOfKey_eq_ok_iff.mpr rfl, textOf?, unescape?_escape]
  rfl

/-- The ports are read back from the text, in whatever order they come. -/
theorem portsOf?_gamepadsRow (perm : listed.Perm settings.gamepads.entries) :
    portsOf? (gamepadsRow listed).document = some settings.gamepads := by
  have each : portOf? ∘ Row.written ∘ portRow = fun entry => pure entry :=
    funext portOf?_portRow
  show (((listed.map portRow).map Row.written).mapM portOf?).map Ports.ofList = _
  rw [List.map_map, List.mapM_map, each, List.mapM_pure, ← Ports.ofList_eq_of_perm perm]
  simp

/-- The entry of the ports sets the ports, and leaves the indentation as it is. -/
theorem step_gamepadsRow (perm : listed.Perm settings.gamepads.entries) (indent : Option String) :
    Draft.step ⟨none, indent⟩ (gamepadsRow listed).written =
      some ⟨some settings.gamepads, indent⟩ := by
  have key : unescape? (gamepadsRow listed).written.1 = some "gamepads" := unescape?_escape _
  have ports : portsOf? (gamepadsRow listed).written.2 = some settings.gamepads :=
    portsOf?_gamepadsRow perm
  rw [Draft.step, key, ports]
  rfl

/-- The entry of the indentation sets the indentation, and leaves the ports as they are. -/
theorem step_indentRow (gamepads : Option Ports) (indent : String) :
    Draft.step ⟨gamepads, none⟩ (indentRow indent).written = some ⟨gamepads, some indent⟩ := by
  have key : unescape? (indentRow indent).written.1 = some "indent" := unescape?_escape _
  have text : textOf? (indentRow indent).written.2 = some indent := unescape?_escape _
  rw [Draft.step, key, text]
  rfl

/-- The two entries set the two fields, in either order. -/
theorem foldlM_step_rows {rows : List Row} (ports : listed.Perm settings.gamepads.entries)
    (both : rows.Perm [gamepadsRow listed, indentRow settings.indent]) :
    (rows.map Row.written).foldlM Draft.step {} =
      some ⟨some settings.gamepads, some settings.indent⟩ := by
  rcases List.perm_pair.mp both with rfl | rfl
  · rw [List.map_cons, List.foldlM_cons, step_gamepadsRow ports]
    show (Draft.step _ (indentRow settings.indent).written).bind some = _
    rw [step_indentRow, Option.bind_some]
  · rw [List.map_cons, List.foldlM_cons, step_indentRow]
    show (Draft.step _ (gamepadsRow listed).written).bind some = _
    rw [step_gamepadsRow ports, Option.bind_some]

/-- The text of saved settings is read as the settings, and these are checked. -/
theorem ofText_of_writtenAs (written : settings.WrittenAs value) :
    ofText value.render = settings.check.map fun _ => settings := by
  obtain ⟨ports, both⟩ := written
  rename_i listed fields
  obtain ⟨rows, rfl, perm⟩ :=
    (congrFun₂ (List.eq_map_comp_perm Row.entry) fields
      [gamepadsRow listed, indentRow settings.indent]).mpr both
  have each : ∀ row ∈ rows, row.Writes := by
    intro row member
    rcases List.mem_pair.mp (perm.mem_iff.mp member) with rfl | rfl
    · exact gamepadsRow_writes listed
    · exact indentRow_writes settings.indent
  have document : ofDocument? (.object (rows.map Row.written)) = some settings := by
    rw [ofDocument?, foldlM_step_rows ports perm]
    rfl
  rw [ofText, Document.ofText?_render (writes_object each), Option.bind_some, document]

/-! ## The check -/

/-- One level of indentation, made of spaces and tabs. -/
def HasIndent (settings : Settings) : Prop :=
  settings.indent ≠ "" ∧ ∀ c ∈ settings.indent.toList, c = ' ' ∨ c = '\t'

/-- Settings with which a project can be worked on. -/
structure Usable (settings : Settings) : Prop where
  hasIndent : settings.HasIndent
  hasPorts : ∀ port ∈ settings.gamepads.entries.map Prod.fst, port ≤ 5

/-- Why settings are refused: the indentation comes first, and of the ports that the driver
station does not have, the least one. -/
inductive RefusedFor (settings : Settings) : SettingsFault → Prop
  | badIndent (bad : ¬settings.HasIndent) : RefusedFor settings (.badIndent settings.indent)
  | badPort (hasIndent : settings.HasIndent) {port : UInt8}
    (assigned : port ∈ settings.gamepads.entries.map Prod.fst) (bad : 5 < port)
    (least : ∀ other ∈ settings.gamepads.entries.map Prod.fst, 5 < other → port ≤ other) :
    RefusedFor settings (.badPort port)

/-- Settings that are refused are not usable. -/
theorem RefusedFor.not_usable {fault : SettingsFault} (refused : settings.RefusedFor fault) :
    ¬settings.Usable := by
  intro usable
  cases refused with
  | badIndent bad => exact bad usable.hasIndent
  | badPort _ assigned bad _ => exact absurd (usable.hasPorts _ assigned) (UInt8.not_le.mpr bad)

/-- The check of the indentation accepts spaces and tabs, at least one of them. -/
theorem isIndent_eq_true_iff : isIndent settings.indent = true ↔ settings.HasIndent := by
  simp [isIndent, isIndentChar, HasIndent, List.all_eq_true]

/-- Settings are usable and pass the check, or they are refused for a fault in them. -/
theorem check_cases (settings : Settings) :
    settings.check = .ok () ∧ settings.Usable ∨
      ∃ fault, settings.check = .error fault ∧ settings.RefusedFor fault := by
  unfold check
  by_cases hasIndent : settings.HasIndent
  · rw [if_pos (isIndent_eq_true_iff.mpr hasIndent), Ports.check]
    cases found :
      settings.gamepads.entries.find? fun entry => decide (lastGamepadPort < entry.1) with
    | none =>
      refine Or.inl ⟨rfl, hasIndent, fun port assigned => ?_⟩
      obtain ⟨entry, member, rfl⟩ := List.mem_map.mp assigned
      have good := List.find?_eq_none.mp found entry member
      rw [decide_eq_true_eq, UInt8.not_lt] at good
      exact good
    | some entry =>
      -- the ports before the one that is found are good, and those after it are greater
      obtain ⟨bad, before, after, split, good⟩ := List.find?_eq_some_iff_append.mp found
      have ascending := settings.gamepads.ascending
      refine Or.inr ⟨_, rfl, .badPort hasIndent ?_ (of_decide_eq_true bad) ?_⟩
      · exact List.mem_map_of_mem (List.mem_of_find?_eq_some found)
      · intro port assigned badToo
        obtain ⟨other, member, rfl⟩ := List.mem_map.mp assigned
        rw [split, List.pairwise_append, List.pairwise_cons] at ascending
        rw [split, List.mem_append, List.mem_cons] at member
        rcases member with early | rfl | late
        · have goodToo := good other early
          rw [Bool.not_eq_true', decide_eq_false_iff_not] at goodToo
          exact absurd badToo goodToo
        · exact UInt8.le_refl _
        · exact UInt8.le_of_lt (ascending.2.1.1 other late)
  · rw [if_neg fun accepted => hasIndent (isIndent_eq_true_iff.mp accepted)]
    exact Or.inr ⟨_, rfl, .badIndent hasIndent⟩

end Settings

/-! ## Saving and loading -/

/-- An assignment of ports is read back from the object that is written for it, and an object is
read as an assignment only if it is that object; a port has one spelling. Settings are read back
from the value that is written for them, with its entries in any order. From the text of that value
they are read back if they are usable, and refused for the first fault in them if they are not. -/
theorem settings_survive_saving :
    (∀ ports : Ports, Ports.decoder ports.toJson = .ok ports) ∧
      (∀ (entries : List (String × Json)) (ports : Ports), (entries.map Prod.fst).Nodup →
        (Ports.decoder (.object entries) = .ok ports ↔ entries.Perm ports.toJson.entries)) ∧
      (∀ (key : String) (port : UInt8),
        Ports.portOfKey key.toList = .ok port ↔ key = Ports.keyOf port) ∧
      ∀ settings : Settings, settings.WrittenAs settings.toJson ∧
        ∀ value, settings.WrittenAs value →
          Settings.decoder value = .ok settings ∧
            (Settings.ofText value.render = .ok settings ↔ settings.Usable) ∧
            (¬settings.Usable → ∃ fault, Settings.ofText value.render = .error fault ∧
              settings.RefusedFor fault) := by
  refine ⟨fun ports => ?_, fun entries ports distinct => ?_, fun key port => ?_,
    fun settings => ⟨settings.writtenAs_toJson, fun value written => ?_⟩⟩
  · exact Ports.decoder_of_perm (List.Perm.refl _)
  · exact Ports.decoder_object_eq_ok_iff_perm distinct
  · rw [Ports.portOfKey_eq_ok_iff, String.toList_inj]
  · rw [Settings.ofText_of_writtenAs written]
    refine ⟨Settings.decoder_of_writtenAs written, ?_⟩
    rcases settings.check_cases with ⟨passed, usable⟩ | ⟨fault, failed, refused⟩
    · rw [passed]
      exact ⟨iff_of_true rfl usable, fun unusable => absurd usable unusable⟩
    · rw [failed]
      exact ⟨iff_of_false nofun refused.not_usable, fun _ => ⟨fault, rfl, refused⟩⟩

/-- Port 10 comes before port 2 in the text, and is the one that is refused; without it the settings
are read back. -/
theorem settings_survive_saving_of_ports_out_of_order :
    let entries : List (String × Json) := [("10", .text "XBOX Gamepad"), ("2", .text "")]
    let settings : Settings :=
      { gamepads := .ofList [(2, ""), (10, "XBOX Gamepad")], indent := "\t" }
    let value : Json := .object [("indent", .text "\t"), ("gamepads", .object entries)]
    let fewer : Settings := { gamepads := .ofList [(2, "")], indent := "\t" }
    entries.Perm settings.gamepads.toJson.entries ∧
      Settings.decoder value = .ok settings ∧
      (∃ fault, Settings.ofText value.render = .error fault ∧ settings.RefusedFor fault) ∧
      Settings.ofText fewer.toJson.render = .ok fewer := by
  intro entries settings value fewer
  obtain ⟨-, ofEntries, -, ofSettings⟩ := settings_survive_saving
  have written : settings.WrittenAs value :=
    @Settings.WrittenAs.object settings [(10, "XBOX Gamepad"), (2, "")] _ (List.Perm.swap _ _ _)
      (List.Perm.swap _ _ _)
  have unusable : ¬settings.Usable := fun usable =>
    absurd (usable.hasPorts 10 (by decide)) (by decide)
  have usable : fewer.Usable := by
    refine ⟨Settings.isIndent_eq_true_iff.mp (by decide), ?_⟩
    show ∀ port ∈ [2], port ≤ 5
    exact List.forall_mem_singleton.mpr (by decide)
  obtain ⟨read, -, refused⟩ := (ofSettings settings).2 value written
  obtain ⟨-, accepted, -⟩ := (ofSettings fewer).2 _ (ofSettings fewer).1
  have ports : Ports.decoder (.object entries) = .ok settings.gamepads := rfl
  exact ⟨(ofEntries entries _ (by decide)).mp ports, read, refused unusable, accepted.mpr usable⟩

end RobotBlocks
