import Mathlib.Data.List.Basic
import RobotBlocks.Json.Document
import RobotBlocks.Json.Printer

/-!
# Reading JSON text that was written

What is written for a text between quotes stands for the text (`unescape?_escape`), and the scanner
takes it for one lexeme. `Writes` says of characters that the scanner and the reader make a document
of them wherever a value may stand. A text writes its document, and an object does if the values of
its entries do (`writes_text`, `writes_object`); such a document is what a whole text is read as
(`Document.ofText?_render`).
-/

set_option autoImplicit false

namespace RobotBlocks.Json

/-! ## Texts between quotes -/

section Escape

/-- A letter that stands for a character after a backslash opens no hexadecimal escape, and the
scanner knows it. -/
theorem isEscapeLetter_of_escapedChar? {letter c : Char} (stands : escapedChar? letter = some c) :
    letter ≠ 'u' ∧ Scan.isEscapeLetter letter = true := by
  have known : Scan.isEscapeLetter letter = true := by
    unfold escapedChar? at stands
    split at stands
    all_goals first
      | rfl
      | cases stands
  refine ⟨?_, known⟩
  rintro rfl
  cases known

/-- The ways in which characters are written. -/
theorem escapeChar_cases (c : Char) :
    (∃ letter, escapeChar c = ['\\', letter] ∧ escapedChar? letter = some c) ∨
      c.toNat < 0x20 ∧ escapeChar c =
        ['\\', 'u', '0', '0', hexDigit (c.toNat / 16), hexDigit (c.toNat % 16)] ∨
      0x20 ≤ c.toNat ∧ c ≠ '"' ∧ c ≠ '\\' ∧ escapeChar c = [c] := by
  have short {letter d : Char} (same : c = d) (stands : escapedChar? letter = some d) :
      ∃ other, ['\\', letter] = ['\\', other] ∧ escapedChar? other = some c :=
    ⟨letter, rfl, same ▸ stands⟩
  unfold escapeChar
  split
  · exact Or.inl (short ‹_› rfl)
  split
  · exact Or.inl (short ‹_› rfl)
  split
  · exact Or.inl (short ‹_› rfl)
  split
  · exact Or.inl (short ‹_› rfl)
  split
  · exact Or.inl (short ‹_› rfl)
  split
  · exact Or.inl (short ‹_› rfl)
  split
  · exact Or.inl (short ‹_› rfl)
  split
  · exact Or.inr (Or.inl ⟨‹_›, rfl⟩)
  · rename_i quote backslash _ _ _ _ _ visible
    exact Or.inr (Or.inr ⟨Nat.le_of_not_lt visible, quote, backslash, rfl⟩)

/-- The hexadecimal digits that are written for a control character spell its code point. -/
theorem unitOfHex?_hexDigits {value : Nat} (small : value < 0x20) :
    unitOfHex? '0' '0' (hexDigit (value / 16)) (hexDigit (value % 16)) = some value := by
  revert value
  decide

/-- What is written for a character stands for its code point. -/
theorem units?_escapeChar_append (c : Char) (rest : List Char) :
    units? (escapeChar c ++ rest) = (units? rest).map (c.toNat :: ·) := by
  rcases escapeChar_cases c with ⟨letter, written, stands⟩ | ⟨control, written⟩ |
    ⟨-, -, notBackslash, written⟩
  · obtain ⟨notHex, -⟩ := isEscapeLetter_of_escapedChar? stands
    rw [written]
    show units? ('\\' :: letter :: rest) = _
    rw [units?, stands]
    · cases units? rest <;> rfl
    · rintro _ _ _ _ _ rfl
      exact absurd rfl notHex
  · rw [written]
    show units? ('\\' :: 'u' :: '0' :: '0' :: hexDigit _ :: hexDigit _ :: rest) = _
    rw [units?, unitOfHex?_hexDigits control]
    cases units? rest <;> rfl
  · rw [written]
    show units? (c :: rest) = _
    rw [units?]
    · cases units? rest <;> rfl
    · rintro _ _ _ _ _ same
      exact absurd same notBackslash
    · rintro _ _ same
      exact absurd same notBackslash

/-- What is written for characters stands for their code points. -/
theorem units?_flatMap_escapeChar (chars : List Char) :
    units? (chars.flatMap escapeChar) = some (chars.map Char.toNat) := by
  induction chars with
  | nil => rfl
  | cons c rest ih =>
    rw [List.flatMap_cons, units?_escapeChar_append, ih]
    rfl

/-- No character is half a pair. -/
theorem not_pair_toNat (c : Char) : opensPair c.toNat = false ∧ closesPair c.toNat = false := by
  unfold opensPair closesPair
  rw [decide_eq_false_iff_not, decide_eq_false_iff_not]
  have valid : c.toNat < 0xD800 ∨ 0xDFFF < c.toNat ∧ c.toNat < 0x110000 := c.valid
  omega

/-- Code points of characters are taken for these characters. -/
theorem charsOfUnits?_map_toNat (chars : List Char) :
    charsOfUnits? (chars.map Char.toNat) = some chars := by
  induction chars with
  | nil => rfl
  | cons c rest ih =>
    obtain ⟨notOpening, notClosing⟩ := not_pair_toNat c
    cases rest with
    | nil =>
      show (if opensPair c.toNat || closesPair c.toNat then none else some [Char.ofNat c.toNat]) = _
      rw [notOpening, notClosing, Char.ofNat_toNat]
      rfl
    | cons next others =>
      rw [List.map_cons] at ih
      rw [List.map_cons, List.map_cons, charsOfUnits?, notOpening, notClosing, ih,
        Char.ofNat_toNat]
      rfl

/-- What is written for a text stands for the text. -/
theorem unescape?_escape (text : String) : unescape? (escape text) = some text := by
  unfold unescape? escape
  rw [units?_flatMap_escapeChar, Option.bind_eq_bind, Option.bind_some, charsOfUnits?_map_toNat,
    Option.bind_eq_bind, Option.bind_some, String.ofList_toList]

/-- A digit is written as it is. -/
theorem escapeChar_of_isDigit {c : Char} (isDigit : c.isDigit = true) : escapeChar c = [c] := by
  have other {d : Char} (noDigit : d.isDigit = false) : c ≠ d := by
    rintro rfl
    rw [noDigit] at isDigit
    cases isDigit
  have visible : ¬c.toNat < 0x20 := by
    have least := (Char.isDigit_iff_toNat.mp isDigit).1
    have code : '0'.toNat = 48 := rfl
    omega
  rw [escapeChar, if_neg (other rfl), if_neg (other rfl), if_neg (other rfl), if_neg (other rfl),
    if_neg (other rfl), if_neg (other rfl), if_neg (other rfl), if_neg visible]

/-- Digits are written as they are. -/
theorem escape_eq_self {text : String} (isDigit : ∀ c ∈ text.toList, c.isDigit = true) :
    escape text = text.toList := by
  rw [escape, List.flatMap_congr fun c member => escapeChar_of_isDigit (isDigit c member),
    List.flatMap_singleton']

end Escape

/-! ## Scanning -/

section Scan

variable {found : List Lexeme} {seen : List Char}

/-- A run over a list starts its back from where its front ends. -/
theorem foldlM_append_of_eq_some {α σ : Type} {step : σ → α → Option σ} {first second : List α}
    {start middle : σ} (reached : first.foldlM step start = some middle) :
    (first ++ second).foldlM step start = second.foldlM step middle := by
  rw [List.foldlM_append, reached]
  rfl

/-- What is written for a number below sixteen is a hexadecimal digit. -/
theorem isHexDigit_hexDigit {value : Nat} (small : value < 16) :
    Scan.isHexDigit (hexDigit value) = true := by
  revert value
  decide

/-- What is written for a character stays within the text that it is scanned in. -/
theorem scan_escapeChar (c : Char) :
    (escapeChar c).foldlM Scan.step ⟨.text seen, found⟩ =
      some ⟨.text ((escapeChar c).reverse ++ seen), found⟩ := by
  rcases escapeChar_cases c with ⟨letter, written, stands⟩ | ⟨control, written⟩ |
    ⟨visible, notQuote, notBackslash, written⟩
  · obtain ⟨notHex, escapes⟩ := isEscapeLetter_of_escapedChar? stands
    rw [written]
    simp [Scan.step, notHex, escapes]
  · have zero : Scan.isHexDigit '0' = true := by decide
    have high : Scan.isHexDigit (hexDigit (c.toNat / 16)) = true :=
      isHexDigit_hexDigit (by omega)
    have low : Scan.isHexDigit (hexDigit (c.toNat % 16)) = true := isHexDigit_hexDigit (by omega)
    rw [written]
    simp [Scan.step, zero, high, low]
  · rw [written]
    simp [Scan.step, notQuote, notBackslash, Nat.not_lt.mpr visible]

/-- What is written for characters stays within the text that it is scanned in. -/
theorem scan_flatMap_escapeChar (chars : List Char) :
    (chars.flatMap escapeChar).foldlM Scan.step ⟨.text seen, found⟩ =
      some ⟨.text ((chars.flatMap escapeChar).reverse ++ seen), found⟩ := by
  induction chars generalizing seen with
  | nil => rfl
  | cons c rest ih =>
    rw [List.flatMap_cons, foldlM_append_of_eq_some (scan_escapeChar c), ih, List.reverse_append,
      List.append_assoc]

end Scan

/-- Between two lexemes, the scanner makes these lexemes of the characters. -/
def Spells (chars : List Char) (lexemes : List Lexeme) : Prop :=
  ∀ found, chars.foldlM Scan.step ⟨.between, found⟩ = some ⟨.between, lexemes.reverse ++ found⟩

/-- Characters one behind the other are scanned as their lexemes one behind the other. -/
theorem Spells.append {first second : List Char} {lexemes others : List Lexeme}
    (spells : Spells first lexemes) (spellsToo : Spells second others) :
    Spells (first ++ second) (lexemes ++ others) := by
  intro found
  rw [foldlM_append_of_eq_some (spells found), spellsToo, List.reverse_append, List.append_assoc]

/-- An opening brace is one lexeme. -/
theorem spells_openObject : Spells ['\x7b'] [.openObject] := fun _ => rfl

/-- A closing brace is one lexeme. -/
theorem spells_closeObject : Spells ['\x7d'] [.closeObject] := fun _ => rfl

/-- A colon is one lexeme. -/
theorem spells_colon : Spells [':'] [.colon] := fun _ => rfl

/-- A comma is one lexeme. -/
theorem spells_comma : Spells [','] [.comma] := fun _ => rfl

/-- A text between quotes is one lexeme. -/
theorem spells_textChars (text : String) : Spells (textChars text) [.text (escape text)] := by
  intro found
  have within : (escape text).foldlM Scan.step ⟨.text [], found⟩ =
      some ⟨.text ((escape text).reverse ++ []), found⟩ := scan_flatMap_escapeChar text.toList
  -- the first quote opens the text, the last one closes it
  show (escape text ++ ['"']).foldlM Scan.step ⟨.text [], found⟩ = _
  rw [foldlM_append_of_eq_some within, List.append_nil]
  show some (Scan.State.mk .between (.text (escape text).reverse.reverse :: found)) = _
  rw [List.reverse_reverse]
  rfl

/-! ## Reading -/

section Read

open Document

/-- Where a value may stand, the reader makes this document of the lexemes. -/
def Builds (lexemes : List Lexeme) (document : Document) : Prop :=
  ∀ enclosing, lexemes.foldlM Reader.step ⟨.value, enclosing⟩ = some ⟨.next document, enclosing⟩

/-- Where a value may stand, the characters are read as this document. -/
def Writes (chars : List Char) (document : Document) : Prop :=
  ∃ lexemes, Spells chars lexemes ∧ Builds lexemes document

/-- A text writes the text between its quotes. -/
theorem writes_text (text : String) : Writes (chars (.text text)) (.text (escape text)) :=
  ⟨[.text (escape text)], spells_textChars text, fun _ => rfl⟩

/-- One entry of an object: its key, its value, and the document that the value writes. -/
structure Row where
  key : String
  value : Json
  document : Document

namespace Row

def entry (row : Row) : String × Json := (row.key, row.value)

def written (row : Row) : List Char × Document := (escape row.key, row.document)

def Writes (row : Row) : Prop := Json.Writes (chars row.value) row.document

end Row

/-- Where a key may stand, the reader takes a key, a colon and the lexemes of a value for an entry.
-/
theorem build_entry {lexemes : List Lexeme} {document : Document} (builds : Builds lexemes document)
    (key : List Char) (before : List (List Char × Document)) (enclosing : List Open) :
    (Lexeme.text key :: .colon :: lexemes).foldlM Reader.step ⟨.key before, enclosing⟩ =
      some ⟨.next document, .object before key :: enclosing⟩ :=
  builds (.object before key :: enclosing)

/-- The entries of an object, at least one, up to its closing brace. -/
theorem exists_lexemes_entries {first : Row} {rest : List Row}
    (each : ∀ row ∈ first :: rest, row.Writes) :
    ∃ lexemes, Spells (entriesChars ((first :: rest).map Row.entry))
        (.text (escape first.key) :: lexemes) ∧
      ∀ before enclosing,
        (Lexeme.text (escape first.key) :: lexemes ++ [Lexeme.closeObject]).foldlM Reader.step
            ⟨.key before, enclosing⟩ =
          some ⟨.next (.object (before.reverse ++ (first :: rest).map Row.written)),
            enclosing⟩ := by
  induction rest generalizing first with
  | nil =>
    obtain ⟨value, spells, builds⟩ := each first List.mem_cons_self
    refine ⟨.colon :: value, ?_, ?_⟩
    · exact (spells_textChars first.key).append (spells_colon.append spells)
    · intro before enclosing
      rw [foldlM_append_of_eq_some (build_entry builds _ before enclosing)]
      show some (Reader.mk (.next (.object ((_ :: before).reverse))) enclosing) = _
      rw [List.reverse_cons]
      rfl
  | cons next others ih =>
    obtain ⟨value, spells, builds⟩ := each first List.mem_cons_self
    obtain ⟨lexemes, spellsOthers, buildsOthers⟩ :=
      ih fun row member => each row (List.mem_cons_of_mem first member)
    -- the first entry, a comma, and the others as they go on behind any entry
    refine ⟨.colon :: value ++ .comma :: .text (escape next.key) :: lexemes, ?_, ?_⟩
    · have entry := (spells_textChars first.key).append (spells_colon.append spells)
      exact entry.append (spells_comma.append spellsOthers)
    · intro before enclosing
      have entry := build_entry builds (escape first.key) before enclosing
      rw [← List.cons_append, List.append_assoc, foldlM_append_of_eq_some entry]
      show (Lexeme.text (escape next.key) :: lexemes ++ [Lexeme.closeObject]).foldlM Reader.step
        ⟨.key ((escape first.key, first.document) :: before), enclosing⟩ = _
      rw [buildsOthers, List.reverse_cons, List.append_assoc]
      rfl

/-- An object writes the documents of its entries. -/
theorem writes_object {rows : List Row} (each : ∀ row ∈ rows, row.Writes) :
    Writes (chars (.object (rows.map Row.entry))) (.object (rows.map Row.written)) := by
  cases rows with
  | nil =>
    exact ⟨[.openObject, .closeObject], spells_openObject.append spells_closeObject, fun _ => rfl⟩
  | cons first rest =>
    obtain ⟨lexemes, spells, builds⟩ := exists_lexemes_entries each
    refine ⟨.openObject :: (.text (escape first.key) :: lexemes ++ [Lexeme.closeObject]), ?_, ?_⟩
    · exact spells_openObject.append (spells.append spells_closeObject)
    · intro enclosing
      -- the first key may stand where a key may
      exact builds [] enclosing

/-- A text that writes a document is read as this document. -/
theorem Document.ofText?_render {value : Json} {document : Document}
    (writes : Writes (chars value) document) : Document.ofText? value.render = some document := by
  obtain ⟨lexemes, spells, builds⟩ := writes
  have scanned : lexemes? value.render.toList = some lexemes := by
    rw [render, String.toList_ofList, lexemes?, Scan.start, spells, List.append_nil]
    show some lexemes.reverse.reverse = _
    rw [List.reverse_reverse]
  have read : Document.ofLexemes? lexemes = some document := by
    rw [ofLexemes?, Reader.start, builds]
    rfl
  rw [Document.ofText?, scanned]
  exact read

end Read

end RobotBlocks.Json
