import Mathlib
import RobotBlocks.Proofs.NameForm

/-!
# Spellings of one name

A name of several words is spelled in many ways: `driveForward`, `Drive Forward`, `drive - forward`,
`drive_forward`. All of them give the same name, which is made of the words with an underscore
between each two (`spellings_share_name`).

Where a word begins is told in two ways. Behind a small letter or digit a capital begins a word, and
any run of other characters ends one. Either way the scan writes one underscore, and it comes to the
end of each word in the same state, for a word has a small letter or digit at its end
(`snakeCase_next`).
-/

set_option autoImplicit false

namespace RobotBlocks.Code

/-- A word of a name: a small letter, and at least one more small letter or digit. -/
structure Word where
  first : Char
  rest : List Char
  lower : first.isLower = true
  more : rest ≠ []
  small : ∀ c ∈ rest, c.isLower = true ∨ c.isDigit = true

/-- What may stand between two words: anything but letters and digits. -/
structure Gap where
  chars : List Char
  nonempty : chars ≠ []
  other : ∀ c ∈ chars, c.isAlphanum = false

/-- White space before or after a label. -/
structure Margin where
  chars : List Char
  blank : ∀ c ∈ chars, Text.isBlank c = true

namespace Word

/-- The characters of the word. -/
def chars (word : Word) : List Char :=
  word.first :: word.rest

/-- The word with a capital. -/
def capitalized (word : Word) : List Char :=
  word.first.toUpper :: word.rest

end Word

/-- The ways to spell a name of several words. -/
inductive Spelling
  | camelCase
  | titleCase
  | lowerCase
  | underscores

namespace Spelling

/-- How the first word is written. -/
def lead : Spelling → Word → List Char
  | .titleCase, word => word.capitalized
  | _, word => word.chars

/-- How a later word is written, with what stands before it. -/
def next : Spelling → Gap → Word → List Char
  | .camelCase, _, word => word.capitalized
  | .titleCase, gap, word => gap.chars ++ word.capitalized
  | .lowerCase, gap, word => gap.chars ++ word.chars
  | .underscores, _, word => '_' :: word.chars

/-- A name spelled out. Two of the spellings have no gaps. -/
def label (spelling : Spelling) (first : Word) (later : List (Gap × Word)) : List Char :=
  spelling.lead first ++ later.flatMap fun entry => spelling.next entry.1 entry.2

end Spelling

/-- The words with an underscore between each two. -/
def joined (words : List Word) : String :=
  "_".intercalate (words.map fun word => String.ofList word.chars)

/-! ## The scan of a word -/

/-- Small letters and digits are scanned as they stand, and the scan comes to their end behind a
small one. -/
theorem snakeCase_rest {last : Last} {chars : List Char} (more : chars ≠ [])
    (small : ∀ c ∈ chars, c.isLower = true ∨ c.isDigit = true) (text : List Char) :
    snakeCase last (chars ++ text) = chars ++ snakeCase .small text := by
  induction chars generalizing last with
  | nil => exact absurd rfl more
  | cons c rest ih =>
    rw [List.forall_mem_cons] at small
    rw [List.cons_append, snakeCase_of_small _ small.1]
    cases rest with
    | nil => rfl
    | cons d others =>
      rw [ih (List.cons_ne_nil d others) small.2]
      rfl

section Words

variable (word : Word) (text : List Char)

/-- A word is scanned as it stands, whatever came before it. -/
theorem snakeCase_word (last : Last) :
    snakeCase last (word.chars ++ text) = word.chars ++ snakeCase .small text := by
  apply snakeCase_rest (List.cons_ne_nil _ _)
  rw [List.forall_mem_cons]
  exact ⟨Or.inl word.lower, word.small⟩

/-- A word with a capital is scanned as the word, behind an underscore if a small letter or digit
came before. -/
theorem snakeCase_capital (last : Last) :
    snakeCase last (word.first.toUpper :: (word.rest ++ text)) =
      (if last = .small then ['_'] else []) ++ word.chars ++ snakeCase .small text := by
  have alpha : word.first.isAlpha = true := by
    simp [Char.isAlpha, word.lower]
  have upper : word.first.toUpper.isUpper = true := by
    rw [Char.isUpper_toUpper_eq_isAlpha, alpha]
  have lowered : word.first.toUpper.toLower = word.first := by
    rw [Char.toLower_toUpper_eq_toLower,
      Char.toLower_eq_of_not_isUpper (Char.not_isUpper_of_isLower word.lower)]
  rw [snakeCase_of_isUpper _ upper, lowered, snakeCase_rest word.more word.small]
  simp [Word.chars]

end Words

/-- Behind an underscore, characters other than letters and digits are passed over. -/
theorem snakeCase_underscore_append {chars : List Char}
    (other : ∀ c ∈ chars, c.isAlphanum = false) (text : List Char) :
    snakeCase .underscore (chars ++ text) = snakeCase .underscore text := by
  induction chars with
  | nil => rfl
  | cons c rest ih =>
    rw [List.forall_mem_cons] at other
    rw [List.cons_append, snakeCase_of_other _ other.1, if_pos rfl, List.nil_append, ih other.2]

/-- A gap behind a word is scanned as one underscore. -/
theorem snakeCase_gap (gap : Gap) (text : List Char) :
    snakeCase .small (gap.chars ++ text) = '_' :: snakeCase .underscore text := by
  have other := gap.other
  obtain ⟨c, rest, chars⟩ := List.exists_cons_of_ne_nil gap.nonempty
  rw [chars, List.forall_mem_cons] at other
  rw [chars, List.cons_append, snakeCase_of_other _ other.1, if_neg (by decide),
    snakeCase_underscore_append other.2]
  rfl

/-! ## The scan of a spelling -/

section Scan

variable (spelling : Spelling) (word : Word) (text : List Char)

/-- However the first word is spelled, it is scanned as the word. -/
theorem snakeCase_lead :
    snakeCase .free (spelling.lead word ++ text) = word.chars ++ snakeCase .small text := by
  cases spelling with
  | titleCase => exact snakeCase_capital word text .free
  | camelCase | lowerCase | underscores => exact snakeCase_word word text .free

/-- However the next word is spelled, it is scanned as an underscore and the word. -/
theorem snakeCase_next (gap : Gap) :
    snakeCase .small (spelling.next gap word ++ text) =
      '_' :: word.chars ++ snakeCase .small text := by
  cases spelling with
  | camelCase => exact snakeCase_capital word text .small
  | titleCase =>
    have capital := snakeCase_capital word text .underscore
    simp only [Spelling.next, List.append_assoc]
    rw [snakeCase_gap]
    exact congrArg ('_' :: ·) capital
  | lowerCase =>
    simp only [Spelling.next, List.append_assoc]
    rw [snakeCase_gap, snakeCase_word]
    rfl
  | underscores =>
    have other : '_'.isAlphanum = false := rfl
    simp only [Spelling.next, List.cons_append]
    rw [snakeCase_of_other _ other, if_neg (by decide), snakeCase_word]
    rfl

/-- However a label is spelled, it is scanned as its words with an underscore between each two. -/
theorem snakeCase_label (first : Word) (later : List (Gap × Word)) :
    snakeCase .free (spelling.label first later) =
      first.chars ++ later.flatMap fun entry => '_' :: entry.2.chars := by
  have scanned : snakeCase .small (later.flatMap fun entry => spelling.next entry.1 entry.2) =
      later.flatMap fun entry => '_' :: entry.2.chars := by
    induction later with
    | nil => rfl
    | cons entry rest ih =>
      rw [List.flatMap_cons, snakeCase_next, ih]
      rfl
  unfold Spelling.label
  rw [snakeCase_lead, scanned]

end Scan

/-- The joined words are the first one and then each later one behind an underscore. -/
theorem toList_joined (first : Word) (later : List Word) :
    (joined (first :: later)).toList =
      first.chars ++ later.flatMap fun word => '_' :: word.chars := by
  unfold joined
  induction later generalizing first with
  | nil => simp
  | cons word rest ih =>
    have others := ih word
    rw [List.map_cons] at others
    rw [List.map_cons, List.map_cons, String.intercalate_cons_cons, String.toList_append, others]
    simp

/-! ## The ends of a label -/

section Ends

variable (spelling : Spelling)

/-- In every spelling the first word begins with a letter or digit and goes on as the word does. -/
theorem exists_lead (word : Word) :
    ∃ c, c.isAlphanum = true ∧ spelling.lead word = c :: word.rest := by
  have alpha : word.first.isAlpha = true := by
    simp [Char.isAlpha, word.lower]
  cases spelling with
  | titleCase => exact ⟨word.first.toUpper, by simp [Char.isAlphanum, alpha], rfl⟩
  | camelCase | lowerCase | underscores =>
    exact ⟨word.first, by simp [Char.isAlphanum, alpha], rfl⟩

/-- In every spelling a later word goes on to its end as the word does. -/
theorem exists_next (gap : Gap) (word : Word) :
    ∃ front, spelling.next gap word = front ++ word.rest := by
  cases spelling with
  | camelCase => exact ⟨[word.first.toUpper], rfl⟩
  | titleCase =>
    exact ⟨gap.chars ++ [word.first.toUpper], by simp [Spelling.next, Word.capitalized]⟩
  | lowerCase => exact ⟨gap.chars ++ [word.first], by simp [Spelling.next, Word.chars]⟩
  | underscores => exact ⟨['_', word.first], rfl⟩

/-- A label ends as one of its words does. -/
theorem exists_label_eq_append (first : Word) (later : List (Gap × Word)) :
    ∃ front word, spelling.label first later = front ++ Word.rest word := by
  obtain ⟨c, -, lead⟩ := exists_lead spelling first
  unfold Spelling.label
  rw [lead]
  generalize start : c :: first.rest = text
  have ends : ∃ front word, text = front ++ Word.rest word := ⟨[c], first, start.symm⟩
  clear start lead
  induction later generalizing text with
  | nil =>
    rw [List.flatMap_nil, List.append_nil]
    exact ends
  | cons entry rest ih =>
    obtain ⟨front, next⟩ := exists_next spelling entry.1 entry.2
    rw [List.flatMap_cons, ← List.append_assoc]
    apply ih
    exact ⟨text ++ front, entry.2, by rw [next, List.append_assoc]⟩

/-- White space around a label is all that is trimmed, for a label begins with a letter and ends
with a small letter or digit. -/
theorem trim_label (before after : Margin) (first : Word) (later : List (Gap × Word)) :
    Text.trim (before.chars ++ (spelling.label first later ++ after.chars)) =
      spelling.label first later := by
  obtain ⟨c, alphanum, lead⟩ := exists_lead spelling first
  obtain ⟨front, word, ending⟩ := exists_label_eq_append spelling first later
  apply Text.trim_surrounded before.blank after.blank
  · simp [Spelling.label, lead]
  · intro d atStart
    rw [Spelling.label, lead] at atStart
    obtain rfl : c = d := by simpa using atStart
    exact isBlank_of_isAlphanum alphanum
  · intro d atEnd
    rw [ending, List.getLast?_append_of_ne_nil _ word.more] at atEnd
    have small := word.small d (List.mem_of_getLast? atEnd)
    exact isBlank_of_isAlphanum (isAlphanum_of_small small)

end Ends

/-- All spellings of a name of one or more words give one name, whatever stands between the words
and with white space around it or none: the words with an underscore between each two, and an
underscore behind them if that is a keyword. -/
theorem spellings_share_name (spelling : Spelling) (first : Word) (later : List (Gap × Word))
    (before after : Margin) :
    identifier (String.ofList (before.chars ++ (spelling.label first later ++ after.chars))) =
      if joined (first :: later.map Prod.snd) ∈ keywords
      then joined (first :: later.map Prod.snd) ++ "_"
      else joined (first :: later.map Prod.snd) := by
  have scanned := snakeCase_label spelling first later
  have whole : first.chars ++ (later.flatMap fun entry => '_' :: entry.2.chars) =
      (joined (first :: later.map Prod.snd)).toList := by
    rw [toList_joined, List.flatMap_map]
  rw [whole] at scanned
  have noDigit : ∀ c ∈ (joined (first :: later.map Prod.snd)).toList.head?, c.isDigit = false := by
    intro c atStart
    rw [toList_joined] at atStart
    obtain rfl : first.first = c := by simpa [Word.chars] using atStart
    exact isDigit_of_isLower first.lower
  unfold identifier identifierChars
  rw [String.toList_ofList, trim_label, scanned]
  split
  · rename_i empty
    rw [toList_joined] at empty
    simp [Word.chars] at empty
  · rw [guardDigit_eq_self noDigit]
    unfold guardKeyword
    rw [String.ofList_toList]
    split
    · simp
    · simp

/-- Two words in all four spellings, with a dash between them and white space around them, and a
single word that is a keyword. -/
theorem spellings_share_name_of_two_words :
    let drive : Word := ⟨'d', ['r', 'i', 'v', 'e'], by decide, by decide, by simp⟩
    let forward : Word :=
      ⟨'f', ['o', 'r', 'w', 'a', 'r', 'd', '2'], by decide, by decide, by simp⟩
    let loop : Word := ⟨'w', ['h', 'i', 'l', 'e'], by decide, by decide, by simp⟩
    let dash : Gap := ⟨[' ', '-', ' '], by decide, by simp⟩
    let before : Margin := ⟨[' '], List.forall_mem_singleton.mpr (by decide)⟩
    let after : Margin := ⟨['\t'], List.forall_mem_singleton.mpr (by decide)⟩
    let spelled := fun spelling : Spelling =>
      String.ofList (before.chars ++ (spelling.label drive [(dash, forward)] ++ after.chars))
    (spelled .camelCase = " driveForward2\t" ∧ spelled .titleCase = " Drive - Forward2\t" ∧
      spelled .lowerCase = " drive - forward2\t" ∧ spelled .underscores = " drive_forward2\t") ∧
    (identifier (spelled .camelCase) = "drive_forward2" ∧
      identifier (spelled .titleCase) = "drive_forward2" ∧
      identifier (spelled .lowerCase) = "drive_forward2" ∧
      identifier (spelled .underscores) = "drive_forward2") ∧
    identifier (String.ofList
      (before.chars ++ (Spelling.titleCase.label loop [] ++ after.chars))) = "while_" := by
  intro drive forward loop dash before after spelled
  have name : joined [drive, forward] = "drive_forward2" := by decide
  have keyword : joined [loop] = "while" := by decide
  have named (spelling : Spelling) : identifier (spelled spelling) = "drive_forward2" := by
    have shared := spellings_share_name spelling drive [(dash, forward)] before after
    rw [List.map_singleton, name, if_neg (by decide)] at shared
    exact shared
  have escaped := spellings_share_name .titleCase loop [] before after
  rw [List.map_nil, keyword, if_pos (by decide)] at escaped
  exact ⟨⟨by decide, by decide, by decide, by decide⟩,
    ⟨named .camelCase, named .titleCase, named .lowerCase, named .underscores⟩, escaped⟩

end RobotBlocks.Code
