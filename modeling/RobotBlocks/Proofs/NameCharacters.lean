import Mathlib
import RobotBlocks.Code.Identifier

/-!
# The characters of names

A label is any text, and the name made of it has small letters, digits and underscores only. The
scan of a label takes one of three branches at each character, of which each has its equation
(`snakeCase_of_isUpper`, `snakeCase_of_small`, `snakeCase_of_other`).

Each of the steps that make the name keeps to the characters of names: the words in lower case with
underscores between them (`isNameChar_of_mem_snakeCase`), the guard before a digit and the guard
behind a keyword. The statement about the whole name is `isNameChar_of_mem_identifier`.
-/

set_option autoImplicit false

namespace RobotBlocks.Code

/-- Whether a character may be part of a name made of a label. -/
def isNameChar (c : Char) : Bool :=
  c.isLower || c.isDigit || decide (c = '_')

/-! ## Classes of characters -/

section Characters

variable {c : Char}

/-- The capitals are the code points from 65 to 90. -/
theorem isUpper_iff : c.isUpper = true ↔ 65 ≤ c.toNat ∧ c.toNat ≤ 90 := by
  simp [Char.isUpper, UInt32.le_iff_toNat_le]

/-- The small letters are the code points from 97 to 122. -/
theorem isLower_iff : c.isLower = true ↔ 97 ≤ c.toNat ∧ c.toNat ≤ 122 := by
  simp [Char.isLower, UInt32.le_iff_toNat_le]

/-- The digits are the code points from 48 to 57. -/
theorem isDigit_iff : c.isDigit = true ↔ 48 ≤ c.toNat ∧ c.toNat ≤ 57 := by
  simp [Char.isDigit, UInt32.le_iff_toNat_le]

/-- A small letter or digit is no capital. -/
theorem not_isUpper_of_small (small : c.isLower = true ∨ c.isDigit = true) :
    ¬c.isUpper = true := by
  rw [isLower_iff, isDigit_iff] at small
  rw [isUpper_iff]
  omega

/-- A small letter is no digit. -/
theorem isDigit_of_isLower (lower : c.isLower = true) : c.isDigit = false := by
  rw [isLower_iff] at lower
  rw [← Bool.not_eq_true, isDigit_iff]
  omega

/-- A small letter or digit is a letter or digit. -/
theorem isAlphanum_of_small (small : c.isLower = true ∨ c.isDigit = true) :
    c.isAlphanum = true := by
  rcases small with lower | digit
  · simp [Char.isAlphanum, Char.isAlpha, lower]
  · simp [Char.isAlphanum, digit]

/-- The scan of a label tells capitals, small letters or digits, and all other characters apart. -/
theorem upper_or_small_or_other (c : Char) :
    c.isUpper = true ∨ (c.isLower = true ∨ c.isDigit = true) ∨ c.isAlphanum = false := by
  cases alphanum : c.isAlphanum with
  | false => exact Or.inr (Or.inr rfl)
  | true =>
    simp only [Char.isAlphanum, Char.isAlpha, Bool.or_eq_true] at alphanum
    tauto

/-- A capital in lower case is a small letter. -/
theorem isLower_toLower (upper : c.isUpper = true) : c.toLower.isLower = true := by
  rw [Char.isLower_toLower_eq_isAlpha]
  simp [Char.isAlpha, upper]

/-- The characters of a name are the underscore, the small letters and the digits. -/
theorem isNameChar_iff : isNameChar c = true ↔ c = '_' ∨ c.isLower = true ∨ c.isDigit = true := by
  simp only [isNameChar, Bool.or_eq_true, decide_eq_true_eq]
  exact or_comm

end Characters

/-! ## The scan -/

section Scan

variable {last : Last} {c : Char} (text : List Char)

/-- A capital is written small, behind an underscore if a small letter or digit came before. -/
theorem snakeCase_of_isUpper (upper : c.isUpper = true) :
    snakeCase last (c :: text) =
      (if last = .small then ['_'] else []) ++ c.toLower :: snakeCase .free text := by
  rw [snakeCase, if_pos upper]
  dsimp only
  split
  · rfl
  · rfl

/-- A small letter or digit is written as it is. -/
theorem snakeCase_of_small (small : c.isLower = true ∨ c.isDigit = true) :
    snakeCase last (c :: text) = c :: snakeCase .small text := by
  rw [snakeCase, if_neg (not_isUpper_of_small small), if_pos (isAlphanum_of_small small)]

/-- Any other character is written as an underscore, unless one was just written. -/
theorem snakeCase_of_other (other : c.isAlphanum = false) :
    snakeCase last (c :: text) =
      (if last = .underscore then [] else ['_']) ++ snakeCase .underscore text := by
  have noCapital : ¬c.isUpper = true := by
    intro upper
    simp [Char.isAlphanum, Char.isAlpha, upper] at other
  rw [snakeCase, if_neg noCapital, if_neg (by simp [other])]
  split
  · rfl
  · rfl

end Scan

/-! ## The characters of a name -/

/-- The scan writes characters of names only. -/
theorem isNameChar_of_mem_snakeCase (last : Last) (label : List Char) :
    ∀ c ∈ snakeCase last label, isNameChar c = true := by
  have underscore : isNameChar '_' = true := rfl
  induction label generalizing last with
  | nil => simp [snakeCase]
  | cons d rest ih =>
    rcases upper_or_small_or_other d with upper | small | other
    · have lowered : isNameChar d.toLower = true :=
        isNameChar_iff.mpr (Or.inr (Or.inl (isLower_toLower upper)))
      rw [snakeCase_of_isUpper rest upper]
      split
      · simp only [List.singleton_append, List.forall_mem_cons]
        exact ⟨underscore, lowered, ih .free⟩
      · simp only [List.nil_append, List.forall_mem_cons]
        exact ⟨lowered, ih .free⟩
    · rw [snakeCase_of_small rest small, List.forall_mem_cons]
      exact ⟨isNameChar_iff.mpr (Or.inr small), ih .small⟩
    · rw [snakeCase_of_other rest other]
      split
      · exact ih .underscore
      · rw [List.singleton_append, List.forall_mem_cons]
        exact ⟨underscore, ih .underscore⟩

/-- The guard against a digit at the start adds no other characters than those of names. -/
theorem isNameChar_of_mem_guardDigit {name : List Char}
    (letters : ∀ c ∈ name, isNameChar c = true) :
    ∀ c ∈ guardDigit name, isNameChar c = true := by
  unfold guardDigit
  split
  · simp
  · split
    · intro c member
      rcases List.mem_cons.mp member with rfl | later
      · decide
      · exact letters c later
    · exact letters

/-- The guard against keywords adds no other characters than those of names. -/
theorem isNameChar_of_mem_guardKeyword {name : List Char}
    (letters : ∀ c ∈ name, isNameChar c = true) : ∀ c ∈ guardKeyword name, isNameChar c = true := by
  unfold guardKeyword
  split
  · intro c member
    rcases List.mem_append.mp member with inName | last
    · exact letters c inName
    · rw [List.mem_singleton.mp last]
      decide
  · exact letters

/-- A name made of a label has small letters, digits and underscores only, whatever the label. -/
theorem isNameChar_of_mem_identifier {label : String} :
    ∀ c ∈ (identifier label).toList, isNameChar c = true := by
  unfold identifier identifierChars
  rw [String.toList_ofList]
  split
  · exact List.all_eq_true.mp (by decide)
  · exact isNameChar_of_mem_guardKeyword
      (isNameChar_of_mem_guardDigit (isNameChar_of_mem_snakeCase .free _))

end RobotBlocks.Code
