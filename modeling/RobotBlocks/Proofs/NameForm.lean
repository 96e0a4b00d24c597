import Mathlib.Data.List.Chain
import RobotBlocks.Proofs.NameCharacters

/-!
# The form of names

The names that are made of labels are told by their form alone: small letters, digits and single
underscores, no digit at the start, and no keyword. Every label gives a name of this form
(`isName_identifier`), and a label of this form is its own name (`identifier_eq_self`). So the names
are exactly the texts of this form, and to make a name twice is to make it once
(`identifier_is_retraction`).

What carries the first part is an invariant of the scan: only behind an underscore is the scan in
the state that drops the next one (`isChain_snakeCase`). The scan of a name then copies it
(`snakeCase_eq_self`), and the guards at its ends have nothing to do.
-/

set_option autoImplicit false

namespace RobotBlocks.Code

/-- One character may stand before another in a name: they are not both underscores. -/
def MayPrecede (a b : Char) : Prop :=
  a = '_' → b ≠ '_'

/-- The form of a name made of a label. -/
structure IsName (name : String) : Prop where
  nonempty : name ≠ ""
  characters : ∀ c ∈ name.toList, isNameChar c = true
  first : ∀ c ∈ name.toList.head?, c.isDigit = false
  single : ¬['_', '_'] <:+: name.toList
  noKeyword : name ∉ keywords

/-- Each character may stand before the next one exactly if no two underscores follow each other. -/
theorem isChain_mayPrecede_iff {chars : List Char} :
    chars.IsChain MayPrecede ↔ ¬['_', '_'] <:+: chars := by
  rw [List.isChain_iff_forall_rel_of_append_cons_cons]
  constructor
  · rintro chain ⟨front, back, rfl⟩
    have pair : front ++ ['_', '_'] ++ back = front ++ '_' :: '_' :: back := by simp
    exact chain pair rfl rfl
  · rintro single a b front back rfl rfl rfl
    apply single
    exact ⟨front, back, by simp⟩

/-! ## White space -/

section Characters

variable {c : Char}

/-- A letter or digit is no white space. -/
theorem isBlank_of_isAlphanum (alphanum : c.isAlphanum = true) : Text.isBlank c = false := by
  simp only [Char.isAlphanum, Char.isAlpha, Bool.or_eq_true, isUpper_iff, isLower_iff,
    isDigit_iff] at alphanum
  simp only [Text.isBlank, Text.blankRanges, List.any_eq_false, List.mem_cons, List.not_mem_nil,
    or_false, decide_eq_true_eq]
  rintro range (rfl | rfl | rfl | rfl | rfl | rfl | rfl | rfl | rfl | rfl)
  all_goals
    dsimp only
    omega

/-- A character of a name is no white space. -/
theorem isBlank_of_isNameChar (letter : isNameChar c = true) : Text.isBlank c = false := by
  rcases isNameChar_iff.mp letter with rfl | small
  · rfl
  · exact isBlank_of_isAlphanum (isAlphanum_of_small small)

end Characters

/-! ## The scan -/

/-- No two underscores follow each other in what the scan writes behind a character `c`, if the scan
knows when `c` is an underscore. -/
theorem isChain_snakeCase {last : Last} {c : Char} (known : c = '_' → last = .underscore)
    (label : List Char) : (c :: snakeCase last label).IsChain MayPrecede := by
  induction label generalizing last c with
  | nil => simp [snakeCase]
  | cons d rest ih =>
    rcases upper_or_small_or_other d with upper | small | other
    · have lowered : d.toLower ≠ '_' := by
        intro same
        have lower := isLower_toLower upper
        rw [same] at lower
        exact absurd lower (by decide)
      have behind : (d.toLower :: snakeCase .free rest).IsChain MayPrecede :=
        ih fun same => absurd same lowered
      rw [snakeCase_of_isUpper rest upper]
      split
      · rename_i afterSmall
        -- The new word begins behind a letter or digit, so its underscore is single.
        refine .cons_cons ?_ (.cons_cons (fun _ => lowered) behind)
        intro same
        rw [afterSmall] at known
        exact absurd (known same) (by decide)
      · exact .cons_cons (fun _ => lowered) behind
    · have letter : d ≠ '_' := by
        rintro rfl
        exact absurd small (by decide)
      rw [snakeCase_of_small rest small]
      exact .cons_cons (fun _ => letter) (ih fun same => absurd same letter)
    · rw [snakeCase_of_other rest other]
      split
      · exact ih fun _ => rfl
      · rename_i elsewhere
        exact .cons_cons (fun same => absurd (known same) elsewhere) (ih fun _ => rfl)

/-- The scan copies small letters, digits and single underscores. -/
theorem snakeCase_eq_self {last : Last} {c : Char} (known : last = .underscore → c = '_')
    {name : List Char} (letters : ∀ d ∈ name, isNameChar d = true)
    (single : (c :: name).IsChain MayPrecede) : snakeCase last name = name := by
  induction name generalizing last c with
  | nil => rfl
  | cons d rest ih =>
    rw [List.forall_mem_cons] at letters
    obtain ⟨apart, single⟩ := List.isChain_cons_cons.mp single
    rcases isNameChar_iff.mp letters.1 with rfl | small
    · have elsewhere : last ≠ .underscore := fun same => apart (known same) rfl
      rw [snakeCase_of_other rest rfl, if_neg elsewhere, ih (fun _ => rfl) letters.2 single]
      rfl
    · have next : Last.small = .underscore → d = '_' := fun same => absurd same (by decide)
      rw [snakeCase_of_small rest small, ih next letters.2 single]

/-! ## The guards -/

/-- No keyword ends with an underscore. -/
theorem getLast?_keyword : ∀ word ∈ keywords, word.toList.getLast? ≠ some '_' := by
  decide

/-- A guarded name does not start with a digit. -/
theorem head?_guardDigit (name : List Char) : ∀ c ∈ (guardDigit name).head?, c.isDigit = false := by
  unfold guardDigit
  split
  · simp
  · split
    · simp
    · rename_i other
      simpa using other

/-- The guard against a digit leaves no name empty that was not. -/
theorem guardDigit_ne_nil {name : List Char} (nonempty : name ≠ []) : guardDigit name ≠ [] := by
  unfold guardDigit
  split
  · exact absurd rfl nonempty
  · split
    · simp
    · simp

/-- The guard against a digit puts no two underscores behind each other. -/
theorem isChain_guardDigit {name : List Char} (single : name.IsChain MayPrecede) :
    (guardDigit name).IsChain MayPrecede := by
  unfold guardDigit
  split
  · exact single
  · split
    · rename_i digit
      refine .cons_cons ?_ single
      rintro - rfl
      exact absurd digit (by decide)
    · exact single

/-- A name that has the form but for being a keyword has it with the guard against keywords. -/
theorem isName_guardKeyword {name : List Char} (nonempty : name ≠ [])
    (letters : ∀ c ∈ name, isNameChar c = true) (first : ∀ c ∈ name.head?, c.isDigit = false)
    (single : name.IsChain MayPrecede) : IsName (String.ofList (guardKeyword name)) := by
  have lettersToo := isNameChar_of_mem_guardKeyword letters
  unfold guardKeyword at lettersToo ⊢
  split
  · rename_i keyword
    rw [if_pos keyword] at lettersToo
    have last : name.getLast? ≠ some '_' := by
      simpa using getLast?_keyword _ keyword
    have chain : (name ++ ['_']).IsChain MayPrecede := by
      refine List.isChain_append.mpr ⟨single, .singleton _, ?_⟩
      rintro c atEnd d - rfl
      exact absurd atEnd last
    refine ⟨?_, ?_, ?_, ?_, ?_⟩
    · simp
    · simpa using lettersToo
    · obtain ⟨c, rest, rfl⟩ := List.exists_cons_of_ne_nil nonempty
      simpa using first
    · simpa using isChain_mayPrecede_iff.mp chain
    · intro again
      exact getLast?_keyword _ again (by simp)
  · rename_i other
    refine ⟨?_, ?_, ?_, ?_, other⟩
    · simpa using nonempty
    · simpa using letters
    · simpa using first
    · simpa using isChain_mayPrecede_iff.mp single

/-! ## Names of labels -/

/-- What the scan writes has the form of a name with both guards, if it is not empty. -/
theorem isName_guarded {label : List Char} (nonempty : snakeCase .free label ≠ []) :
    IsName (String.ofList (guardKeyword (guardDigit (snakeCase .free label)))) := by
  have letters := isNameChar_of_mem_snakeCase .free label
  have single : ('a' :: snakeCase .free label).IsChain MayPrecede :=
    isChain_snakeCase (fun same => absurd same (by decide)) label
  exact isName_guardKeyword (guardDigit_ne_nil nonempty) (isNameChar_of_mem_guardDigit letters)
    (head?_guardDigit _) (isChain_guardDigit single.of_cons)

/-- The name made of a label has the form of a name. -/
theorem isName_identifier (label : String) : IsName (identifier label) := by
  unfold identifier identifierChars
  split
  · have guarded : unnamed = guardKeyword (guardDigit (snakeCase .free unnamed)) := by decide
    rw [guarded]
    exact isName_guarded (by decide)
  · rename_i nonempty
    exact isName_guarded nonempty

/-- Nothing is put before a name that does not start with a digit. -/
theorem guardDigit_eq_self {name : List Char} (first : ∀ c ∈ name.head?, c.isDigit = false) :
    guardDigit name = name := by
  unfold guardDigit
  split
  · rfl
  · rename_i c rest
    have letter : c.isDigit = false := first c rfl
    exact if_neg (by simp [letter])

/-- A text that has the form of a name is the name made of it. -/
theorem identifier_eq_self {name : String} (form : IsName name) : identifier name = name := by
  have nonempty : name.toList ≠ [] := by
    simpa using form.nonempty
  have visible : ∀ c ∈ name.toList, Text.isBlank c = false :=
    fun c member => isBlank_of_isNameChar (form.characters c member)
  have trimmed : Text.trim name.toList = name.toList := Text.trim_eq_self visible
  have single : ('a' :: name.toList).IsChain MayPrecede := by
    obtain ⟨c, rest, chars⟩ := List.exists_cons_of_ne_nil nonempty
    have chain := isChain_mayPrecede_iff.mpr form.single
    rw [chars] at chain ⊢
    exact .cons_cons (fun same => absurd same (by decide)) chain
  have copied : snakeCase .free name.toList = name.toList :=
    snakeCase_eq_self (fun same => absurd same (by decide)) form.characters single
  have noKeyword : guardKeyword name.toList = name.toList := by
    refine if_neg ?_
    rw [String.ofList_toList]
    exact form.noKeyword
  unfold identifier identifierChars
  rw [trimmed, copied]
  split
  · rename_i empty
    exact absurd empty nonempty
  · rw [guardDigit_eq_self form.first, noKeyword, String.ofList_toList]

/-- The making of names is a retraction onto the texts that have the form of a name. Whatever the
label, its name is not empty, has small letters, digits and underscores only, no digit at the start
and no two underscores in a row, and is no keyword. The name of a name is the name itself. A text is
the name of some label exactly when it has this form, which is when it is its own name. -/
theorem identifier_is_retraction (text : String) :
    IsName (identifier text) ∧ identifier (identifier text) = identifier text ∧
      ((∃ label, identifier label = text) ↔ IsName text) ∧
      (IsName text ↔ identifier text = text) := by
  have form := isName_identifier
  refine ⟨form text, identifier_eq_self (form text), ⟨?_, ?_⟩, ⟨identifier_eq_self, ?_⟩⟩
  · rintro ⟨label, rfl⟩
    exact form label
  · intro named
    exact ⟨text, identifier_eq_self named⟩
  · intro same
    rw [← same]
    exact form text

end RobotBlocks.Code
