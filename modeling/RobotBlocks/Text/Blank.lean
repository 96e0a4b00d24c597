/-!
# White space

The characters with the White_Space property of Unicode, and the removal of white space from
both ends of a text. `isBlank_of_isWhitespace` places the four characters that the core library
calls white space among them, and `trim_surrounded` says what the removal leaves.
-/

set_option autoImplicit false

namespace RobotBlocks.Text

/-- The code points with the White_Space property, as closed intervals in ascending order. -/
def blankRanges : List (Nat × Nat) :=
  [(0x9, 0xD), (0x20, 0x20), (0x85, 0x85), (0xA0, 0xA0), (0x1680, 0x1680), (0x2000, 0x200A),
    (0x2028, 0x2029), (0x202F, 0x202F), (0x205F, 0x205F), (0x3000, 0x3000)]

/-- Whether `c` is white space. -/
def isBlank (c : Char) : Bool :=
  blankRanges.any fun (first, last) => decide (first ≤ c.toNat ∧ c.toNat ≤ last)

/-- The text without the white space at its start. -/
def trimStart (text : List Char) : List Char :=
  text.dropWhile isBlank

/-- The text without the white space at its end. -/
def trimEnd (text : List Char) : List Char :=
  (text.reverse.dropWhile isBlank).reverse

/-- The text without the white space at either end. -/
def trim (text : List Char) : List Char :=
  trimEnd (trimStart text)

/-- What the core library takes for white space is white space here. -/
theorem isBlank_of_isWhitespace (c : Char) (white : c.isWhitespace = true) :
    isBlank c = true := by
  have cases : ((c = ' ' ∨ c = '\t') ∨ c = '\r') ∨ c = '\n' := by
    simpa [Char.isWhitespace] using white
  rcases cases with ((rfl | rfl) | rfl) | rfl <;> decide

/-- White space in front of a text that does not start with any is all that is dropped. -/
theorem dropWhile_isBlank_append {before text : List Char}
    (blank : ∀ c ∈ before, isBlank c = true) (first : ∀ c ∈ text.head?, isBlank c = false) :
    (before ++ text).dropWhile isBlank = text := by
  rw [List.dropWhile_append_of_pos blank]
  cases text with
  | nil => rfl
  | cons c rest =>
    have shown : isBlank c = false := first c rfl
    exact List.dropWhile_cons_of_neg (by simp [shown])

/-- White space around a text is removed, and nothing of the text if it begins and ends with other
characters. -/
theorem trim_surrounded {before text after : List Char}
    (blankBefore : ∀ c ∈ before, isBlank c = true) (blankAfter : ∀ c ∈ after, isBlank c = true)
    (nonempty : text ≠ []) (first : ∀ c ∈ text.head?, isBlank c = false)
    (last : ∀ c ∈ text.getLast?, isBlank c = false) : trim (before ++ (text ++ after)) = text := by
  have start : trimStart (before ++ (text ++ after)) = text ++ after := by
    apply dropWhile_isBlank_append blankBefore
    obtain ⟨c, rest, rfl⟩ := List.exists_cons_of_ne_nil nonempty
    exact first
  have reversed : (after.reverse ++ text.reverse).dropWhile isBlank = text.reverse := by
    apply dropWhile_isBlank_append
    · intro c member
      exact blankAfter c (List.mem_reverse.mp member)
    · rw [List.head?_reverse]
      exact last
  unfold trim trimEnd
  rw [start, List.reverse_append, reversed, List.reverse_reverse]

/-- A text without white space is not trimmed. -/
theorem trim_eq_self {text : List Char} (visible : ∀ c ∈ text, isBlank c = false) :
    trim text = text := by
  have kept : ∀ chars : List Char, (∀ c ∈ chars, isBlank c = false) →
      chars.dropWhile isBlank = chars := by
    intro chars visible
    exact dropWhile_isBlank_append (List.forall_mem_nil _) fun c first =>
      visible c (List.mem_of_head? first)
  unfold trim trimEnd trimStart
  rw [kept text visible, kept text.reverse (fun c member => visible c (List.mem_reverse.mp member)),
    List.reverse_reverse]

end RobotBlocks.Text
