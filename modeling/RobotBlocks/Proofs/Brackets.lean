import Mathlib.Data.List.Basic

/-!
# Brackets and line breaks

A text is read from its start with a stack of the brackets that are open, told by the characters
that close them. It is `Balanced` if this ends with no bracket open; brackets count wherever they
stand, between quotes too. The reading of a part does not look at what is open around it
(`nestAll_append_stack`), so a balanced text may stand anywhere and leaves any stack as it was
(`Balanced.nestAll_eq`).

`BreakAt text before after` says that a line of the text ends behind `before`, outside all brackets.
A balanced text in front shifts such a break and hides none (`BreakAt.split`), and between
parentheses there is none (`Balanced.unbroken_enclosed`).

Where a text is not known to be balanced, the number of its brackets may still tell: as many are
open as it has, give or take an even number (`length_nestAll`). So between parentheses there is no
break either if the number of brackets in front of each line break is even
(`EvenLines.unbroken_enclosed`).
-/

set_option autoImplicit false

namespace RobotBlocks.Text

/-- The bracket that closes an opening bracket. -/
def closing? : Char → Option Char
  | '(' => some ')'
  | '[' => some ']'
  | '\x7b' => some '\x7d'
  | _ => none

/-- Whether a character closes a bracket. -/
def isClosing (c : Char) : Bool :=
  decide (c ∈ [')', ']', '\x7d'])

/-- Whether a character is a bracket. -/
def isBracket (c : Char) : Bool :=
  decide (c ∈ ['(', '[', '\x7b', ')', ']', '\x7d'])

/-- The open brackets after one more character, the innermost first. There are none if it closes
another bracket than the innermost. -/
def nest (stack : List Char) (c : Char) : Option (List Char) :=
  match closing? c with
  | some closing => some (closing :: stack)
  | none =>
    if isClosing c then
      match stack with
      | [] => none
      | innermost :: outer => if innermost = c then some outer else none
    else some stack

/-- The open brackets after a text. -/
def nestAll (stack text : List Char) : Option (List Char) :=
  text.foldlM nest stack

/-- Every bracket of the text is closed, the innermost first, and none is closed that is not
open. -/
def Balanced (text : String) : Prop :=
  nestAll [] text.toList = some []

instance (text : String) : Decidable (Balanced text) :=
  inferInstanceAs (Decidable (nestAll [] text.toList = some []))

/-- The text has neither brackets nor line breaks. -/
def Plain (text : String) : Prop :=
  ∀ c ∈ text.toList, isBracket c = false ∧ c ≠ '\n'

instance (text : String) : Decidable (Plain text) :=
  List.decidableBAll (fun c => isBracket c = false ∧ c ≠ '\n') text.toList

/-- The text is balanced and stands on one line. -/
structure Inline (text : String) : Prop where
  balanced : Balanced text
  onOneLine : '\n' ∉ text.toList

/-- A line of the text ends behind `before`, outside all brackets. -/
def BreakAt (text before after : String) : Prop :=
  text = before ++ "\n" ++ after ∧ Balanced before

/-- No line of the text ends outside all brackets. -/
def Unbroken (text : String) : Prop :=
  ∀ before after, ¬BreakAt text before after

/-! ## Reading -/

/-- Nothing is opened or closed by the empty text. -/
theorem nestAll_nil (stack : List Char) : nestAll stack [] = some stack := rfl

/-- A text is read one character after the other. -/
theorem nestAll_cons (stack : List Char) (c : Char) (text : List Char) :
    nestAll stack (c :: text) = (nest stack c).bind fun after => nestAll after text := rfl

/-- The back of a text is read with what its front leaves open. -/
theorem nestAll_append (stack front back : List Char) :
    nestAll stack (front ++ back) = (nestAll stack front).bind fun after => nestAll after back :=
  List.foldlM_append

/-- A bracket is what opens or closes. -/
theorem isBracket_eq (c : Char) : isBracket c = ((closing? c).isSome || isClosing c) := by
  unfold closing?
  split
  · rfl
  · rfl
  · rfl
  · rename_i round square curly
    have other : c ≠ '(' ∧ c ≠ '[' ∧ c ≠ '\x7b' := ⟨round, square, curly⟩
    simp [isBracket, isClosing, other]

/-- A character that is no bracket leaves open what is open. -/
theorem nest_of_not_bracket {c : Char} (other : isBracket c = false) (stack : List Char) :
    nest stack c = some stack := by
  rw [isBracket_eq, Bool.or_eq_false_iff, Option.isSome_eq_false_iff, Option.isNone_iff_eq_none]
    at other
  simp [nest, other.1, other.2]

/-- What is open around a text stays open while a character of it is read. -/
theorem nest_append_stack {stack after : List Char} {c : Char} (read : nest stack c = some after)
    (around : List Char) : nest (stack ++ around) c = some (after ++ around) := by
  unfold nest at read ⊢
  cases opened : closing? c with
  | some closing =>
    simp only [opened, Option.some.injEq] at read
    simp [← read]
  | none =>
    simp only [opened] at read ⊢
    by_cases closes : isClosing c = true
    · rw [if_pos closes] at read ⊢
      cases stack with
      | nil => simp at read
      | cons innermost outer =>
        by_cases matched : innermost = c
        · simp only [if_pos matched, Option.some.injEq] at read
          simp [matched, read]
        · simp [matched] at read
    · rw [if_neg closes] at read ⊢
      simp [← Option.some.inj read]

/-- What is open around a text stays open while the text is read. -/
theorem nestAll_append_stack {stack after text : List Char} (read : nestAll stack text = some after)
    (around : List Char) : nestAll (stack ++ around) text = some (after ++ around) := by
  induction text generalizing stack with
  | nil =>
    rw [nestAll_nil, Option.some.injEq] at read
    rw [nestAll_nil, read]
  | cons c rest ih =>
    rw [nestAll_cons, Option.bind_eq_some_iff] at read
    obtain ⟨next, here, later⟩ := read
    rw [nestAll_cons, nest_append_stack here around]
    exact ih later

/-! ## Balanced texts -/

/-- A balanced text leaves open just what is open around it. -/
theorem Balanced.nestAll_eq {text : String} (balanced : Balanced text) (stack : List Char) :
    nestAll stack text.toList = some stack :=
  nestAll_append_stack balanced stack

/-- Balanced texts one behind the other are balanced. -/
theorem Balanced.append {front back : String} (first : Balanced front) (second : Balanced back) :
    Balanced (front ++ back) := by
  unfold Balanced at first
  unfold Balanced
  rw [String.toList_append, nestAll_append, first]
  exact second

/-- A text without brackets is balanced. -/
theorem balanced_of_no_bracket {text : String} (other : ∀ c ∈ text.toList, isBracket c = false) :
    Balanced text := by
  unfold Balanced
  generalize text.toList = chars at other
  induction chars with
  | nil => rfl
  | cons c rest ih =>
    rw [nestAll_cons, nest_of_not_bracket (other c List.mem_cons_self)]
    exact ih fun d member => other d (List.mem_cons_of_mem c member)

/-- Balanced parts with a balanced separator between them are balanced. -/
theorem Balanced.intercalate {separator : String} (between : Balanced separator)
    {parts : List String} (each : ∀ part ∈ parts, Balanced part) :
    Balanced (separator.intercalate parts) := by
  induction parts with
  | nil => rfl
  | cons part rest ih =>
    have first := each part List.mem_cons_self
    have others := ih fun other member => each other (List.mem_cons_of_mem part member)
    cases rest with
    | nil => simpa using first
    | cons next more =>
      rw [String.intercalate_cons_cons]
      exact (first.append between).append others

/-- A balanced text may stand between any two texts of which the one closes what the other opens. -/
theorem Balanced.between {text : String} (balanced : Balanced text) {front back : String}
    {stack : List Char} (opens : nestAll [] front.toList = some stack)
    (closes : nestAll stack back.toList = some []) : Balanced (front ++ text ++ back) := by
  unfold Balanced
  rw [String.toList_append, String.toList_append, nestAll_append, nestAll_append, opens,
    Option.bind_some, balanced.nestAll_eq, Option.bind_some, closes]

/-- A balanced text between parentheses is balanced. -/
theorem Balanced.enclosed {text : String} (balanced : Balanced text) :
    Balanced ("(" ++ text ++ ")") :=
  balanced.between (by rfl) (by rfl)

/-- What stands before a place in a balanced text can be read. -/
theorem Balanced.exists_nestAll {text : String} (balanced : Balanced text) {front back : List Char}
    (parts : text.toList = front ++ back) : ∃ stack, nestAll [] front = some stack := by
  unfold Balanced at balanced
  rw [parts, nestAll_append, Option.bind_eq_some_iff] at balanced
  obtain ⟨stack, read, -⟩ := balanced
  exact ⟨stack, read⟩

/-! ## Texts on one line -/

/-- A plain text is balanced and stands on one line, for it has no bracket and no line break. -/
theorem Plain.inline {text : String} (plain : Plain text) : Inline text where
  balanced := balanced_of_no_bracket fun c member => (plain c member).1
  onOneLine := fun member => (plain '\n' member).2 rfl

/-- Inline texts one behind the other are inline. -/
theorem Inline.append {front back : String} (first : Inline front) (second : Inline back) :
    Inline (front ++ back) where
  balanced := first.balanced.append second.balanced
  onOneLine := by
    rw [String.toList_append, List.mem_append]
    rintro (member | member)
    · exact first.onOneLine member
    · exact second.onOneLine member

/-- An inline text may stand on one line between texts of which the one closes what the other opens.
-/
theorem Inline.between {text : String} (inline : Inline text) {front back : String}
    {stack : List Char} (opens : nestAll [] front.toList = some stack)
    (closes : nestAll stack back.toList = some []) (frontOnOneLine : '\n' ∉ front.toList)
    (backOnOneLine : '\n' ∉ back.toList) : Inline (front ++ text ++ back) where
  balanced := inline.balanced.between opens closes
  onOneLine := by
    rw [String.toList_append, String.toList_append, List.mem_append, List.mem_append]
    rintro ((member | member) | member)
    · exact frontOnOneLine member
    · exact inline.onOneLine member
    · exact backOnOneLine member

/-- Inline parts with an inline separator between them are inline. -/
theorem Inline.intercalate {separator : String} (between : Inline separator) {parts : List String}
    (each : ∀ part ∈ parts, Inline part) : Inline (separator.intercalate parts) := by
  induction parts with
  | nil => exact ⟨rfl, by simp⟩
  | cons part rest ih =>
    have first := each part List.mem_cons_self
    have others := ih fun other member => each other (List.mem_cons_of_mem part member)
    cases rest with
    | nil => simpa using first
    | cons next more =>
      rw [String.intercalate_cons_cons]
      exact (first.append between).append others

/-! ## Line breaks -/

/-- An inline text has no line break, so that no line of it ends. -/
theorem Inline.unbroken {text : String} (inline : Inline text) : Unbroken text := by
  rintro before after ⟨rfl, -⟩
  apply inline.onOneLine
  simp

/-- A break in a text that follows a balanced one is a break of the one or of the other. -/
theorem BreakAt.split {front back before after : String}
    (found : BreakAt (front ++ back) before after) (balanced : Balanced front) :
    (∃ rest, BreakAt front before rest) ∨
      ∃ start, before = front ++ start ∧ BreakAt back start after := by
  obtain ⟨parts, outside⟩ := found
  have parts : front.toList ++ back.toList = before.toList ++ '\n' :: after.toList := by
    rw [← String.toList_append, parts]
    simp
  -- Either the front ends before the break, or the break is the first of what is left of the front,
  -- unless nothing is left of it.
  rcases List.append_eq_append_iff.mp parts with
    ⟨middle, beforeEq, backEq⟩ | ⟨middle, frontEq, restEq⟩
  · right
    refine ⟨String.ofList middle, ?_, ?_, ?_⟩
    · apply String.toList_inj.mp
      simpa using beforeEq
    · apply String.toList_inj.mp
      simpa using backEq
    · unfold Balanced at outside balanced ⊢
      rw [beforeEq, nestAll_append, balanced] at outside
      simpa using outside
  · cases middle with
    | nil =>
      right
      refine ⟨"", ?_, ?_, by rfl⟩
      · apply String.toList_inj.mp
        simpa using frontEq.symm
      · apply String.toList_inj.mp
        simpa using restEq.symm
    | cons c more =>
      obtain ⟨rfl, -⟩ : '\n' = c ∧ after.toList = more ++ back.toList := by simpa using restEq
      left
      refine ⟨String.ofList more, ?_, outside⟩
      apply String.toList_inj.mp
      simpa using frontEq

/-- If no line of a balanced text ends outside its brackets and none of a text behind it does, then
no line of the two together does. -/
theorem Unbroken.append {front back : String} (first : Unbroken front) (balanced : Balanced front)
    (second : Unbroken back) : Unbroken (front ++ back) := by
  intro before after found
  rcases found.split balanced with ⟨rest, inFront⟩ | ⟨start, -, inBack⟩
  · exact first before rest inFront
  · exact second start after inBack

/-- What stands behind a balanced text keeps its breaks, so that it has none if the whole has none.
-/
theorem Unbroken.of_append {front back : String} (unbroken : Unbroken (front ++ back))
    (balanced : Balanced front) : Unbroken back := by
  rintro before after ⟨rfl, outside⟩
  apply unbroken (front ++ before) after
  refine ⟨?_, balanced.append outside⟩
  simp only [String.append_assoc]

/-- A line break on its own is a break with nothing before it and nothing after it. -/
theorem breakAt_lineEnd {before after : String} (found : BreakAt "\n" before after) :
    before = "" ∧ after = "" := by
  have parts : ['\n'] = before.toList ++ '\n' :: after.toList := by
    have same := congrArg String.toList found.1
    simpa using same
  have lengths := congrArg List.length parts
  simp only [List.length_append, List.length_cons, List.length_nil] at lengths
  constructor
  · apply String.toList_inj.mp
    exact List.eq_nil_of_length_eq_zero (by omega)
  · apply String.toList_inj.mp
    exact List.eq_nil_of_length_eq_zero (by omega)

/-- A line of a text between parentheses ends behind the opening one and within the text. -/
theorem BreakAt.enclosed {text before after : String}
    (found : BreakAt ("(" ++ text ++ ")") before after) :
    ∃ front back, before.toList = '(' :: front ∧ text.toList = front ++ '\n' :: back := by
  have parts : '(' :: (text.toList ++ [')']) = before.toList ++ '\n' :: after.toList := by
    have same := congrArg String.toList found.1
    simpa using same
  cases start : before.toList with
  | nil => simp [start] at parts
  | cons first front =>
    rw [start, List.cons_append, List.cons.injEq] at parts
    obtain ⟨rfl, parts⟩ := parts
    rcases List.append_eq_append_iff.mp parts with ⟨middle, -, tail⟩ | ⟨middle, textEq, rest⟩
    · have inTail : '\n' ∈ [')'] := by
        rw [tail]
        simp
      exact absurd inTail (by decide)
    · cases middle with
      | nil => simp at rest
      | cons c back =>
        rw [List.cons_append, List.cons.injEq] at rest
        rw [← rest.1] at textEq
        exact ⟨front, back, rfl, textEq⟩

/-- Lines that end between parentheses do not end outside all brackets. -/
theorem Balanced.unbroken_enclosed {text : String} (balanced : Balanced text) :
    Unbroken ("(" ++ text ++ ")") := by
  intro before after found
  obtain ⟨front, back, start, textEq⟩ := found.enclosed
  obtain ⟨stack, read⟩ := balanced.exists_nestAll textEq
  -- The parenthesis in front is still open at the break.
  have around := nestAll_append_stack read [')']
  have outside := found.2
  unfold Balanced at outside
  rw [start, nestAll_cons] at outside
  rw [List.nil_append] at around
  simp [nest, closing?, around] at outside

/-! ## Counting brackets -/

/-- A bracket changes the number of open ones by one, any other character not at all. -/
theorem length_nest {stack after : List Char} {c : Char} (read : nest stack c = some after) :
    after.length % 2 = (stack.length + if isBracket c then 1 else 0) % 2 := by
  rw [isBracket_eq]
  unfold nest at read
  cases opened : closing? c with
  | some closing =>
    simp only [opened, Option.some.injEq] at read
    simp [← read]
  | none =>
    simp only [opened] at read
    by_cases closes : isClosing c = true
    · rw [if_pos closes] at read
      cases stack with
      | nil => simp at read
      | cons innermost outer =>
        by_cases matched : innermost = c
        · simp only [if_pos matched, Option.some.injEq] at read
          simp only [← read, closes, Option.isSome_none, Bool.or_true, if_true, List.length_cons]
          omega
        · simp [matched] at read
    · rw [if_neg closes, Option.some.injEq] at read
      simp [read, closes]

/-- The number of open brackets after a text is even or odd as the number of brackets in it says. -/
theorem length_nestAll {stack after text : List Char} (read : nestAll stack text = some after) :
    after.length % 2 = (stack.length + text.countP isBracket) % 2 := by
  induction text generalizing stack with
  | nil =>
    rw [nestAll_nil, Option.some.injEq] at read
    simp [read]
  | cons c rest ih =>
    rw [nestAll_cons, Option.bind_eq_some_iff] at read
    obtain ⟨next, here, later⟩ := read
    have first := length_nest here
    have others := ih later
    rw [List.countP_cons]
    omega

/-- The text has an even number of brackets, and so has what is in front of each of its line
breaks. -/
structure EvenLines (text : String) : Prop where
  even : text.toList.countP isBracket % 2 = 0
  atBreaks : ∀ front back, text.toList = front ++ '\n' :: back → front.countP isBracket % 2 = 0

/-- A balanced text has an even number of brackets. -/
theorem Balanced.even {text : String} (balanced : Balanced text) :
    text.toList.countP isBracket % 2 = 0 := by
  have length := length_nestAll balanced
  simpa using length.symm

/-- A text on one line has even lines if the number of its brackets is even. -/
theorem EvenLines.of_onOneLine {text : String} (even : text.toList.countP isBracket % 2 = 0)
    (onOneLine : '\n' ∉ text.toList) : EvenLines text where
  even := even
  atBreaks := by
    intro front back parts
    exact absurd (by simp [parts]) onOneLine

/-- A text without brackets has even lines. -/
theorem EvenLines.of_no_bracket {text : String} (other : ∀ c ∈ text.toList, isBracket c = false) :
    EvenLines text where
  even := (balanced_of_no_bracket other).even
  atBreaks := by
    intro front back parts
    rw [List.countP_eq_zero.mpr]
    intro c member
    simp [other c (by simp [parts, member])]

/-- Texts with even lines, one behind the other, have even lines. -/
theorem EvenLines.append {first second : String} (before : EvenLines first)
    (after : EvenLines second) : EvenLines (first ++ second) where
  even := by
    have one := before.even
    have two := after.even
    rw [String.toList_append, List.countP_append]
    omega
  atBreaks := by
    intro front back parts
    rw [String.toList_append] at parts
    rcases List.append_eq_append_iff.mp parts with ⟨middle, rfl, later⟩ | ⟨middle, same, later⟩
    · have one := before.even
      have two := after.atBreaks middle back later
      rw [List.countP_append]
      omega
    · cases middle with
      | nil =>
        have one := before.even
        simp at same
        rw [← same]
        exact one
      | cons c more =>
        rw [List.cons_append, List.cons.injEq] at later
        rw [← later.1] at same
        exact before.atBreaks front more same

/-- Parts with even lines and such a separator between them have even lines. -/
theorem EvenLines.intercalate {separator : String} (between : EvenLines separator)
    {parts : List String} (each : ∀ part ∈ parts, EvenLines part) :
    EvenLines (separator.intercalate parts) := by
  induction parts with
  | nil => exact .of_onOneLine rfl (by simp)
  | cons part rest ih =>
    have first := each part List.mem_cons_self
    have others := ih fun other member => each other (List.mem_cons_of_mem part member)
    cases rest with
    | nil => simpa using first
    | cons next more =>
      rw [String.intercalate_cons_cons]
      exact (first.append between).append others

/-- Between parentheses, where the number of brackets in front of a line break is odd, no line ends
outside all brackets. -/
theorem EvenLines.unbroken_enclosed {text : String} (evenLines : EvenLines text) :
    Unbroken ("(" ++ text ++ ")") := by
  intro before after found
  obtain ⟨front, back, start, textEq⟩ := found.enclosed
  have inside := evenLines.atBreaks front back textEq
  have outside := found.2.even
  have opening : isBracket '(' = true := rfl
  rw [start, List.countP_cons, if_pos opening] at outside
  omega

end RobotBlocks.Text
