import Mathlib.Data.List.Nodup
import Mathlib.Data.List.Perm.Basic
import Mathlib.Data.List.TakeDrop
import Mathlib.Data.List.TakeWhile
import RobotBlocks.Proofs.PortEntries
import RobotBlocks.Proofs.RecordReading

/-!
# The spelling of ports

In JSON a port is a key, and each port has one spelling, its decimal digits
(`Ports.portOfKey_eq_ok_iff`). So an object is read as an assignment of ports exactly if it is the
object that is written for the assignment, up to the order of its entries
(`Ports.decoder_object_eq_ok_iff_perm`).
-/

set_option autoImplicit false

namespace RobotBlocks

open Json

/-! ## Decimal numbers -/

namespace Json.Literal

/-- A digit is the one that is written for its value. -/
theorem digitChar_digitValue {digit : Char} (isDigit : digit.isDigit = true) :
    Nat.digitChar (digitValue digit) = digit ∧ digitValue digit < 10 := by
  have range := Char.isDigit_iff_toNat.mp isDigit
  have least : '0'.toNat = 48 := rfl
  have greatest : '9'.toNat = 57 := rfl
  have small : digitValue digit < 10 := by
    unfold digitValue
    omega
  refine ⟨Char.toNat_inj.mp ?_, small⟩
  rw [Nat.toNat_digitChar_of_lt_ten small, digitValue]
  omega

/-- Reading on from a positive number appends the digits to those of the number. -/
theorem toDigits_foldl {digits : List Char} (isDigit : ∀ c ∈ digits, c.isDigit = true) {value : Nat}
    (positive : 0 < value) :
    Nat.toDigits 10 (digits.foldl (fun value digit => 10 * value + digitValue digit) value) =
      Nat.toDigits 10 value ++ digits := by
  induction digits generalizing value with
  | nil => exact (List.append_nil _).symm
  | cons digit rest ih =>
    rw [List.forall_mem_cons] at isDigit
    obtain ⟨same, small⟩ := digitChar_digitValue isDigit.1
    have appended := Nat.toDigits_append_toDigits (by decide : 1 < 10) positive small
    rw [Nat.toDigits_of_lt_base small, same] at appended
    rw [List.foldl_cons, ih isDigit.2 (by omega), ← appended, List.append_assoc]
    rfl

/-- Digits without a leading zero are those of the number that they spell. -/
theorem toDigits_natOfDigits {first : Char} {rest : List Char}
    (isDigit : ∀ c ∈ first :: rest, c.isDigit = true) (nonzero : first ≠ '0') :
    Nat.toDigits 10 (natOfDigits (first :: rest)) = first :: rest := by
  rw [List.forall_mem_cons] at isDigit
  obtain ⟨same, small⟩ := digitChar_digitValue isDigit.1
  have positive : 0 < digitValue first := by
    rw [Nat.pos_iff_ne_zero]
    intro zero
    rw [zero] at same
    exact nonzero same.symm
  have appended := toDigits_foldl isDigit.2 positive
  rw [Nat.toDigits_of_lt_base small, same] at appended
  show Nat.toDigits 10 (rest.foldl _ (10 * 0 + digitValue first)) = first :: rest
  rw [Nat.mul_zero, Nat.zero_add, appended]
  rfl

/-- The decimal digits of a number spell this number. -/
theorem natOfDigits_toDigits (n : Nat) : natOfDigits (Nat.toDigits 10 n) = n := by
  have read : Nat.ofDigitChars 10 (Nat.toDigits 10 n) 0 = n := Nat.ofDigitChars_ten_toDigits
  rw [Nat.ofDigitChars_eq_foldl] at read
  exact read

/-- The decimal digits of a number are digits. -/
theorem isDigit_of_mem_toDigits {n : Nat} {c : Char} (member : c ∈ Nat.toDigits 10 n) :
    c.isDigit = true :=
  Nat.isDigit_of_mem_toDigits (by decide) (Nat.le_refl 10) member

/-- The decimal digits of a positive number do not start with a zero. -/
theorem head?_toDigits_ne_zero {n : Nat} (positive : 0 < n) :
    (Nat.toDigits 10 n).head? ≠ some '0' := by
  induction n using Nat.strongRecOn with
  | ind n ih =>
    by_cases small : n < 10
    · rw [Nat.toDigits_of_lt_base small, List.head?_cons, ne_eq, Option.some.injEq,
        Nat.digitChar_eq_zero]
      omega
    · rw [Nat.toDigits_of_base_le (by decide) (Nat.le_of_not_lt small),
        List.head?_append_of_ne_nil _ Nat.toDigits_ne_nil]
      exact ih (n / 10) (by omega) (by omega)

end Json.Literal

/-! ## One port -/

namespace Ports

open Json.Literal

/-- Digits that spell a number without a leading zero. -/
structure IsDecimal (key : List Char) : Prop where
  nonempty : key ≠ []
  isDigit : ∀ c ∈ key, c.isDigit = true
  noLeadingZero : key.head? = some '0' → key = ['0']

/-- The decimal digits of a number are without a leading zero. -/
theorem isDecimal_toDigits (n : Nat) : IsDecimal (Nat.toDigits 10 n) where
  nonempty := Nat.toDigits_ne_nil
  isDigit _ := isDigit_of_mem_toDigits
  noLeadingZero zero := by
    rcases Nat.eq_zero_or_pos n with rfl | positive
    · rfl
    · exact absurd zero (head?_toDigits_ne_zero positive)

/-- A number is written with the digits that spell it, if they are without a leading zero. -/
theorem IsDecimal.toDigits_eq {key : List Char} (decimal : IsDecimal key) :
    Nat.toDigits 10 (natOfDigits key) = key := by
  obtain ⟨first, rest, rfl⟩ := List.exists_cons_of_ne_nil decimal.nonempty
  by_cases zero : first = '0'
  · rw [decimal.noLeadingZero (by rw [List.head?_cons, zero])]
    rfl
  · exact toDigits_natOfDigits decimal.isDigit zero

/-- Digits without a leading zero are read as a port if the number is small enough. -/
theorem portOfKey_of_isDecimal {key : List Char} (decimal : IsDecimal key)
    (small : natOfDigits key < 256) : portOfKey key = .ok (UInt8.ofNat (natOfDigits key)) := by
  have digits : key.takeWhile Char.isDigit = key := List.takeWhile_eq_self_iff.mpr decimal.isDigit
  have rest : key.dropWhile Char.isDigit = [] := List.dropWhile_eq_nil_iff.mpr decimal.isDigit
  have zero : ¬(key.head? = some '0' ∧ key ≠ ['0']) := fun both =>
    both.2 (decimal.noLeadingZero both.1)
  unfold portOfKey
  split
  · exact absurd rfl decimal.nonempty
  · exact absurd (decimal.isDigit '-' List.mem_cons_self) (by decide)
  · rw [List.span_eq_takeWhile_dropWhile, digits, rest]
    dsimp only
    rw [if_neg decimal.nonempty, if_neg zero, if_neg (Nat.not_le.mpr small)]

/-- Only digits without a leading zero are read as a port, and only of a number that is small
enough. -/
theorem isDecimal_of_portOfKey {key : List Char} {port : UInt8} (read : portOfKey key = .ok port) :
    IsDecimal key ∧ natOfDigits key < 256 := by
  unfold portOfKey at read
  split at read
  · cases read
  · cases read
  rw [List.span_eq_takeWhile_dropWhile] at read
  dsimp only at read
  split at read
  · cases read
  rename_i nonempty
  split at read
  · cases read
  rename_i zero
  split at read
  · cases read
  rename_i small
  split at read
  · rename_i rest
    -- nothing is left behind the digits, so they are the key
    have isDigit := List.dropWhile_eq_nil_iff.mp rest
    rw [List.takeWhile_eq_self_iff.mpr isDigit] at nonempty zero small
    rw [not_and_not_right] at zero
    exact ⟨⟨nonempty, isDigit, zero⟩, Nat.lt_of_not_le small⟩
  · split at read
    · cases read
    · cases read

/-- The key of a port is written in decimal digits. -/
theorem toList_keyOf (port : UInt8) : (keyOf port).toList = Nat.toDigits 10 port.toNat := by
  rw [keyOf, Nat.toString_eq_ofList_toDigits, String.toList_ofList]

/-- A key spells a port if it is the port in decimal digits. -/
theorem portOfKey_eq_ok_iff {key : List Char} {port : UInt8} :
    portOfKey key = .ok port ↔ key = (keyOf port).toList := by
  rw [toList_keyOf]
  constructor
  · intro read
    obtain ⟨decimal, small⟩ := isDecimal_of_portOfKey read
    rw [portOfKey_of_isDecimal decimal small, Except.ok.injEq] at read
    rw [← read, UInt8.toNat_ofNat_of_lt' small, decimal.toDigits_eq]
  · rintro rfl
    have value := natOfDigits_toDigits port.toNat
    have small : natOfDigits (Nat.toDigits 10 port.toNat) < 256 := by
      rw [value]
      exact port.toNat_lt
    rw [portOfKey_of_isDecimal (isDecimal_toDigits port.toNat) small, value, UInt8.ofNat_toNat]

/-! ## Whole assignments -/

/-- An entry as it is written in JSON. -/
def writtenEntry (entry : UInt8 × String) : String × Json :=
  (keyOf entry.1, .text entry.2)

/-- An entry of an object is read as the assignment of a port exactly if it is what is written for
it. -/
theorem entryOfJson_eq_ok_iff {key : String} {found : Json} {entry : UInt8 × String} :
    entryOfJson key found = .ok entry ↔ (key, found) = writtenEntry entry := by
  obtain ⟨port, name⟩ := entry
  have reads : entryOfJson key found = .ok (port, name) ↔
      portOfKey key.toList = .ok port ∧ Decoder.text found = .ok name := by
    unfold entryOfJson
    cases portOfKey key.toList with
    | error fault => simp [bind, Except.bind]
    | ok there => cases Decoder.text found <;> simp [bind, Except.bind]
  have isText : Decoder.text found = .ok name ↔ found = .text name := by
    cases found <;> simp [Decoder.text]
  rw [reads, isText, portOfKey_eq_ok_iff, String.toList_inj, writtenEntry, Prod.mk.injEq]

/-- The entries of an object are read if each of them is written for an entry. -/
theorem entries_eq_value_iff {entries : List (String × Json)} {listed : List (UInt8 × String)} :
    Reading.entries entryOfJson entries = .value listed ↔ entries = listed.map writtenEntry := by
  induction entries generalizing listed with
  | nil => simp [Reading.entries, eq_comm]
  | cons entry rest ih =>
    obtain ⟨key, found⟩ := entry
    have first {port : UInt8 × String} :
        Reading.ofExcept key (entryOfJson key found) = .value port ↔
          (key, found) = writtenEntry port := by
      rw [← entryOfJson_eq_ok_iff]
      cases entryOfJson key found <;> simp [Reading.ofExcept]
    rw [Reading.entries, Reading.both_eq_value_iff]
    constructor
    · rintro ⟨port, ports, here, later, rfl⟩
      rw [List.map_cons, ← first.mp here, ← ih.mp later]
    · intro written
      obtain ⟨port, ports, rfl, here, later⟩ := List.map_eq_cons_iff.mp written.symm
      exact ⟨port, ports, first.mpr here.symm, ih.mpr later.symm, rfl⟩

/-- An object is read as an assignment if its entries are what is written for entries that collect
to it. -/
theorem decoder_object_eq_ok_iff {entries : List (String × Json)} {ports : Ports} :
    decoder (.object entries) = .ok ports ↔
      ∃ listed, entries = listed.map writtenEntry ∧ ofList listed = ports := by
  show ((Reading.entries entryOfJson entries).map ofList).result = .ok ports ↔ _
  simp only [← entries_eq_value_iff]
  cases Reading.entries entryOfJson entries <;> simp [Reading.map, Reading.result]

/-- An assignment is read back from its entries, in whatever order they come. -/
theorem decoder_of_perm {listed : List (UInt8 × String)} {ports : Ports}
    (perm : listed.Perm ports.entries) :
    decoder (.object (listed.map writtenEntry)) = .ok ports :=
  decoder_object_eq_ok_iff.mpr ⟨listed, rfl, ofList_eq_of_perm perm⟩

/-- Entries that are written under different keys assign different ports. -/
theorem nodup_ports_of_written {listed : List (UInt8 × String)}
    (distinct : ((listed.map writtenEntry).map Prod.fst).Nodup) :
    (listed.map Prod.fst).Nodup := by
  rw [List.map_map] at distinct
  have spelled : listed.map (Prod.fst ∘ writtenEntry) = (listed.map Prod.fst).map keyOf := by
    rw [List.map_map]
    rfl
  rw [spelled] at distinct
  exact List.Nodup.of_map keyOf distinct

/-- An object is read as an assignment exactly if it has the entries that are written for the
assignment, in whatever order. -/
theorem decoder_object_eq_ok_iff_perm {entries : List (String × Json)}
    (distinct : (entries.map Prod.fst).Nodup) {ports : Ports} :
    decoder (.object entries) = .ok ports ↔ entries.Perm ports.toJson.entries := by
  constructor
  · intro read
    obtain ⟨listed, rfl, rfl⟩ := decoder_object_eq_ok_iff.mp read
    exact ((perm_entries_ofList (nodup_ports_of_written distinct)).map writtenEntry).symm
  · intro perm
    obtain ⟨listed, rfl, reordered⟩ :=
      (congrFun₂ (List.eq_map_comp_perm writtenEntry) entries ports.entries).mpr perm
    exact decoder_of_perm reordered

end Ports

end RobotBlocks
