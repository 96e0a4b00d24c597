import Mathlib.Data.List.Basic
import RobotBlocks.Json.Record

/-!
# What a field of an object reads

A field looks under its name and under its second spelling. `Field.Reads` says what it reads without
reference to an order: nothing stands under either and the field has a value for this, or something
stands under just one of them. `Field.ofObject_eq_value_iff` is the one lemma about the reader
itself; all others are about `Reads`, which is kept when keys are added that the field does not look
under (`Reads.of_same`), when its own keys are renamed among themselves (`Reads.rename`), and when
`null` is put where nothing stood, if it counts as nothing (`Reads.insert_null`).
-/

set_option autoImplicit false

namespace RobotBlocks.Json

section Readings

variable {α β γ : Type}

/-- Two readings joined give a value exactly if each of them does. -/
theorem Reading.both_eq_value_iff {f : α → β → γ} {first : Reading α} {second : Reading β} {c : γ} :
    Reading.both f first second = .value c ↔
      ∃ a b, first = .value a ∧ second = .value b ∧ f a b = c := by
  cases first with
  | value a => cases second <;> simp [Reading.both, Reading.map]
  | faulty key fault =>
    cases second with
    | value b => simp [Reading.both]
    | lacking name => simp [Reading.both]
    | faulty key' fault' =>
      by_cases lesser : key' < key
      · simp [Reading.both, lesser]
      · simp [Reading.both, lesser]
  | lacking name => cases second <;> simp [Reading.both]

/-- Reading succeeds with a value exactly if it comes to this value. -/
theorem Reading.result_eq_ok_iff {reading : Reading α} {a : α} :
    reading.result = .ok a ↔ reading = .value a := by
  cases reading <;> simp [Reading.result]

/-- A record is read from an object exactly if its fields are read from the entries. -/
theorem Fields.decoder_object_eq_ok_iff {name : String} {fields : Fields α}
    {entries : List (String × Json)} {a : α} :
    fields.decoder name (.object entries) = .ok a ↔ fields.ofObject entries = .value a :=
  Reading.result_eq_ok_iff

end Readings

/-! ## Entries -/

/-- The entries with their keys renamed. -/
def renameKeys (rename : String → String) (entries : List (String × Json)) : List (String × Json) :=
  entries.map fun entry => (rename entry.1, entry.2)

section Entries

variable {entries front back : List (String × Json)} {key target : String}

/-- A key finds its value in the front of the entries, or else in the back. -/
theorem valueAt?_append :
    valueAt? key (front ++ back) = (valueAt? key front).or (valueAt? key back) :=
  List.lookup_append

/-- A key finds nothing if no entry has it. -/
theorem valueAt?_eq_none_iff : valueAt? key entries = none ↔ ∀ entry ∈ entries, entry.1 ≠ key := by
  simp only [valueAt?, List.lookup_eq_none_iff, bne_iff_ne, ne_comm]

/-- No key finds anything among no entries. -/
theorem valueAt?_nil (key : String) : valueAt? key [] = none := rfl

/-- A key finds the value of the first entry if it has this key, and otherwise what it finds in the
rest. -/
theorem valueAt?_cons (key target : String) (value : Json) (rest : List (String × Json)) :
    valueAt? target ((key, value) :: rest) =
      if target = key then some value else valueAt? target rest := by
  by_cases same : target = key
  · simp [valueAt?, same]
  · simp [valueAt?, List.lookup_cons, same, beq_eq_false_iff_ne.mpr same]

/-- An entry more is not seen under another key. -/
theorem valueAt?_insert_of_ne (different : target ≠ key) (value : Json) :
    valueAt? target (front ++ (key, value) :: back) = valueAt? target (front ++ back) := by
  rw [valueAt?_append, valueAt?_append, valueAt?_cons, if_neg different]

/-- An entry more is found under its key if nothing stood there. -/
theorem valueAt?_insert_of_none (missing : valueAt? key (front ++ back) = none) (value : Json) :
    valueAt? key (front ++ (key, value) :: back) = some value := by
  rw [valueAt?_append, Option.or_eq_none_iff] at missing
  simp [valueAt?_append, valueAt?_cons, missing.1]

/-- What stands under a key stands under its new name, if no other key gets this name. -/
theorem valueAt?_renameKeys {rename : String → String}
    (only : ∀ entry ∈ entries, (rename entry.1 = target ↔ entry.1 = key)) :
    valueAt? target (renameKeys rename entries) = valueAt? key entries := by
  induction entries with
  | nil => rfl
  | cons entry rest ih =>
    obtain ⟨old, value⟩ := entry
    have here : target = rename old ↔ key = old := by
      rw [eq_comm, only (old, value) List.mem_cons_self, eq_comm]
    have later := ih fun other member => only other (List.mem_cons_of_mem _ member)
    show valueAt? target ((rename old, value) :: renameKeys rename rest) = _
    rw [valueAt?_cons, valueAt?_cons, later]
    simp only [here]

/-- Among renamed entries a key finds nothing if no entry is renamed to it. -/
theorem valueAt?_renameKeys_eq_none_iff {rename : String → String} :
    valueAt? target (renameKeys rename entries) = none ↔
      ∀ entry ∈ entries, rename entry.1 ≠ target := by
  rw [valueAt?_eq_none_iff, renameKeys, List.forall_mem_map]

end Entries

/-! ## Fields -/

namespace Field

variable {α : Type} {field : Field α} {before after : List (String × Json)} {a : α}

/-- The keys under which a field looks. -/
def spellings (field : Field α) : List String :=
  field.name :: field.secondName.toList

/-- A field looks under its name and under its second spelling, if it has one. -/
theorem mem_spellings_iff {key : String} :
    key ∈ field.spellings ↔ key = field.name ∨ field.secondName = some key := by
  simp [spellings]

/-- Whether `null` counts as nothing for a field that may be left out. -/
def NullIsAbsent (field : Field α) : Prop :=
  ∀ default, field.absent = some default → field.decode .null = .ok default

/-- The field reads a value from the entries of an object. -/
inductive Reads (field : Field α) (entries : List (String × Json)) (a : α) : Prop
  /-- Nothing stands there for it. -/
  | absent (missing : ∀ key ∈ field.spellings, valueAt? key entries = none)
    (default : field.absent = some a)
  /-- One value stands there for it. -/
  | present {key : String} {value : Json} (spelled : key ∈ field.spellings)
    (found : valueAt? key entries = some value)
    (only : ∀ other ∈ field.spellings, other ≠ key → valueAt? other entries = none)
    (decoded : field.decode value = .ok a)

/-- A field does not read from an object that has both of its keys. -/
theorem Reads.once {entries : List (String × Json)} (reads : field.Reads entries a)
    {key other : String} (spelled : key ∈ field.spellings) (spelledToo : other ∈ field.spellings)
    (different : key ≠ other) : valueAt? key entries = none ∨ valueAt? other entries = none := by
  cases reads with
  | absent missing _ => exact Or.inl (missing key spelled)
  | @present there _ _ _ only _ =>
    by_cases same : key = there
    · exact Or.inr (only other spelledToo fun otherSame => different (same.trans otherSame.symm))
    · exact Or.inl (only key spelled same)

/-- Where nothing stands under its keys, a field reads what stands in for it. -/
theorem reads_iff_of_missing {entries : List (String × Json)}
    (missing : ∀ key ∈ field.spellings, valueAt? key entries = none) :
    field.Reads entries a ↔ field.absent = some a := by
  refine ⟨fun reads => ?_, .absent missing⟩
  cases reads with
  | absent _ default => exact default
  | present spelled found _ _ =>
    rw [missing _ spelled] at found
    cases found

/-- Where a value stands under one of its keys and nothing under the others, a field reads this
value. -/
theorem reads_iff_of_found {entries : List (String × Json)} {key : String} {value : Json}
    (spelled : key ∈ field.spellings) (found : valueAt? key entries = some value)
    (only : ∀ other ∈ field.spellings, other ≠ key → valueAt? other entries = none) :
    field.Reads entries a ↔ field.decode value = .ok a := by
  refine ⟨fun reads => ?_, .present spelled found only⟩
  cases reads with
  | absent missing _ =>
    rw [missing key spelled] at found
    cases found
  | @present there value' spelledThere foundThere _ decoded =>
    have same : there = key := by
      refine Classical.byContradiction fun different => ?_
      rw [only there spelledThere different] at foundThere
      cases foundThere
    rw [same, found, Option.some.injEq] at foundThere
    rw [foundThere]
    exact decoded

/-- A field reads what stands under its name if nothing stands under the second spelling. -/
theorem reads_of_name {entries : List (String × Json)}
    (only : ∀ second, field.secondName = some second → valueAt? second entries = none)
    (written : (valueAt? field.name entries).elim (field.absent = some a)
      fun value => field.decode value = .ok a) : field.Reads entries a := by
  cases found : valueAt? field.name entries with
  | none =>
    rw [found] at written
    refine .absent (fun key spelled => ?_) written
    rcases mem_spellings_iff.mp spelled with rfl | also
    · exact found
    · exact only key also
  | some value =>
    rw [found] at written
    refine .present (mem_spellings_iff.mpr (Or.inl rfl)) found ?_ written
    intro other spelled different
    rcases mem_spellings_iff.mp spelled with same | also
    · exact absurd same different
    · exact only other also

/-! ### The reader -/

/-- A field with values under both of its keys is not read. -/
theorem readTwice_ne_value (field : Field α) (key : String) (value : Json) (second : String)
    (a : α) : field.readTwice key value second ≠ .value a := by
  unfold readTwice
  split
  · simp
  · simp

/-- A field that is there once is read exactly if its value is. -/
theorem readOnce_eq_value_iff {key : String} {value : Json} :
    field.readOnce key value = .value a ↔ field.decode value = .ok a := by
  unfold readOnce
  cases field.decode value <;> simp [Reading.ofExcept]

/-- A field that is left out is read as what stands in for it. -/
theorem readAbsent_eq_value_iff : field.readAbsent = .value a ↔ field.absent = some a := by
  unfold readAbsent
  cases field.absent <;> simp

/-- The second value is what stands under the second spelling. -/
theorem secondValue?_eq_some_iff {entries : List (String × Json)} {second : String} {value : Json} :
    field.secondValue? entries = some (second, value) ↔
      field.secondName = some second ∧ valueAt? second entries = some value := by
  unfold secondValue?
  cases field.secondName with
  | none => simp
  | some name =>
    cases found : valueAt? name entries with
    | none =>
      have absent : name = second → valueAt? second entries ≠ some value := by
        rintro rfl
        simp [found]
      simpa [found] using absent
    | some there =>
      simp only [found, Option.bind_eq_bind, Option.bind_some, Option.some.injEq, Prod.mk.injEq]
      refine and_congr_right ?_
      rintro rfl
      rw [found, Option.some.injEq]

/-- There is no second value if nothing stands under the second spelling. -/
theorem secondValue?_eq_none_iff {entries : List (String × Json)} :
    field.secondValue? entries = none ↔
      ∀ second, field.secondName = some second → valueAt? second entries = none := by
  unfold secondValue?
  cases field.secondName with
  | none => simp
  | some name => cases found : valueAt? name entries <;> simp [found]

section Standing

variable {entries : List (String × Json)} {value : Json}

/-- A field with nothing under its name and no second value reads what stands in for it. -/
theorem reads_iff_of_neither (first : valueAt? field.name entries = none)
    (second : field.secondValue? entries = none) :
    field.Reads entries a ↔ field.absent = some a := by
  refine reads_iff_of_missing fun key spelled => ?_
  rcases mem_spellings_iff.mp spelled with rfl | also
  · exact first
  · exact secondValue?_eq_none_iff.mp second key also

/-- A field with a value under its name and no second value reads the former. -/
theorem reads_iff_of_first (first : valueAt? field.name entries = some value)
    (second : field.secondValue? entries = none) :
    field.Reads entries a ↔ field.decode value = .ok a := by
  have named : field.name ∈ field.spellings := mem_spellings_iff.mpr (Or.inl rfl)
  refine reads_iff_of_found named first fun other spelled different => ?_
  rcases mem_spellings_iff.mp spelled with same | also
  · exact absurd same different
  · exact secondValue?_eq_none_iff.mp second other also

/-- A field with a second value and nothing under its name reads the second value. -/
theorem reads_iff_of_second {key : String} (first : valueAt? field.name entries = none)
    (second : field.secondValue? entries = some (key, value)) :
    field.Reads entries a ↔ field.decode value = .ok a := by
  obtain ⟨also, found⟩ := secondValue?_eq_some_iff.mp second
  have spelled : key ∈ field.spellings := mem_spellings_iff.mpr (Or.inr also)
  refine reads_iff_of_found spelled found fun other spelledToo different => ?_
  rcases mem_spellings_iff.mp spelledToo with rfl | same
  · exact first
  · rw [also, Option.some.injEq] at same
    exact absurd same.symm different

/-- A field with a value under its name and a second value reads nothing. -/
theorem not_reads_of_both {key : String} {value' : Json} (distinct : field.spellings.Nodup)
    (first : valueAt? field.name entries = some value)
    (second : field.secondValue? entries = some (key, value')) : ¬field.Reads entries a := by
  intro reads
  obtain ⟨also, found⟩ := secondValue?_eq_some_iff.mp second
  have different : field.name ≠ key := by
    rintro rfl
    simp [spellings, also] at distinct
  rcases reads.once (mem_spellings_iff.mpr (Or.inl rfl)) (mem_spellings_iff.mpr (Or.inr also))
    different with missing | missing
  · simp [first] at missing
  · simp [found] at missing

/-- What the reader of an object takes for a field. -/
theorem ofObject_eq_value_iff (distinct : field.spellings.Nodup) :
    field.ofObject entries = .value a ↔ field.Reads entries a := by
  unfold ofObject
  cases first : valueAt? field.name entries with
  | none =>
    cases second : field.secondValue? entries with
    | none => exact readAbsent_eq_value_iff.trans (reads_iff_of_neither first second).symm
    | some there => exact readOnce_eq_value_iff.trans (reads_iff_of_second first second).symm
  | some value =>
    cases second : field.secondValue? entries with
    | none => exact readOnce_eq_value_iff.trans (reads_iff_of_first first second).symm
    | some there =>
      -- With both keys there the reader faults, whichever of them it names.
      refine iff_of_false ?_ (not_reads_of_both distinct first second)
      dsimp only
      split
      · exact readTwice_ne_value field there.1 there.2 field.name a
      · exact readTwice_ne_value field field.name value there.1 a

end Standing

/-! ### Changes to the entries -/

/-- Only what stands under its own keys counts for a field. -/
theorem Reads.of_same (reads : field.Reads before a)
    (same : ∀ key ∈ field.spellings, valueAt? key after = valueAt? key before) :
    field.Reads after a := by
  cases reads with
  | absent missing default =>
    refine .absent (fun key spelled => ?_) default
    rw [same key spelled, missing key spelled]
  | present spelled found only decoded =>
    refine .present spelled ?_ (fun other spelledToo different => ?_) decoded
    · rw [same _ spelled, found]
    · rw [same other spelledToo, only other spelledToo different]

/-- A field keeps its value when keys are renamed, if its own keys stay among themselves and no
others come to them. -/
theorem Reads.rename {rename : String → String} (reads : field.Reads before a)
    (within : ∀ key, rename key ∈ field.spellings ↔ key ∈ field.spellings) :
    field.Reads (renameKeys rename before) a := by
  have spelledBefore : ∀ {old new}, rename old = new → new ∈ field.spellings →
      old ∈ field.spellings := by
    rintro old new rfl spelled
    exact (within old).mp spelled
  cases reads with
  | absent missing default =>
    refine .absent (fun key spelled => ?_) default
    rw [valueAt?_renameKeys_eq_none_iff]
    intro entry member renamed
    exact valueAt?_eq_none_iff.mp (missing entry.1 (spelledBefore renamed spelled)) entry member rfl
  | @present key value spelled found only decoded =>
    -- All entries for the field have the key `key`, so they all get the same new key.
    have alone : ∀ entry ∈ before, entry.1 ∈ field.spellings → entry.1 = key := by
      intro entry member spelledToo
      refine Classical.byContradiction fun different => ?_
      exact valueAt?_eq_none_iff.mp (only entry.1 spelledToo different) entry member rfl
    have spelledAfter : rename key ∈ field.spellings := (within key).mpr spelled
    refine .present spelledAfter ?_ (fun other spelledToo different => ?_) decoded
    · rw [valueAt?_renameKeys, found]
      intro entry member
      refine ⟨fun renamed => ?_, fun same => by rw [same]⟩
      exact alone entry member (spelledBefore renamed spelledAfter)
    · rw [valueAt?_renameKeys_eq_none_iff]
      intro entry member renamed
      apply different
      rw [← renamed, alone entry member (spelledBefore renamed spelledToo)]

/-- A field that is left out keeps its value when `null` is put under one of its keys, if `null`
counts as nothing for it. -/
theorem Reads.insert_null {front back : List (String × Json)} {key : String}
    (reads : field.Reads (front ++ back) a)
    (missing : ∀ name ∈ field.spellings, valueAt? name (front ++ back) = none)
    (spelled : key ∈ field.spellings) (nullable : field.NullIsAbsent) :
    field.Reads (front ++ (key, .null) :: back) a := by
  cases reads with
  | absent _ default =>
    refine .present spelled (valueAt?_insert_of_none (missing key spelled) .null) ?_
      (nullable a default)
    intro other spelledToo different
    rw [valueAt?_insert_of_ne different, missing other spelledToo]
  | present spelledToo found _ _ =>
    rw [missing _ spelledToo] at found
    cases found

end Field

/-- A record is read when each of its fields is. -/
theorem Fields.and_eq_value_iff {α β : Type} {fields : Fields (α → β)} {field : Field α}
    {entries : List (String × Json)} {b : β} (distinct : field.spellings.Nodup) :
    (fields.and field).ofObject entries = .value b ↔
      ∃ f a, fields.ofObject entries = .value f ∧ field.Reads entries a ∧ f a = b := by
  simp only [← Field.ofObject_eq_value_iff distinct]
  exact Reading.both_eq_value_iff

end RobotBlocks.Json
