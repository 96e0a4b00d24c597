import Mathlib.Data.List.Basic
import Mathlib.Data.List.Induction
import RobotBlocks.Keyed

/-!
# Lists with keys as the outcome of edits

A list whose entries carry a key is what edits make of the empty list: entries are put in, entries
are taken out, and all entries are revised in place, with their keys kept. So the list can be told
from the edits alone. Its keys are those that have arrived and not left, in the order of their
arrival, where a key that left arrives anew (`mem_keys_run_iff`, `pairwise_keys_run`). What a key
finds is the entry that was put under it last, as revised since (`find?_run_eq_some_iff`).
-/

set_option autoImplicit false

namespace RobotBlocks.Keyed

/-! ## Histories that grow at the end -/

section Concat

variable {σ : Type} {steps : List σ} {last step : σ} {position : Nat}

/-- A step of a history that grew is a step from before, or the last one at the end. -/
theorem getElem?_concat_eq_some_iff :
    (steps ++ [last])[position]? = some step ↔
      steps[position]? = some step ∨ position = steps.length ∧ last = step := by
  rcases Nat.lt_trichotomy position steps.length with inside | rfl | outside
  · rw [List.getElem?_append_left inside]
    simp [Nat.ne_of_lt inside]
  · simp
  · have past : steps[position]? = none := List.getElem?_eq_none (Nat.le_of_lt outside)
    have beyond : (steps ++ [last])[position]? = none := by
      apply List.getElem?_eq_none
      rw [List.length_append, List.length_singleton]
      exact outside
    simp [past, beyond, Nat.ne_of_gt outside]

/-- A step other than the last one was there before. -/
theorem getElem?_concat_of_ne (other : last ≠ step) :
    (steps ++ [last])[position]? = some step ↔ steps[position]? = some step := by
  rw [getElem?_concat_eq_some_iff]
  simp [other]

/-- A step stays where it is as the history grows. -/
theorem getElem?_concat_of_some (there : steps[position]? = some step) :
    (steps ++ [last])[position]? = some step :=
  getElem?_concat_eq_some_iff.mpr (Or.inl there)

/-- Steps are found only within a history. -/
theorem lt_length_of_getElem? (there : steps[position]? = some step) : position < steps.length :=
  (List.getElem?_eq_some_iff.mp there).1

/-- The last step of a history that grew stands where the history ended before. -/
theorem le_length_of_getElem?_concat (there : (steps ++ [last])[position]? = some step) :
    position ≤ steps.length := by
  have inside := lt_length_of_getElem? there
  rw [List.length_append, List.length_singleton] at inside
  exact Nat.le_of_lt_succ inside

/-- A step of a history that grew is its new last step, or was there before. -/
theorem concat_eq_append_cons_iff {earlier later : List σ} :
    steps ++ [last] = earlier ++ step :: later ↔
      steps = earlier ∧ last = step ∧ later = [] ∨
        ∃ before, steps = earlier ++ step :: before ∧ later = before ++ [last] := by
  constructor
  · intro same
    rcases List.eq_nil_or_concat' later with rfl | ⟨before, final, rfl⟩
    · obtain ⟨front, back⟩ := List.append_inj' same rfl
      exact Or.inl ⟨front, List.head_eq_of_cons_eq back, rfl⟩
    · rw [← List.cons_append, ← List.append_assoc] at same
      obtain ⟨front, back⟩ := List.append_inj' same rfl
      exact Or.inr ⟨before, front, by rw [back]⟩
  · rintro (⟨rfl, rfl, rfl⟩ | ⟨before, rfl, rfl⟩)
    · rfl
    · simp

end Concat

/-! ## Edits -/

variable {α κ : Type}

/-- An edit of a list whose entries carry a key. -/
inductive Edit (key : α → κ)
  /-- An entry is put in, in the place of the one with its key if there is one. -/
  | put (entry : α)
  /-- The entry with a key is taken out, if there is one. -/
  | take (k : κ)
  /-- All entries are changed in place. -/
  | revise (change : α → α) (keeps : ∀ entry, key (change entry) = key entry)

namespace Edit

variable {key : α → κ}

/-- An edit puts an entry in under a key. -/
def Puts (edit : Edit key) (k : κ) : Prop :=
  ∃ entry, edit = .put entry ∧ key entry = k

/-- An edit decides what stands under a key. -/
def IsAbout (edit : Edit key) (k : κ) : Prop :=
  edit.Puts k ∨ edit = .take k

/-- What an edit makes of an entry that it neither puts in nor takes out. -/
def revised : Edit key → α → α
  | .revise change _, entry => change entry
  | _, entry => entry

/-- What edits make of an entry, one after the other. -/
def revisedBy (edits : List (Edit key)) (entry : α) : α :=
  edits.foldl (fun reached edit => edit.revised reached) entry

/-- A key arrived with the edit at a position: this edit puts an entry in under it, no later edit
takes it out, and every earlier entry under it was taken out in between. So this is the first time
that the key was put in since it was last taken out. -/
structure Arrives (edits : List (Edit key)) (k : κ) (position : Nat) : Prop where
  put : ∃ edit, edits[position]? = some edit ∧ edit.Puts k
  kept : ∀ later, position < later → edits[later]? ≠ some (.take k)
  first : ∀ earlier edit, earlier < position → edits[earlier]? = some edit → edit.Puts k →
    ∃ between, earlier < between ∧ between < position ∧ edits[between]? = some (.take k)

/-- One key arrived before another. -/
def ArrivesBefore (edits : List (Edit key)) (k l : κ) : Prop :=
  ∃ position later, Arrives edits k position ∧ Arrives edits l later ∧ position < later

section Arrival

variable {edits : List (Edit key)} {last : Edit key} {k l : κ} {position : Nat}

/-- Taking an entry out puts none in. -/
theorem not_puts_take : ¬(take l : Edit key).Puts k := by
  rintro ⟨entry, taken, -⟩
  cases taken

/-- A key that arrived stays where it arrived until it is taken out. -/
theorem Arrives.concat (arrived : Arrives edits k position) (stays : last ≠ .take k) :
    Arrives (edits ++ [last]) k position := by
  obtain ⟨edit, there, puts⟩ := arrived.put
  have inside := lt_length_of_getElem? there
  refine ⟨⟨edit, getElem?_concat_of_some there, puts⟩, ?_, ?_⟩
  · intro later after
    rw [ne_eq, getElem?_concat_of_ne stays]
    exact arrived.kept later after
  · intro earlier other before found putsToo
    rcases getElem?_concat_eq_some_iff.mp found with found | ⟨atEnd, -⟩
    · obtain ⟨between, above, below, taken⟩ := arrived.first earlier other before found putsToo
      exact ⟨between, above, below, getElem?_concat_of_some taken⟩
    · omega

/-- A key arrives when it is put in and whatever was put under it before is gone. -/
theorem arrives_concat_put (puts : last.Puts k)
    (undone : ∀ (earlier : Nat) (edit : Edit key), edits[earlier]? = some edit → edit.Puts k →
      ∃ between : Nat, earlier < between ∧ edits[between]? = some (.take k)) :
    Arrives (edits ++ [last]) k edits.length := by
  refine ⟨⟨last, List.getElem?_concat_length, puts⟩, ?_, ?_⟩
  · intro later after there
    exact absurd after (Nat.not_lt.mpr (le_length_of_getElem?_concat there))
  · intro earlier edit before there putsToo
    rcases getElem?_concat_eq_some_iff.mp there with there | ⟨atEnd, -⟩
    · obtain ⟨between, above, taken⟩ := undone earlier edit there putsToo
      exact ⟨between, above, lt_length_of_getElem? taken, getElem?_concat_of_some taken⟩
    · omega

/-- A key arrives at one position only. -/
theorem Arrives.unique {other : Nat} (first : Arrives edits k position)
    (second : Arrives edits k other) : position = other := by
  have notBefore {i j : Nat} (early : Arrives edits k i) (late : Arrives edits k j) : ¬i < j := by
    intro before
    obtain ⟨edit, there, puts⟩ := early.put
    obtain ⟨between, above, -, taken⟩ := late.first i edit before there puts
    exact early.kept between above taken
  have := notBefore first second
  have := notBefore second first
  omega

/-- The order in which two keys arrived stays until one of them is taken out. -/
theorem ArrivesBefore.concat (before : ArrivesBefore edits k l) (stays : last ≠ .take k)
    (otherStays : last ≠ .take l) : ArrivesBefore (edits ++ [last]) k l := by
  obtain ⟨position, later, arrived, otherArrived, less⟩ := before
  exact ⟨position, later, arrived.concat stays, otherArrived.concat otherStays, less⟩

end Arrival

/-! ## The last entry put in -/

/-- The entry that was put in last under a key, if the key was not taken out since, as revised by
the edits after it. -/
def LastPut (edits : List (Edit key)) (k : κ) (entry : α) : Prop :=
  ∃ (earlier : List (Edit key)) (given : α) (later : List (Edit key)),
    edits = earlier ++ .put given :: later ∧ key given = k ∧
      (∀ edit ∈ later, ¬edit.IsAbout k) ∧ entry = revisedBy later given

section LastPut

variable {edits : List (Edit key)} {last : Edit key} {k : κ} {given entry : α}

/-- The last edit revises what the earlier ones have made of an entry. -/
theorem revisedBy_concat (edits : List (Edit key)) (last : Edit key) (entry : α) :
    revisedBy (edits ++ [last]) entry = last.revised (revisedBy edits entry) :=
  List.foldl_concat (fun reached edit => revised edit reached) entry last edits

/-- Nothing was put in before the first edit. -/
theorem not_lastPut_nil : ¬LastPut ([] : List (Edit key)) k entry := by
  rintro ⟨earlier, given, later, split, -⟩
  simp at split

/-- After an entry is put in, it is the one put in last under its key. -/
theorem lastPut_concat_put : LastPut (edits ++ [.put given]) (key given) entry ↔ given = entry := by
  constructor
  · rintro ⟨earlier, other, later, split, -, untouched, rfl⟩
    rcases concat_eq_append_cons_iff.mp split with ⟨-, same, rfl⟩ | ⟨before, -, rfl⟩
    · exact put.inj same
    · have about : (put given : Edit key).IsAbout (key given) := Or.inl ⟨given, rfl, rfl⟩
      exact absurd about (untouched _ (List.mem_append_right before (List.mem_singleton_self _)))
  · rintro rfl
    exact ⟨edits, given, [], rfl, rfl, List.forall_mem_nil _, rfl⟩

/-- After the entry under a key is taken out, none is there that was put in last. -/
theorem not_lastPut_concat_take : ¬LastPut (edits ++ [.take k]) k entry := by
  rintro ⟨earlier, other, later, split, -, untouched, -⟩
  rcases concat_eq_append_cons_iff.mp split with ⟨-, same, -⟩ | ⟨before, -, rfl⟩
  · cases same
  · exact untouched _ (List.mem_append_right before (List.mem_singleton_self _)) (Or.inr rfl)

/-- An edit that is not about a key revises the entry that was put in last under it. -/
theorem lastPut_concat_of_not_isAbout (other : ¬last.IsAbout k) :
    LastPut (edits ++ [last]) k entry ↔
      ∃ before, LastPut edits k before ∧ last.revised before = entry := by
  constructor
  · rintro ⟨earlier, given, later, split, at_key, untouched, rfl⟩
    rcases concat_eq_append_cons_iff.mp split with ⟨-, rfl, -⟩ | ⟨between, rfl, rfl⟩
    · exact absurd (Or.inl ⟨given, rfl, at_key⟩) other
    · rw [List.forall_mem_append] at untouched
      refine ⟨_, ⟨earlier, given, between, rfl, at_key, untouched.1, rfl⟩, ?_⟩
      exact (revisedBy_concat between last given).symm
  · rintro ⟨_, ⟨earlier, given, between, rfl, at_key, untouched, rfl⟩, rfl⟩
    refine ⟨earlier, given, between ++ [last], by simp, at_key, ?_, ?_⟩
    · rw [List.forall_mem_append, List.forall_mem_singleton]
      exact ⟨untouched, other⟩
    · exact (revisedBy_concat between last given).symm

end LastPut

/-! ## The list after edits -/

variable [DecidableEq κ]

/-- The entries after an edit. -/
def apply (entries : List α) : Edit key → List α
  | .put entry => upsert key entry entries
  | .take k => erase key k entries
  | .revise change _ => entries.map change

/-- What edits make of the empty list. -/
def run (edits : List (Edit key)) : List α :=
  edits.foldl apply []

/-- The last edit works on what the earlier ones have made of the list. -/
theorem run_concat (edits : List (Edit key)) (last : Edit key) :
    run (edits ++ [last]) = apply (run edits) last :=
  List.foldl_concat apply [] last edits

section Apply

variable {entries : List α} {edit : Edit key} {k : κ}

/-- A revision keeps all keys where they are. -/
theorem keys_revise {change : α → α} (keeps : ∀ entry, key (change entry) = key entry) :
    (apply entries (.revise change keeps)).map key = entries.map key := by
  rw [apply, List.map_map]
  exact List.map_congr_left fun entry _ => keeps entry

/-- No key comes twice after an edit if none did before. -/
theorem nodup_keys_apply (distinct : (entries.map key).Nodup) (edit : Edit key) :
    ((apply entries edit).map key).Nodup := by
  cases edit with
  | put entry => exact nodup_keys_upsert key entry entries distinct
  | take k => exact nodup_keys_erase key k entries distinct
  | revise change keeps =>
    rw [keys_revise]
    exact distinct

/-- A key is there after an edit if it was just put in, or was there and has not just been taken
out. -/
theorem mem_keys_apply_iff (distinct : (entries.map key).Nodup) :
    k ∈ (apply entries edit).map key ↔
      edit.Puts k ∨ k ∈ entries.map key ∧ edit ≠ .take k := by
  cases edit with
  | put entry =>
    have puts : (put entry : Edit key).Puts k ↔ key entry = k := by simp [Puts]
    rw [puts]
    by_cases present : key entry ∈ entries.map key
    · rw [apply, keys_upsert_of_mem key entry entries present]
      constructor
      · exact fun member => Or.inr ⟨member, by simp⟩
      · rintro (rfl | ⟨member, -⟩)
        · exact present
        · exact member
    · rw [apply, keys_upsert_of_notMem key entry entries present, List.mem_append,
        List.mem_singleton, or_comm, eq_comm]
      simp
  | take l =>
    have other : (take l : Edit key) ≠ .take k ↔ k ≠ l := by simp [eq_comm]
    rw [apply, keys_erase, distinct.mem_erase_iff, other, and_comm]
    exact (or_iff_right not_puts_take).symm
  | revise change keeps =>
    rw [keys_revise]
    simp [Puts]

/-- An entry that was just put in is found under its key. -/
theorem find?_apply_put (entry : α) :
    find? key (key entry) (apply entries (put entry : Edit key)) = some entry :=
  find?_upsert_self key entry entries

/-- A key that was just taken out finds nothing. -/
theorem find?_apply_take (distinct : (entries.map key).Nodup) :
    find? key k (apply entries (take k : Edit key)) = none :=
  find?_erase_self key k distinct

/-- An edit that is not about a key revises what stands under it. -/
theorem find?_apply_of_not_isAbout (other : ¬edit.IsAbout k) :
    find? key k (apply entries edit) = (find? key k entries).map edit.revised := by
  cases edit with
  | put entry =>
    have different : k ≠ key entry := by
      rintro rfl
      exact other (Or.inl ⟨entry, rfl, rfl⟩)
    rw [apply, find?_upsert_of_ne key entry entries different]
    exact Option.map_id'.symm
  | take l =>
    have different : k ≠ l := by
      rintro rfl
      exact other (Or.inr rfl)
    rw [apply, find?_erase_of_ne key entries different]
    exact Option.map_id'.symm
  | revise change keeps => exact find?_map key keeps k entries

end Apply

section Run

variable {edits : List (Edit key)} {k : κ}

/-- No key comes twice in a list that edits made. -/
theorem nodup_keys_run (edits : List (Edit key)) : ((run edits).map key).Nodup := by
  induction edits using List.reverseRecOn with
  | nil => exact List.nodup_nil
  | append_singleton edits last ih =>
    rw [run_concat]
    exact nodup_keys_apply ih last

/-- Whatever was put in under a key that is not there has been taken out. -/
theorem taken_of_notMem_keys (absent : k ∉ (run edits).map key) {earlier : Nat} {edit : Edit key}
    (there : edits[earlier]? = some edit) (puts : edit.Puts k) :
    ∃ between, earlier < between ∧ edits[between]? = some (.take k) := by
  induction edits using List.reverseRecOn with
  | nil => simp at there
  | append_singleton edits last ih =>
    rw [run_concat, mem_keys_apply_iff (nodup_keys_run edits), not_or, not_and_not_right] at absent
    have found : edits[earlier]? = some edit := by
      rcases getElem?_concat_eq_some_iff.mp there with found | ⟨-, rfl⟩
      · exact found
      · exact absurd puts absent.1
    -- either the last edit takes the key out, or it was not there before
    by_cases present : k ∈ (run edits).map key
    · obtain rfl := absent.2 present
      exact ⟨edits.length, lt_length_of_getElem? found, List.getElem?_concat_length⟩
    · obtain ⟨between, above, taken⟩ := ih present found
      exact ⟨between, above, getElem?_concat_of_some taken⟩

/-- The keys of the list are those that have arrived. -/
theorem mem_keys_run_iff : k ∈ (run edits).map key ↔ ∃ position, Arrives edits k position := by
  constructor
  · intro member
    induction edits using List.reverseRecOn with
    | nil => exact absurd member List.not_mem_nil
    | append_singleton edits last ih =>
      rw [run_concat, mem_keys_apply_iff (nodup_keys_run edits)] at member
      by_cases known : k ∈ (run edits).map key
      · obtain ⟨position, arrived⟩ := ih known
        have stays : last ≠ .take k := by
          rintro rfl
          exact member.elim not_puts_take fun left => left.2 rfl
        exact ⟨position, arrived.concat stays⟩
      · have puts := member.resolve_right fun there => known there.1
        exact ⟨edits.length, arrives_concat_put puts fun _ _ => taken_of_notMem_keys known⟩
  · rintro ⟨position, arrived⟩
    by_contra absent
    obtain ⟨edit, there, puts⟩ := arrived.put
    obtain ⟨between, above, taken⟩ := taken_of_notMem_keys absent there puts
    exact arrived.kept between above taken

/-- A key of the list has arrived at one position, and a key that is not in it at none. -/
theorem mem_keys_run_iff_unique :
    k ∈ (run edits).map key ↔ ∃! position, Arrives edits k position := by
  rw [mem_keys_run_iff]
  constructor
  · rintro ⟨position, arrived⟩
    exact ⟨position, arrived, fun other there => there.unique arrived⟩
  · exact ExistsUnique.exists

/-- The keys of the list stand in the order of their arrival. -/
theorem pairwise_keys_run (edits : List (Edit key)) :
    ((run edits).map key).Pairwise (ArrivesBefore edits) := by
  induction edits using List.reverseRecOn with
  | nil => exact List.Pairwise.nil
  | append_singleton edits last ih =>
    have distinct := nodup_keys_run edits
    rw [run_concat]
    -- keys that the last edit leaves keep their order; a new one comes after them
    have old {keys : List κ} (sublist : keys.Sublist ((run edits).map key))
        (left : ∀ k ∈ keys, last ≠ .take k) :
        keys.Pairwise (ArrivesBefore (edits ++ [last])) :=
      (ih.sublist sublist).imp_of_mem fun here there before =>
        before.concat (left _ here) (left _ there)
    cases last with
    | put entry =>
      have left : ∀ k ∈ (run edits).map key, put entry ≠ (.take k : Edit key) := by simp
      by_cases known : key entry ∈ (run edits).map key
      · rw [apply, keys_upsert_of_mem key entry _ known]
        exact old (List.Sublist.refl _) left
      · rw [apply, keys_upsert_of_notMem key entry _ known, List.pairwise_append]
        refine ⟨old (List.Sublist.refl _) left, List.pairwise_singleton _ _, ?_⟩
        intro k member l single
        obtain rfl := List.mem_singleton.mp single
        obtain ⟨position, arrived⟩ := mem_keys_run_iff.mp member
        obtain ⟨edit, there, -⟩ := arrived.put
        exact ⟨position, edits.length, arrived.concat (left k member),
          arrives_concat_put ⟨entry, rfl, rfl⟩ fun _ _ => taken_of_notMem_keys known,
          lt_length_of_getElem? there⟩
    | take l =>
      rw [apply, keys_erase]
      refine old List.erase_sublist fun k member same => ?_
      obtain rfl := take.inj same
      exact distinct.not_mem_erase member
    | revise change keeps =>
      rw [keys_revise]
      exact old (List.Sublist.refl _) (by simp)

/-- What a key finds is the entry that was put in last under it. -/
theorem find?_run_eq_some_iff (edits : List (Edit key)) (k : κ) (entry : α) :
    find? key k (run edits) = some entry ↔ LastPut edits k entry := by
  induction edits using List.reverseRecOn generalizing entry with
  | nil => exact iff_of_false (by simp [run, find?]) not_lastPut_nil
  | append_singleton edits last ih =>
    rw [run_concat]
    by_cases about : last.IsAbout k
    · rcases about with ⟨given, rfl, rfl⟩ | rfl
      · rw [find?_apply_put, lastPut_concat_put, Option.some.injEq]
      · rw [find?_apply_take (nodup_keys_run edits)]
        exact iff_of_false (by simp) not_lastPut_concat_take
    · rw [find?_apply_of_not_isAbout about, lastPut_concat_of_not_isAbout about,
        Option.map_eq_some_iff]
      simp only [ih]

end Run

end Edit

end RobotBlocks.Keyed
