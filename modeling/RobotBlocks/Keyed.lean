/-!
# Lists whose entries carry a key

The workspace, its definitions and the control tables of a gamepad are all lists kept in the
order in which their keys first arrived. This module holds the three edits they share and what
each edit does to the list of keys and to a look-up.

* `keys_upsert_of_mem` and `keys_upsert_of_notMem`: replacing keeps the position, a new key goes
  to the end.
* `find?_upsert_self` and `find?_upsert_of_ne`: an edit is seen under its own key only.
* `nodup_keys_upsert` and `nodup_keys_erase`: no edit makes a key appear twice.
* `find?_modify_self`, `find?_erase_self` and their `_of_ne`: the same for a change in place and
  for taking an entry out.
* `erase_eq_filter`: what taking an entry out leaves, where no key comes twice.
* `ext`: lists with the same keys, each once, are the same when each key finds the same entry.
-/

set_option autoImplicit false

namespace RobotBlocks.Keyed

variable {α κ : Type} [DecidableEq κ]

/-- The first entry that carries the key `k`. -/
def find? (key : α → κ) (k : κ) (entries : List α) : Option α :=
  entries.find? fun entry => decide (key entry = k)

/-- Puts `entry` in the place of the first entry with its key, or at the end if there is none. -/
def upsert (key : α → κ) (entry : α) : List α → List α
  | [] => [entry]
  | first :: rest =>
    if key first = key entry then entry :: rest else first :: upsert key entry rest

/-- Takes the first entry with the key `k` out; the others keep their order. -/
def erase (key : α → κ) (k : κ) : List α → List α
  | [] => []
  | first :: rest => if key first = k then rest else first :: erase key k rest

/-- Changes the first entry with the key `k` in place. -/
def modify (key : α → κ) (k : κ) (change : α → α) : List α → List α
  | [] => []
  | first :: rest =>
    if key first = k then change first :: rest else first :: modify key k change rest

/-- What is found under a key carries this key. -/
theorem key_of_find? {key : α → κ} {k : κ} {entries : List α} {entry : α}
    (found : find? key k entries = some entry) : key entry = k := by
  simpa using List.find?_some found

/-- What is found is an entry of the list. -/
theorem mem_of_find? {key : α → κ} {k : κ} {entries : List α} {entry : α}
    (found : find? key k entries = some entry) : entry ∈ entries :=
  List.mem_of_find?_eq_some found

/-- A key finds nothing exactly when no entry carries it. -/
theorem find?_eq_none_iff {key : α → κ} {k : κ} {entries : List α} :
    find? key k entries = none ↔ k ∉ entries.map key := by
  simp [find?]

/-- Where no key comes twice, each entry is found under its key. -/
theorem find?_of_mem (key : α → κ) {entries : List α} (distinct : (entries.map key).Nodup)
    {entry : α} (member : entry ∈ entries) : find? key (key entry) entries = some entry := by
  induction entries with
  | nil => simp at member
  | cons first rest ih =>
    rw [List.map_cons, List.nodup_cons] at distinct
    rcases List.mem_cons.mp member with rfl | later
    · simp [find?]
    · have other : key first ≠ key entry := by
        intro same
        exact distinct.1 (same ▸ List.mem_map_of_mem later)
      simpa [find?, other] using ih distinct.2 later

/-- Two lists with the same keys, each of them once, are the same when each key finds the same
entry in both. -/
theorem ext (key : α → κ) {left right : List α} (keys : left.map key = right.map key)
    (distinct : (left.map key).Nodup)
    (same : ∀ k, find? key k left = find? key k right) : left = right := by
  induction left generalizing right with
  | nil =>
    cases right with
    | nil => rfl
    | cons first rest => simp at keys
  | cons first rest ih =>
    cases right with
    | nil => simp at keys
    | cons other others =>
      rw [List.map_cons, List.map_cons, List.cons.injEq] at keys
      rw [List.map_cons, List.nodup_cons] at distinct
      have heads : first = other := by
        have here := same (key first)
        simpa [find?, keys.1] using here
      subst heads
      congr 1
      refine ih keys.2 distinct.2 fun k => ?_
      by_cases here : key first = k
      · subst here
        rw [find?_eq_none_iff.mpr distinct.1, find?_eq_none_iff.mpr (keys.2 ▸ distinct.1)]
      · simpa [find?, here] using same k

/-- Replacing an entry leaves the list of keys as it was. -/
theorem keys_upsert_of_mem (key : α → κ) (entry : α) (entries : List α)
    (present : key entry ∈ entries.map key) :
    (upsert key entry entries).map key = entries.map key := by
  induction entries with
  | nil => simp at present
  | cons first rest ih =>
    by_cases same : key first = key entry
    · simp [upsert, same]
    · have later : key entry ∈ rest.map key := by
        rw [List.map_cons, List.mem_cons] at present
        exact present.resolve_left fun h => same h.symm
      simp [upsert, same, ih later]

/-- An entry with a new key goes to the end. -/
theorem upsert_of_notMem (key : α → κ) (entry : α) (entries : List α)
    (absent : key entry ∉ entries.map key) :
    upsert key entry entries = entries ++ [entry] := by
  induction entries with
  | nil => rfl
  | cons first rest ih =>
    rw [List.map_cons, List.mem_cons, not_or] at absent
    simp [upsert, Ne.symm absent.1, ih absent.2]

/-- A new key goes to the end of the list of keys. -/
theorem keys_upsert_of_notMem (key : α → κ) (entry : α) (entries : List α)
    (absent : key entry ∉ entries.map key) :
    (upsert key entry entries).map key = entries.map key ++ [key entry] := by
  simp [upsert_of_notMem key entry entries absent]

/-- An entry just put in is found under its key. -/
theorem find?_upsert_self (key : α → κ) (entry : α) (entries : List α) :
    find? key (key entry) (upsert key entry entries) = some entry := by
  induction entries with
  | nil => simp [upsert, find?]
  | cons first rest ih =>
    by_cases same : key first = key entry
    · simp [upsert, find?, same]
    · simpa [upsert, find?, same] using ih

/-- An edit under one key is not seen under another. -/
theorem find?_upsert_of_ne (key : α → κ) (entry : α) (entries : List α) {k : κ}
    (other : k ≠ key entry) :
    find? key k (upsert key entry entries) = find? key k entries := by
  induction entries with
  | nil => simp [upsert, find?, Ne.symm other]
  | cons first rest ih =>
    by_cases same : key first = key entry
    · simp [upsert, find?, same, Ne.symm other]
    · by_cases here : key first = k
      · simp [upsert, find?, here, other]
      · simpa [upsert, find?, same, here] using ih

/-- Taking an entry out takes its key out. -/
theorem keys_erase (key : α → κ) (k : κ) (entries : List α) :
    (erase key k entries).map key = (entries.map key).erase k := by
  induction entries with
  | nil => rfl
  | cons first rest ih =>
    by_cases same : key first = k
    · simp [erase, same]
    · simp [erase, same, ih]

/-- Where no key comes twice, taking an entry out leaves the entries with other keys. -/
theorem erase_eq_filter (key : α → κ) (k : κ) {entries : List α}
    (distinct : (entries.map key).Nodup) :
    erase key k entries = entries.filter fun entry => decide (key entry ≠ k) := by
  induction entries with
  | nil => rfl
  | cons first rest ih =>
    rw [List.map_cons, List.nodup_cons] at distinct
    by_cases same : key first = k
    · have others : ∀ entry ∈ rest, decide (key entry ≠ k) = true := by
        intro entry member
        refine decide_eq_true fun here => distinct.1 ?_
        rw [same, ← here]
        exact List.mem_map_of_mem member
      rw [erase, if_pos same, List.filter_cons_of_neg (by simp [same]),
        List.filter_eq_self.mpr others]
    · rw [erase, if_neg same, List.filter_cons_of_pos (by simp [same]), ih distinct.2]

/-- Putting an entry in makes no key appear twice. -/
theorem nodup_keys_upsert (key : α → κ) (entry : α) (entries : List α)
    (distinct : (entries.map key).Nodup) : ((upsert key entry entries).map key).Nodup := by
  by_cases present : key entry ∈ entries.map key
  · rw [keys_upsert_of_mem key entry entries present]
    exact distinct
  · rw [keys_upsert_of_notMem key entry entries present, List.nodup_append]
    refine ⟨distinct, by simp, ?_⟩
    intro k mem l single same
    rw [List.mem_singleton] at single
    exact present (by rw [← single, ← same]; exact mem)

/-- Taking an entry out makes no key appear twice. -/
theorem nodup_keys_erase (key : α → κ) (k : κ) (entries : List α)
    (distinct : (entries.map key).Nodup) : ((erase key k entries).map key).Nodup := by
  rw [keys_erase]
  exact distinct.sublist List.erase_sublist

/-- A change in place that keeps its key keeps the list of keys. -/
theorem keys_modify (key : α → κ) {k : κ} {change : α → α}
    (keeps : ∀ entry, key entry = k → key (change entry) = k) (entries : List α) :
    (modify key k change entries).map key = entries.map key := by
  induction entries with
  | nil => rfl
  | cons first rest ih =>
    by_cases same : key first = k
    · simp [modify, same, keeps first same]
    · simp [modify, same, ih]

/-- A change in place is seen under its key, if it keeps this key. -/
theorem find?_modify_self (key : α → κ) {k : κ} {change : α → α}
    (keeps : ∀ entry, key entry = k → key (change entry) = k) (entries : List α) :
    find? key k (modify key k change entries) = (find? key k entries).map change := by
  induction entries with
  | nil => rfl
  | cons first rest ih =>
    by_cases same : key first = k
    · simp [modify, find?, same, keeps first same]
    · simpa [modify, find?, same] using ih

/-- A change in place that keeps its key is seen under no other key. -/
theorem find?_modify_of_ne (key : α → κ) {k l : κ} {change : α → α}
    (keeps : ∀ entry, key entry = k → key (change entry) = k) (entries : List α)
    (other : l ≠ k) : find? key l (modify key k change entries) = find? key l entries := by
  induction entries with
  | nil => rfl
  | cons first rest ih =>
    by_cases same : key first = k
    · simp [modify, find?, same, keeps first same, Ne.symm other]
    · by_cases here : key first = l
      · simp [modify, find?, here, other]
      · simpa [modify, find?, same, here] using ih

/-- Where no key comes twice, a change in place is a change of the entries with its key. -/
theorem modify_eq_map (key : α → κ) (k : κ) (change : α → α) {entries : List α}
    (distinct : (entries.map key).Nodup) :
    modify key k change entries =
      entries.map fun entry => if key entry = k then change entry else entry := by
  induction entries with
  | nil => rfl
  | cons first rest ih =>
    rw [List.map_cons, List.nodup_cons] at distinct
    by_cases same : key first = k
    · have others : ∀ entry ∈ rest, (if key entry = k then change entry else entry) = entry := by
        intro entry member
        refine if_neg fun here => distinct.1 ?_
        rw [same, ← here]
        exact List.mem_map_of_mem member
      rw [modify, if_pos same, List.map_cons, if_pos same, List.map_congr_left others, List.map_id']
    · rw [modify, if_neg same, List.map_cons, if_neg same, ih distinct.2]

/-- An entry after a change in place was there before, or is the changed one. -/
theorem mem_of_mem_modify {key : α → κ} {k : κ} {change : α → α} {entries : List α} {entry : α}
    (member : entry ∈ modify key k change entries) :
    entry ∈ entries ∨ ∃ before ∈ entries, key before = k ∧ entry = change before := by
  induction entries with
  | nil => simp [modify] at member
  | cons first rest ih =>
    by_cases same : key first = k
    · rw [modify, if_pos same, List.mem_cons] at member
      rcases member with rfl | later
      · exact Or.inr ⟨first, List.mem_cons_self, same, rfl⟩
      · exact Or.inl (List.mem_cons_of_mem first later)
    · rw [modify, if_neg same, List.mem_cons] at member
      rcases member with rfl | later
      · exact Or.inl List.mem_cons_self
      · rcases ih later with there | ⟨before, there, at_key, changed⟩
        · exact Or.inl (List.mem_cons_of_mem first there)
        · exact Or.inr ⟨before, List.mem_cons_of_mem first there, at_key, changed⟩

/-- An entry that is left after taking one out was there before. -/
theorem mem_of_mem_erase {key : α → κ} {k : κ} {entries : List α} {entry : α}
    (member : entry ∈ erase key k entries) : entry ∈ entries := by
  induction entries with
  | nil => simp [erase] at member
  | cons first rest ih =>
    by_cases same : key first = k
    · rw [erase, if_pos same] at member
      exact List.mem_cons_of_mem first member
    · rw [erase, if_neg same, List.mem_cons] at member
      rcases member with rfl | later
      · exact List.mem_cons_self
      · exact List.mem_cons_of_mem first (ih later)

/-- A change of all entries that keeps their keys is seen under every key. -/
theorem find?_map (key : α → κ) {change : α → α} (keeps : ∀ entry, key (change entry) = key entry)
    (k : κ) (entries : List α) :
    find? key k (entries.map change) = (find? key k entries).map change := by
  have same : (fun entry => decide (key entry = k)) ∘ change =
      fun entry => decide (key entry = k) :=
    funext fun entry => by rw [Function.comp_apply, keeps]
  rw [find?, List.find?_map, same, find?]

/-- Where no key comes twice, an entry taken out is not found any more. -/
theorem find?_erase_self (key : α → κ) (k : κ) {entries : List α}
    (distinct : (entries.map key).Nodup) : find? key k (erase key k entries) = none := by
  rw [find?_eq_none_iff, keys_erase]
  exact distinct.not_mem_erase

/-- Taking an entry out is seen under no other key. -/
theorem find?_erase_of_ne (key : α → κ) {k l : κ} (entries : List α) (other : l ≠ k) :
    find? key l (erase key k entries) = find? key l entries := by
  induction entries with
  | nil => rfl
  | cons first rest ih =>
    by_cases same : key first = k
    · simp [erase, find?, same, Ne.symm other]
    · by_cases here : key first = l
      · simp [erase, find?, here, other]
      · simpa [erase, find?, same, here] using ih

end RobotBlocks.Keyed
