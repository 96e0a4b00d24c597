/-!
# Lists that ascend by a key

The imports of a module and the ports of a project are kept in the order of their keys, each key
once, so that the order in which entries arrived leaves no trace. This module holds the one edit
they share.

* `pairwise_insert`: an insertion keeps a list ascending.
* `mem_insert_self`, `mem_insert_of_ne` and `mem_of_mem_insert`: an insertion adds its entry, and
  takes nothing out but an entry with the same key.
-/

set_option autoImplicit false

namespace RobotBlocks.Ascending

variable {α κ : Type} [LT κ] [DecidableLT κ] [DecidableEq κ]

/-- Puts `entry` where its key belongs, in the place of the entry with that key if there is
one. -/
def insert (key : α → κ) (entry : α) : List α → List α
  | [] => [entry]
  | first :: rest =>
    if key entry < key first then entry :: first :: rest
    else if key entry = key first then entry :: rest
    else first :: insert key entry rest

/-- What was inserted is there. -/
theorem mem_insert_self (key : α → κ) (entry : α) (entries : List α) :
    entry ∈ insert key entry entries := by
  induction entries with
  | nil => exact List.mem_cons_self
  | cons first rest ih =>
    rw [insert]
    split
    · exact List.mem_cons_self
    · split
      · exact List.mem_cons_self
      · exact List.mem_cons_of_mem _ ih

/-- An entry with another key stays. -/
theorem mem_insert_of_ne (key : α → κ) {entry other : α} {entries : List α}
    (member : other ∈ entries) (different : key entry ≠ key other) :
    other ∈ insert key entry entries := by
  induction entries with
  | nil => exact absurd member List.not_mem_nil
  | cons first rest ih =>
    rw [insert]
    split
    · exact List.mem_cons_of_mem _ member
    · split
      · rename_i same
        rcases List.mem_cons.mp member with rfl | later
        · exact absurd same different
        · exact List.mem_cons_of_mem _ later
      · rcases List.mem_cons.mp member with rfl | later
        · exact List.mem_cons_self
        · exact List.mem_cons_of_mem _ (ih later)

/-- What is there after an insertion was inserted or was there before. -/
theorem mem_of_mem_insert (key : α → κ) {entry other : α} {entries : List α}
    (member : other ∈ insert key entry entries) : other = entry ∨ other ∈ entries := by
  induction entries with
  | nil => exact .inl (List.mem_singleton.mp member)
  | cons first rest ih =>
    rw [insert] at member
    split at member
    · exact List.mem_cons.mp member
    · split at member
      · exact (List.mem_cons.mp member).imp_right (List.mem_cons_of_mem _)
      · rcases List.mem_cons.mp member with rfl | later
        · exact .inr List.mem_cons_self
        · exact (ih later).imp_right (List.mem_cons_of_mem _)

/-- An insertion keeps a list ascending. -/
theorem pairwise_insert [LE κ] [Std.IsLinearOrder κ] [Std.LawfulOrderLT κ] (key : α → κ)
    (entry : α) {entries : List α} (ascending : entries.Pairwise fun a b => key a < key b) :
    (insert key entry entries).Pairwise fun a b => key a < key b := by
  induction entries with
  | nil => exact List.pairwise_singleton _ _
  | cons first rest ih =>
    obtain ⟨firstLeast, restAscending⟩ := List.pairwise_cons.mp ascending
    rw [insert]
    split
    · rename_i before
      refine List.pairwise_cons.mpr ⟨?_, ascending⟩
      intro other member
      rcases List.mem_cons.mp member with rfl | later
      · exact before
      · exact Std.lt_trans before (firstLeast other later)
    · rename_i notBefore
      split
      · rename_i same
        exact List.pairwise_cons.mpr
          ⟨fun other later => same ▸ firstLeast other later, restAscending⟩
      · rename_i different
        refine List.pairwise_cons.mpr ⟨?_, ih restAscending⟩
        intro other member
        rcases mem_of_mem_insert key member with rfl | later
        · exact Std.lt_of_le_of_ne (Std.not_lt.mp notBefore) fun same => different same.symm
        · exact firstLeast other later

end RobotBlocks.Ascending
