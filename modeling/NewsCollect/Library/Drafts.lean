/-
**Rows that transactions write.**

A row that a transaction has inserted is not seen by the others until it is committed, and is gone if
its transaction is rolled back. A key is unique among all rows: an insertion under the key of a row
that is seen is not made, and one under the key of a row of another transaction in progress waits.

* `Drafts`: a table, with what the transactions in progress have written.
* `Drafts.insert`, `Drafts.commit`, `Drafts.rollback`: what a transaction does to it.
* `insert_cases`: what an insertion can do.
* `rollback_insert`: an insertion leaves nothing behind a rollback.
-/

import Mathlib.Data.List.Nodup
import Mathlib.Data.Nat.Notation

namespace NewsCollect.Drafting

/-- A row, who has inserted it if it is one of the transactions, and whether it is committed. -/
structure Draft (Row : Type) where
  row : Row
  author : Option ℕ
  committed : Bool

/-- **A table with a unique key.** -/
structure Drafts {Row K : Type} (key : Row → K) where
  all : List (Draft Row)
  distinct : (all.map fun draft => key draft.row).Nodup

namespace Drafts

variable {Row K : Type} {key : Row → K}

@[ext] theorem ext {table other : Drafts key} (same : table.all = other.all) : table = other := by
  cases table
  cases other
  obtain rfl := same
  rfl

section Operations

variable (table : Drafts key) (who : ℕ)

/-- A row that is committed, or is the transaction's own. -/
def visible (author : Option ℕ) (draft : Draft Row) : Bool :=
  draft.committed || draft.author == author

/-- The rows that a transaction sees. -/
def seen : List Row := (table.all.filter (visible (some who))).map Draft.row

/-- The rows that are committed. -/
def standing : List Row := (table.all.filter Draft.committed).map Draft.row

/-- A new row, under a key that no row has. -/
def add (draft : Draft Row) (free : ∀ other ∈ table.all, key other.row ≠ key draft.row) :
    Drafts key where
  all := table.all ++ [draft]
  distinct := by
    rw [List.map_append, List.nodup_append]
    refine ⟨table.distinct, List.nodup_singleton _, fun k member other single same => ?_⟩
    obtain ⟨held, present, rfl⟩ := List.mem_map.1 member
    obtain rfl := List.mem_singleton.1 single
    exact free held present same

/-- **An insertion**: whether it is made, and the table after it. It waits for another transaction
that has inserted the key. -/
def insert [DecidableEq K] (draft : Draft Row) : Option (Bool × Drafts key) :=
  if free : ∀ other ∈ table.all, key other.row ≠ key draft.row then
    some (true, table.add draft free)
  else if table.all.any fun other =>
      key other.row == key draft.row && visible draft.author other then some (false, table)
  else none

/-- A row of a transaction that is committed. -/
def settle (draft : Draft Row) : Draft Row :=
  if draft.author = some who then { draft with committed := true } else draft

@[simp] theorem settle_row {draft : Draft Row} : (settle who draft).row = draft.row := by
  unfold settle
  split
  · rfl
  · rfl

def commit : Drafts key where
  all := table.all.map (settle who)
  distinct := by
    rw [List.map_map]
    refine (List.map_congr_left fun draft _ => ?_) ▸ table.distinct
    exact (congrArg key (settle_row who)).symm

def rollback : Drafts key where
  all := table.all.filter fun draft => draft.committed || draft.author != some who
  distinct := table.distinct.sublist (List.filter_sublist.map _)

/-- The committed rows are changed, but not their keys. -/
def amend (change : Row → Row) (keeps : ∀ row, key (change row) = key row) : Drafts key where
  all := table.all.map fun draft =>
    if draft.committed then { draft with row := change draft.row } else draft
  distinct := by
    rw [List.map_map]
    refine (List.map_congr_left fun draft _ => ?_) ▸ table.distinct
    dsimp only [Function.comp_apply]
    split
    · exact (keeps draft.row).symm
    · rfl

end Operations

section Spec

variable {table after : Drafts key} {draft : Draft Row} {row : Row} {who other : ℕ} {made : Bool}

/-- **What an insertion can do**: it is made under a key that no row has, or there is a row of its key
that it sees. -/
theorem insert_cases [DecidableEq K] (inserted : table.insert draft = some (made, after)) :
    made = true ∧ (∀ other ∈ table.all, key other.row ≠ key draft.row) ∧
        after.all = table.all ++ [draft] ∨
      made = false ∧ after = table ∧
        ∃ other ∈ table.all, key other.row = key draft.row ∧ visible draft.author other = true := by
  unfold insert at inserted
  split at inserted
  · next free =>
    obtain ⟨rfl, rfl⟩ := Prod.ext_iff.1 (Option.some.inj inserted)
    exact .inl ⟨rfl, free, rfl⟩
  · split at inserted
    · next held =>
      obtain ⟨rfl, rfl⟩ := Prod.ext_iff.1 (Option.some.inj inserted)
      obtain ⟨other, member, both⟩ := List.any_eq_true.1 held
      obtain ⟨same, sees⟩ := Bool.and_eq_true_iff.1 both
      exact .inr ⟨rfl, rfl, other, member, eq_of_beq same, sees⟩
    · cases inserted

theorem mem_seen :
    row ∈ table.seen who ↔
      ∃ draft ∈ table.all, visible (some who) draft = true ∧ draft.row = row := by
  simp only [seen, List.mem_map, List.mem_filter, and_assoc]

theorem mem_commit :
    draft ∈ (table.commit who).all ↔ ∃ held ∈ table.all, settle who held = draft := List.mem_map

theorem mem_rollback :
    draft ∈ (table.rollback who).all ↔
      draft ∈ table.all ∧ (draft.committed = true ∨ draft.author ≠ some who) := by
  simp only [rollback, List.mem_filter, Bool.or_eq_true, bne_iff_ne, ne_eq]

@[simp] theorem settle_author : (settle who draft).author = draft.author := by
  unfold settle
  split
  · rfl
  · rfl

/-- A row that is in progress after a commit belongs to another transaction. -/
theorem of_settle_open (opened : (settle who draft).committed = false) :
    settle who draft = draft ∧ draft.author ≠ some who := by
  by_cases own : draft.author = some who
  · rw [settle, if_pos own] at opened
    cases opened
  · exact ⟨if_neg own, own⟩

/-- The rows of a table, in order. -/
theorem rows_commit : (table.commit who).all.map Draft.row = table.all.map Draft.row := by
  rw [commit, List.map_map]
  exact List.map_congr_left fun draft _ => settle_row who

theorem rows_rollback : ((table.rollback who).all.map Draft.row).Sublist (table.all.map Draft.row) :=
  List.filter_sublist.map _

/-- **An insertion leaves nothing behind a rollback.** -/
theorem rollback_insert [DecidableEq K] (own : draft.author = some who) (opened : draft.committed = false)
    (inserted : table.insert draft = some (made, after)) :
    after.rollback who = table.rollback who := by
  rcases insert_cases inserted with ⟨-, -, grown⟩ | ⟨-, rfl, -⟩
  · refine ext ?_
    change after.all.filter _ = table.all.filter _
    rw [grown, List.filter_append, List.filter_singleton, own, opened]
    simp
  · rfl

/-- A table where nothing is in progress. -/
def Calm (table : Drafts key) : Prop := ∀ draft ∈ table.all, draft.committed = true

/-- There is nothing to roll back. -/
theorem Calm.rollback (calm : table.Calm) : table.rollback who = table := by
  refine ext (List.filter_eq_self.2 fun draft member => ?_)
  rw [calm draft member, Bool.true_or]

theorem Calm.seen (calm : table.Calm) : table.seen who = table.all.map Draft.row := by
  refine congrArg (List.map Draft.row) (List.filter_eq_self.2 fun draft member => ?_)
  rw [visible, calm draft member, Bool.true_or]

theorem Calm.standing (calm : table.Calm) : table.standing = table.all.map Draft.row :=
  congrArg (List.map Draft.row) (List.filter_eq_self.2 calm)

end Spec

end Drafts

end NewsCollect.Drafting
