/-
**What a list gives in every order.**

Some functions of a list do not depend on the order of its elements: the one element of a list that
has one, the row with a key that no other row has, the sorted list where the order is strict on the
elements. A loop with a step that may fail gives the same values in another order, and fails in every
order where it fails in one; which failure it is depends on the order unless all are the same.

* `only_perm`, `find_perm`, `insertionSort_perm`: functions that do not depend on the order.
* `mapM_perm`: a loop whose steps fail in one way.
-/

import Mathlib.Data.List.Sort
import NewsCollect.Library.Table

namespace NewsCollect.Unordered

variable {α β ε K : Type}

/-- The one element of a list that has one. -/
def only : List α → Option α
  | [value] => some value
  | _ => none

theorem only_eq_some {items : List α} {value : α} : only items = some value ↔ items = [value] := by
  match items with
  | [] => simp [only]
  | [_] => simp [only]
  | _ :: _ :: _ => simp [only]

theorem only_perm {first second : List α} (same : first.Perm second) : only first = only second := by
  ext value
  rw [only_eq_some, only_eq_some]
  constructor
  · rintro rfl
    exact List.perm_singleton.1 same.symm
  · rintro rfl
    exact List.perm_singleton.1 same

/-- Where one element counts, two that count are the same. -/
theorem eq_of_countP_eq_one {counts : α → Bool} {items : List α} (once : items.countP counts = 1)
    {left right : α} (leftMem : left ∈ items) (rightMem : right ∈ items)
    (leftCounts : counts left = true) (rightCounts : counts right = true) : left = right := by
  rw [List.countP_eq_length_filter, List.length_eq_one_iff] at once
  obtain ⟨single, filtered⟩ := once
  have inLeft : left ∈ items.filter counts := List.mem_filter.2 ⟨leftMem, leftCounts⟩
  have inRight : right ∈ items.filter counts := List.mem_filter.2 ⟨rightMem, rightCounts⟩
  rw [filtered, List.mem_singleton] at inLeft inRight
  rw [inLeft, inRight]

theorem isEmpty_perm {first second : List α} (same : first.Perm second) :
    first.isEmpty = second.isEmpty := by
  rw [Bool.eq_iff_iff, List.isEmpty_iff, List.isEmpty_iff]
  exact ⟨fun empty => List.nil_perm.1 (empty ▸ same), fun empty => List.perm_nil.1 (empty ▸ same)⟩

/-! ### Rows with a key -/

section Keys

variable [DecidableEq K] {key : α → K}

/-- Where no key occurs twice, the row with a key is the same in every order. -/
theorem find_perm {first second : List α} (same : first.Perm second)
    (distinct : (first.map key).Nodup) (k : K) :
    Table.find key first k = Table.find key second k := by
  cases found : Table.find key second k with
  | none =>
      rw [Table.find_eq_none] at found ⊢
      exact fun row member => found row (same.mem_iff.1 member)
  | some row =>
      have member := same.mem_iff.2 (Table.mem_of_find key found)
      rw [← Table.key_of_find key found]
      exact Table.find_of_mem key distinct member

/-- A row that a selection by the key takes is found in it. -/
theorem find_filter {rows : List α} {chosen : K → Bool} {k : K} (taken : chosen k = true) :
    Table.find key (rows.filter fun row => chosen (key row)) k = Table.find key rows k := by
  induction rows with
  | nil => rfl
  | cons row rows ih =>
      rw [Table.find_cons]
      by_cases same : key row = k
      · rw [List.filter_cons, if_pos (by rw [same, taken]), Table.find_cons, if_pos same, if_pos same]
      · rw [if_neg same, List.filter_cons]
        by_cases kept : chosen (key row) = true
        · rw [if_pos kept, Table.find_cons, if_neg same, ih]
        · rw [if_neg kept, ih]

/-- A row of a table is found among the rows that are loaded, in the order in which they arrive. -/
theorem find_loaded (chosen : K → Bool) {rows loaded : List α}
    (distinct : (rows.map key).Nodup)
    (same : loaded.Perm (rows.filter fun row => chosen (key row))) {k : K} (taken : chosen k = true) :
    Table.find key loaded k = Table.find key rows k := by
  have kept : ((rows.filter fun row => chosen (key row)).map key).Nodup :=
    distinct.sublist (List.filter_sublist.map key)
  rw [← find_perm same.symm kept k, find_filter taken]

end Keys

/-! ### Sorting -/

/-- Where the order is strict on the elements, a sorted list is the same for every order. -/
theorem insertionSort_perm {r : α → α → Prop} [DecidableRel r] [Std.Total r] [IsTrans α r]
    {first second : List α} (same : first.Perm second)
    (strict : ∀ left ∈ first, ∀ right ∈ first, r left right → r right left → left = right) :
    first.insertionSort r = second.insertionSort r := by
  have sorted : (first.insertionSort r).Perm (second.insertionSort r) :=
    (List.perm_insertionSort r first).trans (same.trans (List.perm_insertionSort r second).symm)
  refine sorted.eq_of_pairwise ?_ (List.pairwise_insertionSort r first)
    (List.pairwise_insertionSort r second)
  intro left right leftMem rightMem before after
  exact strict left ((List.perm_insertionSort r first).mem_iff.1 leftMem) right
    (same.mem_iff.2 ((List.perm_insertionSort r second).mem_iff.1 rightMem)) before after

/-! ### Loops with steps that may fail -/

section Loops

variable {step : α → Except ε β}

theorem mapM_cons_ok {item : α} {items : List α} {made : List β} :
    (item :: items).mapM step = .ok made ↔
      ∃ value values, step item = .ok value ∧ items.mapM step = .ok values ∧
        made = value :: values := by
  rw [List.mapM_cons]
  cases step item with
  | error raised => simp [Bind.bind, Except.bind]
  | ok value =>
      cases items.mapM step with
      | error raised => simp [Bind.bind, Except.bind]
      | ok values => simp [Bind.bind, Except.bind, pure, Except.pure, eq_comm]

theorem mapM_cons_error {item : α} {items : List α} {raised : ε} :
    (item :: items).mapM step = .error raised ↔
      step item = .error raised ∨
        (∃ value, step item = .ok value) ∧ items.mapM step = .error raised := by
  rw [List.mapM_cons]
  cases step item with
  | error raised => simp [Bind.bind, Except.bind]
  | ok value =>
      cases items.mapM step with
      | error raised => simp [Bind.bind, Except.bind]
      | ok values => simp [Bind.bind, Except.bind, pure, Except.pure]

/-- A loop fails as one of its steps does. -/
theorem exists_of_mapM_error {items : List α} {raised : ε} (failed : items.mapM step = .error raised) :
    ∃ item ∈ items, step item = .error raised := by
  induction items with
  | nil => cases failed
  | cons item items ih =>
      rcases mapM_cons_error.1 failed with here | ⟨-, later⟩
      · exact ⟨item, List.mem_cons_self .., here⟩
      · obtain ⟨other, member, fails⟩ := ih later
        exact ⟨other, List.mem_cons_of_mem _ member, fails⟩

/-- A loop that does not fail has the values of its steps. -/
theorem mapM_ok_mem {items : List α} {made : List β} (ran : items.mapM step = .ok made) {item : α}
    (member : item ∈ items) : ∃ value ∈ made, step item = .ok value := by
  induction items generalizing made with
  | nil => simp at member
  | cons other items ih =>
      obtain ⟨value, values, here, later, rfl⟩ := mapM_cons_ok.1 ran
      rcases List.mem_cons.1 member with rfl | inside
      · exact ⟨value, List.mem_cons_self .., here⟩
      · obtain ⟨found, present, made⟩ := ih later inside
        exact ⟨found, List.mem_cons_of_mem _ present, made⟩

theorem exists_of_mapM_ok {items : List α} {made : List β} (ran : items.mapM step = .ok made) {value : β}
    (member : value ∈ made) : ∃ item ∈ items, step item = .ok value := by
  induction items generalizing made with
  | nil =>
      obtain rfl : [] = made := by simpa [pure, Except.pure] using ran
      simp at member
  | cons other items ih =>
      obtain ⟨first, values, here, later, rfl⟩ := mapM_cons_ok.1 ran
      rcases List.mem_cons.1 member with rfl | inside
      · exact ⟨other, List.mem_cons_self .., here⟩
      · obtain ⟨found, present, made⟩ := ih later inside
        exact ⟨found, List.mem_cons_of_mem _ present, made⟩

/-- A loop whose steps do not fail does not fail, and has the values of its steps in their order. -/
theorem mapM_ok_forall₂ {items : List α} (every : ∀ item ∈ items, ∃ value, step item = .ok value) :
    ∃ made, items.mapM step = .ok made ∧
      List.Forall₂ (fun item value => step item = .ok value) items made := by
  induction items with
  | nil => exact ⟨[], rfl, .nil⟩
  | cons item items ih =>
      obtain ⟨value, here⟩ := every item List.mem_cons_self
      obtain ⟨values, later, related⟩ := ih fun other member => every other (.tail _ member)
      exact ⟨value :: values, mapM_cons_ok.2 ⟨value, values, here, later, rfl⟩, .cons here related⟩

/-- A loop that does not fail does not fail in another order, and has the same values. -/
theorem mapM_perm_ok {first second : List α} (same : first.Perm second) {made : List β}
    (ran : first.mapM step = .ok made) :
    ∃ others, second.mapM step = .ok others ∧ made.Perm others := by
  induction same generalizing made with
  | nil => exact ⟨made, ran, .refl _⟩
  | cons item _ ih =>
      obtain ⟨value, values, here, later, rfl⟩ := mapM_cons_ok.1 ran
      obtain ⟨others, done, perm⟩ := ih later
      exact ⟨value :: others, mapM_cons_ok.2 ⟨value, others, here, done, rfl⟩, perm.cons value⟩
  | swap item other items =>
      obtain ⟨value, values, here, later, rfl⟩ := mapM_cons_ok.1 ran
      obtain ⟨next, rest, after, last, rfl⟩ := mapM_cons_ok.1 later
      exact ⟨next :: value :: rest,
        mapM_cons_ok.2 ⟨next, _, after, mapM_cons_ok.2 ⟨value, rest, here, last, rfl⟩, rfl⟩,
        .swap next value rest⟩
  | trans _ _ before after =>
      obtain ⟨middle, done, perm⟩ := before ran
      obtain ⟨last, finished, rest⟩ := after done
      exact ⟨last, finished, perm.trans rest⟩

/-- **A loop whose steps fail in one way** ends in the same way in every order. -/
theorem mapM_perm {first second : List α} (same : first.Perm second)
    (agree : ∀ left ∈ first, ∀ right ∈ first, ∀ raised other, step left = .error raised →
      step right = .error other → raised = other) :
    (∃ made others, first.mapM step = .ok made ∧ second.mapM step = .ok others ∧
      made.Perm others) ∨
    ∃ raised, first.mapM step = .error raised ∧ second.mapM step = .error raised := by
  cases ran : first.mapM step with
  | ok made =>
      obtain ⟨others, done, perm⟩ := mapM_perm_ok same ran
      exact .inl ⟨made, others, rfl, done, perm⟩
  | error raised =>
      refine .inr ⟨raised, rfl, ?_⟩
      cases done : second.mapM step with
      | ok others =>
          obtain ⟨made, held, -⟩ := mapM_perm_ok same.symm done
          exact absurd (held.symm.trans ran) nofun
      | error other =>
          obtain ⟨left, leftMem, leftFails⟩ := exists_of_mapM_error ran
          obtain ⟨right, rightMem, rightFails⟩ := exists_of_mapM_error done
          rw [agree left leftMem right (same.mem_iff.2 rightMem) raised other leftFails rightFails]

end Loops

end NewsCollect.Unordered
