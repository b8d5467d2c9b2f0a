/-
**Claiming rows of a table.**

A worker takes some of the rows it is looking for, in an order and up to a limit, without the rows
another transaction has locked, and writes the rows it has taken.

* `Table.pick`: the rows that are taken.
* `Table.modifyEach`: a write of every row that is taken.
* `Table.find_modifyEach_taken`, `Table.find_modifyEach_left`: reading after it.
* `Table.mem_pick_of_fewer`: who is taken is taken too where fewer rows are wanted.
-/

import Mathlib.Data.List.Sort
import NewsCollect.Library.Table

namespace NewsCollect.Table

variable {K Row : Type} [DecidableEq K] (key : Row → K)

/-- The rows that are wanted and not locked, in order, and no more than a limit of them. -/
def pick (wanted : Row → Bool) (precedes : Row → Row → Bool) (limit : ℕ) (locked : List K)
    (rows : List Row) : List Row :=
  (((rows.filter wanted).insertionSort (precedes · ·)).filter fun row => key row ∉ locked).take limit

/-- Change the rows with one of these keys. -/
def modifyEach (rows : List Row) (ks : List K) (change : Row → Row) : List Row :=
  rows.map fun row => if key row ∈ ks then change row else row

variable {key} {wanted : Row → Bool} {precedes : Row → Row → Bool} {limit : ℕ} {locked : List K}
  {rows : List Row} {row : Row} {change : Row → Row} {k : K} {ks : List K}

theorem mem_pick (taken : row ∈ pick key wanted precedes limit locked rows) :
    row ∈ rows ∧ wanted row = true := by
  have sorted := List.mem_of_mem_filter (List.mem_of_mem_take taken)
  exact List.mem_filter.1 ((List.mem_insertionSort _).1 sorted)

theorem pick_nodup (distinct : (rows.map key).Nodup) :
    ((pick key wanted precedes limit locked rows).map key).Nodup := by
  have filtered : ((rows.filter wanted).map key).Nodup :=
    distinct.sublist (List.filter_sublist.map _)
  have sorted : (((rows.filter wanted).insertionSort (precedes · ·)).map key).Nodup :=
    ((List.perm_insertionSort _ _).map _).nodup_iff.2 filtered
  exact sorted.sublist (((List.take_sublist _ _).trans List.filter_sublist).map _)

theorem find_modifyEach (keeps : ∀ row, key (change row) = key row) :
    find key (modifyEach key rows ks change) k =
      (find key rows k).map fun row => if key row ∈ ks then change row else row := by
  refine find_map ?_ rows k
  intro row
  split
  · exact keeps row
  · rfl

/-- A row that is taken is changed. -/
theorem find_modifyEach_taken (keeps : ∀ row, key (change row) = key row)
    (found : find key rows k = some row) (taken : k ∈ ks) :
    find key (modifyEach key rows ks change) k = some (change row) := by
  rw [find_modifyEach keeps, found, Option.map_some, if_pos]
  rwa [key_of_find _ found]

/-- A row that is left stays as it is. -/
theorem find_modifyEach_left (keeps : ∀ row, key (change row) = key row) (left : k ∉ ks) :
    find key (modifyEach key rows ks change) k = find key rows k := by
  rw [find_modifyEach keeps]
  cases found : find key rows k with
  | none => rfl
  | some row =>
      rw [Option.map_some, if_neg]
      rwa [key_of_find _ found]

theorem map_key_modifyEach (keeps : ∀ row, key (change row) = key row) :
    (modifyEach key rows ks change).map key = rows.map key := by
  rw [modifyEach, List.map_map]
  refine List.map_congr_left fun row _ => ?_
  dsimp only [Function.comp_apply]
  split
  · exact keeps row
  · rfl

theorem mem_modifyEach :
    row ∈ modifyEach key rows ks change ↔
      ∃ old ∈ rows, row = if key old ∈ ks then change old else old := by
  simp [modifyEach, eq_comm]

/-- What has been picked of rows with distinct keys is changed because it was wanted. -/
theorem wanted_of_mem_pick (distinct : (rows.map key).Nodup) {old : Row} (member : old ∈ rows)
    (taken : key old ∈ (pick key wanted precedes limit locked rows).map key) :
    wanted old = true := by
  obtain ⟨other, picked, same⟩ := List.mem_map.1 taken
  obtain ⟨present, wants⟩ := mem_pick picked
  obtain rfl := List.inj_on_of_nodup_map distinct present member same
  exact wants

/-! ### Where nothing is locked -/

theorem pick_free :
    pick key wanted precedes limit [] rows =
      ((rows.filter wanted).insertionSort (precedes · ·)).take limit := by
  rw [pick, List.filter_eq_self.2 fun row _ => decide_eq_true List.not_mem_nil]

theorem length_pick :
    (pick key wanted precedes limit [] rows).length =
      min limit (rows.countP wanted) := by
  rw [pick_free, List.length_take, List.length_insertionSort, List.countP_eq_length_filter]

/-- A pick that is not full has taken all that is wanted. -/
theorem mem_pick_of_lt (short : (pick key wanted precedes limit [] rows).length < limit)
    (member : row ∈ rows) (wants : wanted row = true) :
    row ∈ pick key wanted precedes limit [] rows := by
  rw [length_pick] at short
  rw [pick_free, List.take_of_length_le]
  · exact (List.mem_insertionSort _).2 (List.mem_filter.2 ⟨member, wants⟩)
  · rw [List.length_insertionSort, ← List.countP_eq_length_filter]
    omega

/-- What is picked is picked too where less is wanted, if it still is. -/
theorem mem_pick_of_fewer {α : Type} [LinearOrder α] (rank : Row → α)
    (ordered : ∀ left right, precedes left right = true ↔ rank left ≤ rank right)
    (apart : ∀ left ∈ rows, ∀ right ∈ rows, rank left = rank right → left = right)
    {wants : Row → Bool} (fewer : ∀ row ∈ rows, wants row = true → wanted row = true)
    (taken : row ∈ pick key wanted precedes limit [] rows) (still : wants row = true) :
    row ∈ pick key wants precedes limit [] rows := by
  rw [pick_free] at taken ⊢
  have : Std.Total fun left right => precedes left right = true :=
    ⟨fun left right => by
      rw [ordered, ordered]
      exact le_total ..⟩
  have : IsTrans Row fun left right => precedes left right = true :=
    ⟨fun left middle right => by
      rw [ordered, ordered, ordered]
      exact le_trans⟩
  have same : (rows.filter wants).insertionSort (precedes · ·) =
      ((rows.filter wanted).insertionSort (precedes · ·)).filter wants := by
    refine List.Perm.eq_of_pairwise (fun left right here there before after => ?_)
      (List.pairwise_insertionSort _ _) ((List.pairwise_insertionSort _ _).filter _) ?_
    · have inside := (List.mem_filter.1 ((List.mem_insertionSort _).1 here)).1
      have inside' := (List.mem_filter.1 ((List.mem_insertionSort _).1
        (List.mem_filter.1 there).1)).1
      exact apart left inside right inside'
        (le_antisymm ((ordered ..).1 before) ((ordered ..).1 after))
    · refine (List.perm_insertionSort _ _).trans
        (List.Perm.trans ?_ ((List.perm_insertionSort _ _).symm.filter _))
      rw [List.filter_filter]
      refine List.Perm.of_eq (List.filter_congr fun other member => ?_)
      by_cases wanting : wants other = true
      · rw [wanting, fewer other member wanting, Bool.and_true]
      · rw [Bool.not_eq_true] at wanting
        rw [wanting, Bool.false_and]
  rw [same]
  generalize (rows.filter wanted).insertionSort (precedes · ·) = sorted at taken ⊢
  -- those of the first that are still wanted are among the first of the wanted
  have split := congrArg (List.filter wants) (List.take_append_drop limit sorted)
  have short : ((sorted.take limit).filter wants).length ≤ limit :=
    (List.length_filter_le _ _).trans (List.length_take_le _ _)
  rw [← split, List.filter_append, List.take_append, List.take_of_length_le short]
  exact List.mem_append_left _ (List.mem_filter.2 ⟨taken, still⟩)

omit [DecidableEq K] in
/-- What is left of some, when others of them are gone. -/
theorem countP_add_le {left taken : List Row} (distinct : (rows.map key).Nodup)
    (kept : left.Sublist rows) {wants : Row → Bool}
    (fewer : ∀ row ∈ left, wants row = true → wanted row = true)
    (member : ∀ row ∈ taken, row ∈ rows ∧ wanted row = true) (once : (taken.map key).Nodup)
    (gone : ∀ row ∈ left, row ∈ taken → wants row = false) :
    left.countP wants + taken.length ≤ rows.countP wanted := by
  have whole : rows.Nodup := distinct.of_map key
  rw [List.countP_eq_length_filter, List.countP_eq_length_filter, ← List.length_append]
  refine (List.subperm_of_subset ?_ ?_).length_le
  · refine List.nodup_append.2 ⟨(whole.sublist kept).filter _, once.of_map key, ?_⟩
    rintro row remains other took rfl
    obtain ⟨here, wanting⟩ := List.mem_filter.1 remains
    rw [gone row here took] at wanting
    cases wanting
  · intro row either
    rcases List.mem_append.1 either with remains | took
    · obtain ⟨here, wanting⟩ := List.mem_filter.1 remains
      exact List.mem_filter.2 ⟨kept.subset here, fewer row here wanting⟩
    · exact List.mem_filter.2 (member row took)

end NewsCollect.Table
