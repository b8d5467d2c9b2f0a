/-
**Tables of rows with a key.**

A table is a list of rows and a key is a function of a row. An update in place keeps the order of
the rows and every other row.

* `Table.find_modify_same`, `Table.find_modify_ne`: reading after an update in place.
* `Table.find_append`: reading after an insertion.
* `Table.find?_modify`: a selection by any condition the update does not affect.
-/

import Mathlib.Data.List.Find
import Mathlib.Data.List.Nodup

namespace NewsCollect.Table

variable {K Row : Type} [DecidableEq K] (key : Row → K)

/-- The first row with this key. -/
def find (rows : List Row) (k : K) : Option Row := rows.find? fun row => key row = k

/-- Change the rows with this key. -/
def modify (rows : List Row) (k : K) (change : Row → Row) : List Row :=
  rows.map fun row => if key row = k then change row else row

@[simp] theorem find_nil (k : K) : find key [] k = none := rfl

theorem find_cons (row : Row) (rows : List Row) (k : K) :
    find key (row :: rows) k = if key row = k then some row else find key rows k := by
  by_cases same : key row = k <;> simp [find, same]

theorem key_of_find {rows : List Row} {k : K} {row : Row} (found : find key rows k = some row) :
    key row = k := by
  simpa using List.find?_some found

theorem mem_of_find {rows : List Row} {k : K} {row : Row} (found : find key rows k = some row) :
    row ∈ rows :=
  List.mem_of_find?_eq_some found

theorem find_eq_none {rows : List Row} {k : K} :
    find key rows k = none ↔ ∀ row ∈ rows, key row ≠ k := by
  simp [find]

/-- Where no key occurs twice, a row is found by its key. -/
theorem find_of_mem {rows : List Row} (distinct : (rows.map key).Nodup) {row : Row}
    (member : row ∈ rows) : find key rows (key row) = some row := by
  induction rows with
  | nil => simp at member
  | cons first rows ih =>
      rw [List.map_cons, List.nodup_cons] at distinct
      rw [find_cons]
      rcases List.mem_cons.1 member with rfl | later
      · rw [if_pos rfl]
      · have different : key first ≠ key row := fun same =>
          distinct.1 (same ▸ List.mem_map_of_mem later)
        rw [if_neg different]
        exact ih distinct.2 later

/-- Where no key occurs twice, a key that occurs is found once. -/
theorem countP_of_mem {rows : List Row} (distinct : (rows.map key).Nodup) {row : Row}
    (member : row ∈ rows) : rows.countP (fun other => key other = key row) = 1 := by
  have once := List.count_eq_one_of_mem distinct (List.mem_map_of_mem (f := key) member)
  rwa [List.count, List.countP_map, ← List.countP_congr] at once
  intro other _
  simp

/-- A row inserted under a new key leaves every key once. -/
theorem nodup_append {rows : List Row} (distinct : (rows.map key).Nodup) {row : Row}
    (fresh : find key rows (key row) = none) : ((rows ++ [row]).map key).Nodup := by
  rw [List.map_append, List.nodup_append]
  refine ⟨distinct, by simp, ?_⟩
  intro first member second single same
  obtain ⟨other, present, rfl⟩ := List.mem_map.1 member
  obtain rfl : second = key row := by simpa using single
  exact (find_eq_none key).1 fresh other present same

variable {key}

theorem find_modify_same (change : Row → Row) (keeps : ∀ row, key (change row) = key row)
    (rows : List Row) (k : K) :
    find key (modify key rows k change) k = (find key rows k).map change := by
  induction rows with
  | nil => rfl
  | cons row rows ih =>
      simp only [modify, List.map_cons] at ih ⊢
      rw [find_cons, find_cons]
      by_cases same : key row = k
      · simp [same, keeps]
      · simp only [same, if_false]
        exact ih

theorem find_modify_ne (change : Row → Row) (keeps : ∀ row, key (change row) = key row)
    {rows : List Row} {k other : K} (different : other ≠ k) :
    find key (modify key rows k change) other = find key rows other := by
  induction rows with
  | nil => rfl
  | cons row rows ih =>
      simp only [modify, List.map_cons] at ih ⊢
      rw [find_cons, find_cons, ih]
      by_cases same : key row = k
      · simp only [same, if_true, keeps, different.symm, if_false]
      · simp [same]

/-- A row that is replaced under its key is found. -/
theorem find_replace_same {rows : List Row} {k : K} {row : Row} {change : Row → Row}
    (keeps : ∀ row, key row = k → key (change row) = k) (found : find key rows k = some row) :
    find key (modify key rows k change) k = some (change row) := by
  induction rows with
  | nil => simp at found
  | cons first rows ih =>
      rw [find_cons] at found
      simp only [modify, List.map_cons]
      rw [find_cons]
      by_cases same : key first = k
      · rw [if_pos same] at found
        obtain rfl := Option.some.inj found
        rw [if_pos same, if_pos (keeps first same)]
      · rw [if_neg same] at found
        rw [if_neg same, if_neg same]
        exact ih found

theorem find_replace_ne {rows : List Row} {k other : K} {change : Row → Row}
    (keeps : ∀ row, key row = k → key (change row) = k) (different : other ≠ k) :
    find key (modify key rows k change) other = find key rows other := by
  induction rows with
  | nil => rfl
  | cons first rows ih =>
      simp only [modify, List.map_cons] at ih ⊢
      rw [find_cons, find_cons, ih]
      by_cases same : key first = k
      · rw [if_pos same, if_neg (by rw [keeps first same]; exact different.symm),
          if_neg (by rw [same]; exact different.symm)]
      · rw [if_neg same]

theorem find_append (rows : List Row) (row : Row) (k : K) :
    find key (rows ++ [row]) k = (find key rows k).or (if key row = k then some row else none) := by
  induction rows with
  | nil => by_cases same : key row = k <;> simp [find, same]
  | cons first rows ih =>
      rw [List.cons_append, find_cons, find_cons, ih]
      by_cases same : key first = k <;> simp [same]

/-- An insertion leaves the rows with another key as they are. -/
theorem find_append_ne {rows : List Row} {row : Row} {k : K} (different : key row ≠ k) :
    find key (rows ++ [row]) k = find key rows k := by
  rw [find_append]
  cases find key rows k <;> simp [different]

/-- A row inserted under a new key is found. -/
theorem find_append_fresh {rows : List Row} {row : Row} (fresh : find key rows (key row) = none) :
    find key (rows ++ [row]) (key row) = some row := by
  rw [find_append, fresh]
  simp

/-- An update of every row keeps the keys where they are. -/
theorem find_map {change : Row → Row} (keeps : ∀ row, key (change row) = key row)
    (rows : List Row) (k : K) : find key (rows.map change) k = (find key rows k).map change := by
  induction rows with
  | nil => rfl
  | cons row rows ih =>
      rw [List.map_cons, find_cons, find_cons, keeps, ih]
      by_cases same : key row = k <;> simp [same]

/-- An insertion leaves the rows that are found as they are. -/
theorem find_append_of_some {rows : List Row} {row found : Row} {k : K}
    (held : find key rows k = some found) : find key (rows ++ [row]) k = some found := by
  rw [find_append, held, Option.some_or]

/-- A selection by any condition the update does not affect. -/
theorem find?_modify {rows : List Row} {k : K} {change : Row → Row} {chosen : Row → Bool}
    (same : ∀ row ∈ rows, key row = k → chosen (change row) = chosen row) :
    (modify key rows k change).find? chosen =
      (rows.find? chosen).map fun row => if key row = k then change row else row := by
  rw [modify, List.find?_map]
  refine congrArg (Option.map _) (List.find?_congr fun row member => ?_)
  by_cases here : key row = k
  · simpa [here] using same row member here
  · simp [here]

theorem mem_modify {rows : List Row} {k : K} {change : Row → Row} {row : Row} :
    row ∈ modify key rows k change ↔
      ∃ old ∈ rows, row = if key old = k then change old else old := by
  simp [modify, eq_comm]

/-- A row that did not count, and is changed: it counts if it counts now. -/
theorem countP_modify {rows : List Row} (distinct : (rows.map key).Nodup) {k : K} {row : Row}
    (found : find key rows k = some row) {change : Row → Row} {counts : Row → Bool}
    (before : counts row = false) :
    (modify key rows k change).countP counts =
      rows.countP counts + if counts (change row) then 1 else 0 := by
  induction rows with
  | nil => simp at found
  | cons first rows ih =>
      rw [List.map_cons, List.nodup_cons] at distinct
      rw [find_cons] at found
      simp only [modify, List.map_cons] at ih ⊢
      by_cases same : key first = k
      · rw [if_pos same] at found
        obtain rfl := Option.some.inj found
        have rest : rows.map (fun other => if key other = k then change other else other) = rows := by
          refine (List.map_congr_left fun other member => ?_).trans (List.map_id _)
          have different : key other ≠ k := fun equal =>
            distinct.1 (same.trans equal.symm ▸ List.mem_map_of_mem member)
          exact if_neg different
        rw [if_pos same, rest, List.countP_cons, List.countP_cons, before]
        simp
      · rw [if_neg same] at found
        rw [if_neg same, List.countP_cons, List.countP_cons, ih distinct.2 found]
        omega

theorem map_key_modify {change : Row → Row} (keeps : ∀ row, key (change row) = key row)
    (rows : List Row) (k : K) : (modify key rows k change).map key = rows.map key := by
  simp only [modify, List.map_map]
  refine List.map_congr_left fun row _ => ?_
  by_cases same : key row = k <;> simp [same, keeps]

end NewsCollect.Table
