/-
**The first of each key.**

A list is reduced to the first item of each key. What is behind a part of the list adds to it only
what has a new key, so that a list may be reduced part by part.

* `firsts`: the first items, in order.
* `firsts_append`, `firsts_append_congr`: a list in two parts.
* `firsts_of_nodup`: a list with distinct keys stays as it is.
* `firsts_filter`: the first of what is wanted.
-/

import Mathlib.Data.List.Nodup

namespace NewsCollect.Firsts

variable {α κ : Type} [DecidableEq κ] (key : α → κ)

/-- The items whose key is not one of these. -/
def fresh (held : List κ) (items : List α) : List α := items.filter fun item => key item ∉ held

/-- The first item of each key. -/
def firsts : List α → List α
  | [] => []
  | item :: items => item :: fresh key [key item] (firsts items)

variable {key} {held held' : List κ} {items first second : List α} {item : α}

@[simp] theorem firsts_nil : firsts key [] = [] := rfl

theorem firsts_cons : firsts key (item :: items) = item :: fresh key [key item] (firsts key items) :=
  rfl

@[simp] theorem fresh_nil : fresh key held [] = [] := rfl

@[simp] theorem fresh_none : fresh key [] items = items := by
  simp [fresh]

theorem fresh_append :
    fresh key held (first ++ second) = fresh key held first ++ fresh key held second :=
  List.filter_append _ _

theorem fresh_fresh : fresh key held (fresh key held' items) = fresh key (held ++ held') items := by
  rw [fresh, fresh, fresh, List.filter_filter]
  refine List.filter_congr fun item _ => ?_
  simp [not_or]

theorem mem_fresh : item ∈ fresh key held items ↔ item ∈ items ∧ key item ∉ held := by
  simp [fresh]

theorem fresh_congr (same : ∀ k, k ∈ held ↔ k ∈ held') :
    fresh key held items = fresh key held' items := by
  refine List.filter_congr fun item _ => ?_
  simp [same]

/-- Nothing is left out for keys that no item has. -/
theorem fresh_of_apart (apart : ∀ item ∈ items, key item ∉ held) : fresh key held items = items :=
  List.filter_eq_self.2 fun item member => decide_eq_true (apart item member)

/-- The keys are those of the list. -/
theorem mem_map_firsts {k : κ} : k ∈ (firsts key items).map key ↔ k ∈ items.map key := by
  induction items with
  | nil => rfl
  | cons item items ih =>
      simp only [firsts_cons, List.map_cons, List.mem_cons]
      by_cases same : k = key item
      · simp [same]
      · simp only [same, false_or, ← ih, List.mem_map, mem_fresh]
        constructor
        · rintro ⟨other, ⟨member, -⟩, rfl⟩
          exact ⟨other, member, rfl⟩
        · rintro ⟨other, member, rfl⟩
          exact ⟨other, ⟨member, by simpa using same⟩, rfl⟩

theorem firsts_sublist : (firsts key items).Sublist items := by
  induction items with
  | nil => exact .slnil
  | cons item items ih => exact (List.filter_sublist.trans ih).cons_cons item

theorem mem_of_mem_firsts (member : item ∈ firsts key items) : item ∈ items :=
  firsts_sublist.subset member

/-- First items have distinct keys. -/
theorem firsts_nodup : ((firsts key items).map key).Nodup := by
  induction items with
  | nil => exact List.nodup_nil
  | cons item items ih =>
      rw [firsts_cons, List.map_cons, List.nodup_cons]
      refine ⟨?_, ih.sublist (List.filter_sublist.map _)⟩
      intro member
      obtain ⟨other, inside, same⟩ := List.mem_map.1 member
      exact (mem_fresh.1 inside).2 (List.mem_singleton.2 same)

/-- A list with distinct keys stays as it is. -/
theorem firsts_of_nodup (distinct : (items.map key).Nodup) : firsts key items = items := by
  induction items with
  | nil => rfl
  | cons item items ih =>
      rw [List.map_cons, List.nodup_cons] at distinct
      rw [firsts_cons, ih distinct.2, fresh_of_apart]
      intro other member same
      exact distinct.1 (List.mem_singleton.1 same ▸ List.mem_map_of_mem member)

/-- **A list in two parts**: the second adds its new keys. -/
theorem firsts_append :
    firsts key (first ++ second) =
      firsts key first ++ fresh key (first.map key) (firsts key second) := by
  induction first with
  | nil => simp
  | cons item items ih =>
      rw [List.cons_append, firsts_cons, firsts_cons, ih, fresh_append, fresh_fresh, List.map_cons,
        List.cons_append]
      rfl

/-- **Lists with the same first items** may stand for each other, in every part of a list. -/
theorem firsts_append_congr {first' second' : List α} (front : firsts key first = firsts key first')
    (back : firsts key second = firsts key second') :
    firsts key (first ++ second) = firsts key (first' ++ second') := by
  have keys : ∀ k, k ∈ first.map key ↔ k ∈ first'.map key := by
    intro k
    rw [← mem_map_firsts, front, mem_map_firsts]
  rw [firsts_append, firsts_append, front, back, fresh_congr keys]

/-- Where items of one key are all wanted or none of them is, first items and wanted items are taken in
any order. -/
theorem firsts_filter {wanted : α → Bool}
    (alike : ∀ item ∈ items, ∀ other ∈ items, key item = key other → wanted item = wanted other) :
    firsts key (items.filter wanted) = (firsts key items).filter wanted := by
  induction items with
  | nil => rfl
  | cons item items ih =>
      have rest := ih fun item member other member' =>
        alike item (List.mem_cons_of_mem _ member) other (List.mem_cons_of_mem _ member')
      have swap : (fresh key [key item] (firsts key items)).filter wanted =
          fresh key [key item] ((firsts key items).filter wanted) := by
        rw [fresh, fresh, List.filter_filter, List.filter_filter]
        exact List.filter_congr fun other _ => Bool.and_comm _ _
      by_cases takes : wanted item = true
      · rw [List.filter_cons_of_pos takes, firsts_cons, firsts_cons, List.filter_cons_of_pos takes,
          rest, swap]
      · rw [List.filter_cons_of_neg takes, firsts_cons, List.filter_cons_of_neg takes, rest, swap]
        refine (fresh_of_apart fun other member same => takes ?_).symm
        have inside := mem_of_mem_firsts (List.mem_of_mem_filter member)
        rw [alike item (List.mem_cons_self ..) other (List.mem_cons_of_mem _ inside)
          (List.mem_singleton.1 same).symm]
        exact (List.mem_filter.1 member).2

theorem firsts_firsts : firsts key (firsts key items) = firsts key items :=
  firsts_of_nodup firsts_nodup

end NewsCollect.Firsts
