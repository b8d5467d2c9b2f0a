/-
**The table of the notifications.**

The identifiers are given by the database, and the key of a notification is unique: a second row of
the same key is not inserted. Both are fields of the table, so that there is no other.

* `Outbox.insert`: a new row, unless its key is taken.
* `Outbox.change`: some of the rows are changed, but neither their identifiers nor their keys.
-/

import NewsCollect.Notifications.Delivery

namespace NewsCollect.Notifications

open Collection (Uuid Supply)

/-- **The notifications**, with the identifiers that have been given. -/
structure Outbox where
  rows : List Notification
  issued : Nat
  supply : Supply
  distinct : (rows.map Notification.id).Nodup
  unique : (rows.map Notification.dedupKey).Nodup
  given : ∀ row ∈ rows, ∃ n < issued, supply.id n = row.id

namespace Outbox

variable (box : Outbox)

def notification (id : Uuid) : Option Notification := Table.find Notification.id box.rows id

/-- The identifier of the next row. -/
def fresh : Uuid := box.supply.id box.issued

/-- There is a row of this key. -/
def taken (dedupKey : String) : Bool := box.rows.any (·.dedupKey == dedupKey)

variable {box}

theorem taken_iff {dedupKey : String} :
    box.taken dedupKey = true ↔ dedupKey ∈ box.rows.map Notification.dedupKey := by
  rw [taken, List.any_eq_true, List.mem_map]
  exact exists_congr fun row => and_congr_right' beq_iff_eq

theorem ne_fresh {row : Notification} (member : row ∈ box.rows) : row.id ≠ box.fresh := by
  obtain ⟨n, below, named⟩ := box.given row member
  intro same
  exact Nat.ne_of_lt below (box.supply.injective (named.trans same))

theorem notification_fresh : box.notification box.fresh = none :=
  (Table.find_eq_none Notification.id).2 fun _ member => ne_fresh member

variable (box)

/-- A new row, under a new identifier. -/
def add (row : Notification) (named : row.id = box.fresh) (free : box.taken row.dedupKey = false) :
    Outbox where
  rows := box.rows ++ [row]
  issued := box.issued + 1
  supply := box.supply
  distinct := Table.nodup_append Notification.id box.distinct (by
    rw [named]
    exact notification_fresh)
  unique := by
    rw [List.map_append, List.nodup_append]
    refine ⟨box.unique, List.nodup_singleton _, fun key member other single same => ?_⟩
    obtain rfl := List.mem_singleton.1 single
    obtain rfl := same
    exact Bool.false_ne_true (free.symm.trans (taken_iff.2 member))
  given := by
    intro other member
    rcases List.mem_append.1 member with old | new
    · obtain ⟨n, below, same⟩ := box.given other old
      exact ⟨n, Nat.lt_succ_of_lt below, same⟩
    · obtain rfl := List.mem_singleton.1 new
      exact ⟨box.issued, Nat.lt_succ_self _, named.symm⟩

/-- The row of an intent of an item of a provider, in this status. -/
def intentRow (status : NotificationStatus) (now : Int) (provider : String) (contentItemId : Uuid) :
    Notification :=
  { pendingRow now box.fresh contentItemId provider with status := status }

/-- `on_conflict_do_nothing`: a row for an item, unless there is one of its key. -/
def insert (status : NotificationStatus) (now : Int) (provider : String) (contentItemId : Uuid) :
    Option Uuid × Outbox :=
  if free : box.taken (dedupKey provider contentItemId) = false then
    (some box.fresh, box.add (box.intentRow status now provider contentItemId) rfl free)
  else (none, box)

/-- Change the rows with one of these identifiers. -/
def change (ids : List Uuid) (change : Notification → Notification)
    (keeps : ∀ row, (change row).id = row.id ∧ (change row).dedupKey = row.dedupKey) : Outbox where
  rows := Table.modifyEach Notification.id box.rows ids change
  issued := box.issued
  supply := box.supply
  distinct := by
    rw [Table.map_key_modifyEach fun row => (keeps row).1]
    exact box.distinct
  unique := by
    have same : (Table.modifyEach Notification.id box.rows ids change).map Notification.dedupKey =
        box.rows.map Notification.dedupKey := by
      rw [Table.modifyEach, List.map_map]
      refine List.map_congr_left fun row _ => ?_
      dsimp only [Function.comp_apply]
      split
      · exact (keeps row).2
      · rfl
    rw [same]
    exact box.unique
  given := by
    intro row member
    obtain ⟨old, present, rfl⟩ := Table.mem_modifyEach.1 member
    obtain ⟨n, below, same⟩ := box.given old present
    refine ⟨n, below, same.trans ?_⟩
    split
    · exact (keeps old).1.symm
    · rfl

end Outbox

end NewsCollect.Notifications
