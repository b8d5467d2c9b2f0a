/-
**A store whose keys expire.**

Every value is written with an instant after which it is no longer there. Reading takes the present
instant, so that the passing of time needs no step of its own.

* `Expiring.get_set_same`, `Expiring.get_set_ne`: reading after a write.
* `Expiring.setIfAbsent`: the write behind locks and markers.
* `Expiring.compareDelete`: deletion by the holder of the value only.
* `Expiring.get_of_le`: time passing makes no key appear.
-/

import Mathlib.Logic.Function.Basic
import Mathlib.Order.Basic

namespace NewsCollect.Expiring

/-- A value and the instant it expires at. -/
structure Entry (V : Type) where
  value : V
  expiresAt : Int
deriving DecidableEq

/-- A store with expiring keys. -/
abbrev Store (K V : Type) : Type := K → Option (Entry V)

variable {K V : Type} [DecidableEq K] [DecidableEq V]

/-- The value of a key that has not expired. -/
def get (store : Store K V) (now : Int) (key : K) : Option V :=
  (store key).bind fun entry => if now < entry.expiresAt then some entry.value else none

/-- Write a value for this long. -/
def set (store : Store K V) (now : Int) (key : K) (value : V) (ttl : Int) : Store K V :=
  Function.update store key (some ⟨value, now + ttl⟩)

/-- Write a value unless the key has one, and tell whether it was written. -/
def setIfAbsent (store : Store K V) (now : Int) (key : K) (value : V) (ttl : Int) :
    Bool × Store K V :=
  if (get store now key).isSome then (false, store) else (true, set store now key value ttl)

/-- Delete a key. -/
def delete (store : Store K V) (key : K) : Store K V := Function.update store key none

/-- Delete the key if it has this value. -/
def compareDelete (store : Store K V) (now : Int) (key : K) (value : V) : Store K V :=
  if get store now key = some value then delete store key else store

/-- Prolong the key if it has this value, and tell whether it had. -/
def compareExpire (store : Store K V) (now : Int) (key : K) (value : V) (ttl : Int) :
    Bool × Store K V :=
  if get store now key = some value then (true, set store now key value ttl) else (false, store)

section Reading

attribute [local simp] get set delete

theorem get_set_same {store : Store K V} {now later : Int} {key : K} {value : V} {ttl : Int} :
    get (set store now key value ttl) later key =
      if later < now + ttl then some value else none := by
  simp

theorem get_set_ne {store : Store K V} {now later : Int} {key other : K} {value : V} {ttl : Int}
    (different : other ≠ key) :
    get (set store now key value ttl) later other = get store later other := by
  simp [Function.update_of_ne different]

@[simp] theorem get_delete_same (store : Store K V) (now : Int) (key : K) :
    get (delete store key) now key = none := by
  simp

theorem get_delete_ne {store : Store K V} {now : Int} {key other : K} (different : other ≠ key) :
    get (delete store key) now other = get store now other := by
  simp [Function.update_of_ne different]

end Reading

/-- The other keys keep their entries. -/
theorem setIfAbsent_ne {store : Store K V} {now : Int} {key other : K} {value : V} {ttl : Int}
    (different : other ≠ key) : (setIfAbsent store now key value ttl).2 other = store other := by
  unfold setIfAbsent
  split
  · rfl
  · exact Function.update_of_ne different ..

theorem get_setIfAbsent_ne {store : Store K V} {now later : Int} {key other : K} {value : V}
    {ttl : Int} (different : other ≠ key) :
    get (setIfAbsent store now key value ttl).2 later other = get store later other := by
  rw [get, setIfAbsent_ne different, get]

/-- Time passing makes no key appear. -/
theorem get_of_le {store : Store K V} {now later : Int} {key : K} {value : V} (passed : now ≤ later)
    (live : get store later key = some value) : get store now key = some value := by
  unfold get at live ⊢
  cases found : store key with
  | none => simp [found] at live
  | some entry =>
      simp only [found, Option.bind_some] at live ⊢
      split at live
      · next alive =>
        have earlier : now < entry.expiresAt := by omega
        simpa [earlier] using live
      · simp at live

end NewsCollect.Expiring
