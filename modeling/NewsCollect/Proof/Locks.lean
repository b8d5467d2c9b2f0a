/-
**Locks.**

A lock is a key that one worker has written with its own token. It is gained once, before the worker
has a run, and whoever holds it after a step held it before, or has just gained it.

* `Execution.Holds`: the token of the worker is in the key.
* `Executed.redis`, `happen_redis`: what a step may put into a key.
* `holds_before`: a worker with a run gains no lock.
-/

import NewsCollect.Proof.Steps

namespace NewsCollect.Collection

open Calendar Interleaving Providers

/-- The worker holds the lock of its target. -/
def Execution.Holds (execution : Execution) (state : Control) : Prop :=
  Expiring.get state.redis state.now execution.lockKey = some (.owner execution.owner)

instance (execution : Execution) (state : Control) : Decidable (execution.Holds state) :=
  inferInstanceAs (Decidable (_ = _))

/-- What an operation writes to Redis. -/
def Op.writes : Op → Key → Value → Prop
  | .setIfAbsent key value _, key', value' | .set key value _, key', value' =>
      key' = key ∧ value' = value
  | .mark _ identity _, key, value => key = .dispatch identity ∧ value = .identity identity
  | _, _, _ => False

variable {deployed : Deployment} {state state' : Control} {who : Nat} {key : Key} {value : Value}

theorem get_of_get_set {redis : Redis} {now : Int} {written : Value} {other : Key} {ttl : Int}
    (live : Expiring.get (Expiring.set redis now other written ttl) now key = some value) :
    key = other ∧ value = written ∨ Expiring.get redis now key = some value := by
  by_cases same : key = other
  · subst same
    rw [Expiring.get_set_same] at live
    split at live
    · exact .inl ⟨rfl, (Option.some.inj live).symm⟩
    · simp at live
  · rw [Expiring.get_set_ne same] at live
    exact .inr live

theorem get_of_get_delete {redis : Redis} {now : Int} {other : Key}
    (live : Expiring.get (Expiring.delete redis other) now key = some value) :
    Expiring.get redis now key = some value := by
  by_cases same : key = other
  · subst same
    simp at live
  · rwa [Expiring.get_delete_ne same] at live

theorem get_of_get_compareDelete {redis : Redis} {now : Int} {other : Key} {owner : Value}
    (live : Expiring.get (Expiring.compareDelete redis now other owner) now key = some value) :
    Expiring.get redis now key = some value := by
  unfold Expiring.compareDelete at live
  split at live
  · exact get_of_get_delete live
  · exact live

theorem get_of_get_setIfAbsent {redis : Redis} {now : Int} {written : Value} {other : Key}
    {ttl : Int}
    (live : Expiring.get (Expiring.setIfAbsent redis now other written ttl).2 now key =
      some value) :
    key = other ∧ value = written ∨ Expiring.get redis now key = some value := by
  unfold Expiring.setIfAbsent at live
  split at live
  · exact .inr live
  · exact get_of_get_set live

/-- A transaction leaves Redis alone. -/
theorem commit_redis {α : Type} (result : Result (α × Database)) :
    (state.commit result).2.redis = state.redis ∧ (state.commit result).2.now = state.now := by
  cases result with
  | error raised => exact ⟨rfl, rfl⟩
  | ok pair => exact ⟨rfl, rfl⟩

/-- What is in a key after an operation was there before, or the operation has written it. -/
theorem Executed.redis {op : Op} {reply : Result (Answer op)}
    (executed : Executed deployed state who op reply state')
    (live : Expiring.get state'.redis state'.now key = some value) :
    Expiring.get state.redis state.now key = some value ∨ op.writes key value := by
  cases executed with
  | failed | ended | found => exact .inl live
  | performed =>
      cases op with
      | setIfAbsent | set =>
          first
            | exact (get_of_get_setIfAbsent live).symm
            | exact (get_of_get_set live).symm
      | compareDelete => exact .inl (get_of_get_compareDelete live)
      | mark due identity ttl =>
          unfold perform at live
          simp only at live
          split at live
          · exact (get_of_get_setIfAbsent live).symm
          · exact .inl live
      | startRun loaded dispatch mode =>
          unfold perform at live
          simp only at live
          split at live
          · exact .inl live
          · exact .inl live
      | resolvedRunConfig | reserveRequest | persistResult | finishError | finishLockLost |
        markCredentialMissing =>
          left
          obtain ⟨sameRedis, sameNow⟩ := @commit_redis state _ _
          rw [← sameRedis, ← sameNow]
          exact live
      | _ => exact .inl live

/-- What is in a key after something has happened was there before. -/
theorem happen_redis {happening : Happening}
    (happened : happen deployed state happening = some state')
    (live : Expiring.get state'.redis state'.now key = some value) :
    Expiring.get state.redis state.now key = some value := by
  cases happening with
  | tick elapsed =>
      obtain rfl := Option.some.inj happened
      exact Expiring.get_of_le (Int.le_add_of_nonneg_right (Int.natCast_nonneg _)) live
  | lose key =>
      obtain rfl := Option.some.inj happened
      exact get_of_get_delete live
  | renew who =>
      unfold happen at happened
      simp only at happened
      split at happened
      · next renewal _ =>
        split at happened
        · simp at happened
        · obtain rfl := Option.some.inj happened
          unfold renewOnce Expiring.compareExpire at live
          by_cases owned : Expiring.get state.redis state.now renewal.key =
              some (.owner renewal.owner)
          · simp only [if_pos owned, if_true] at live
            obtain ⟨rfl, rfl⟩ | before := get_of_get_set live
            · exact owned
            · exact before
          · simp only [if_neg owned, Bool.false_eq_true, if_false] at live
            exact live
      · simp at happened
  | recover =>
      obtain rfl := Option.some.inj happened
      exact live
  | recoverLegacy =>
      obtain rfl := Option.some.inj happened
      exact live
  | revise =>
      unfold happen at happened
      simp only at happened
      split at happened
      · obtain rfl := Option.some.inj happened
        exact live
      · simp at happened
  | advanceLegacy =>
      obtain ⟨db, advanced, rfl⟩ := Option.map_eq_some_iff.1 happened
      exact live

/-! ### Who holds a lock -/

/-- The execution of a phase that has been given the lock. -/
def Phase.execution? : Phase → Option Execution
  | .locked execution _ | .leaving execution => some execution
  | .collecting work => some work.execution
  | _ => none

theorem Known.resident {phase : Phase} {execution : Execution}
    (known : Known deployed state who phase) (given : phase.execution? = some execution) :
    Resident who execution := by
  cases phase with
  | locked | collecting =>
      obtain rfl := Option.some.inj given
      exact known.1
  | leaving =>
      obtain rfl := Option.some.inj given
      exact known
  | _ => simp [Phase.execution?] at given

/-- Only a worker that arrives writes the key of a lock, and it writes its own token. -/
theorem writes_lock {phase : Phase} {op : Op} {target : Uuid} {mode : RunMode}
    (known : Known deployed state who phase) (allowed : phase.allowed deployed.rules op)
    (writes : op.writes (.targetLock target mode) value) :
    (∃ dispatch token, phase = .arriving dispatch token) ∧ value = .owner who := by
  cases op with
  | mark due identity ttl => simp [Op.writes] at writes
  | set key written ttl =>
      obtain ⟨rfl, rfl⟩ := writes
      cases phase with
      | releasing => simp [Phase.allowed] at allowed
      | _ => exact False.elim allowed
  | setIfAbsent key written ttl =>
      obtain ⟨rfl, rfl⟩ := writes
      cases phase with
      | arriving dispatch token =>
          refine ⟨⟨dispatch, token, rfl⟩, ?_⟩
          cases value with
          | owner owner => rw [known.2 owner allowed.2.2]
          | _ => exact False.elim allowed
      | releasing => simp [Phase.allowed] at allowed
      | _ => exact False.elim allowed
  | _ => exact False.elim writes

variable {phases phases' : ℕ → Option Phase} {move : Move signature Choice Job Happening}

/-- **A worker that has been given its lock gains none**: whoever holds a lock after a step held it
before. -/
theorem holds_before {phase : Phase} {execution : Execution}
    (stepped : (discipline deployed).Stepped state phases move state' phases')
    (sound : Sound deployed state phases) (told : phases who = some phase)
    (given : phase.execution? = some execution) (holds : execution.Holds state') :
    execution.Holds state := by
  cases stepped with
  | work other op choice bound allowed executed =>
      rcases (executed_of_exec executed).redis holds with before | writes
      · exact before
      · obtain ⟨⟨dispatch, token, arrives⟩, same⟩ :=
          writes_lock (sound.known _ _ bound) allowed writes
        have owner := ((sound.known _ _ told).resident given).owner_eq
        have who_eq : who = other := owner.symm.trans (Value.owner.inj same)
        rw [who_eq, bound] at told
        obtain rfl := Option.some.inj told
        subst arrives
        simp [Phase.execution?] at given
  | crash other bound => exact holds
  | start other job free accepted =>
      obtain rfl := Option.some.inj accepted
      cases job with
      | execute dispatch => exact holds
      | schedule => exact holds
  | env happening happened => exact happen_redis happened holds

/-- Two workers do not hold one lock. -/
theorem holds_unique {other : Nat} {execution execution' : Execution}
    (resident : Resident who execution) (resident' : Resident other execution')
    (same : execution.lockKey = execution'.lockKey) (holds : execution.Holds state)
    (holds' : execution'.Holds state) : who = other := by
  unfold Execution.Holds at holds holds'
  rw [same] at holds
  have := Value.owner.inj (Option.some.inj (holds.symm.trans holds'))
  rw [← resident.owner_eq, ← resident'.owner_eq, this]

end NewsCollect.Collection
