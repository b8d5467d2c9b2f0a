/-
**The commands of the cadence controller.**

A claim reads the gate and the context of its provider, takes the cadence and deletes the context, each
with a command of its own; a retry is scheduled in one transaction. Between two commands of a claim
other processes may send any of theirs, and keys may expire.

* `Cadence.claim`, `Cadence.scheduleRetry`: the two calls, command by command.
* `Cadence.processes`: any number of them side by side.
* `Cadence.claim_alone`, `Cadence.scheduleRetry_alone`: a call that nothing interrupts is the one step
  that a cycle takes it for.
-/

import NewsCollect.Collection.ProviderRuntime
import NewsCollect.Library.Alone
import NewsCollect.Library.Pool

namespace NewsCollect.Collection.Cadence

open Calendar Interleaving ProviderCadenceController

/-! ### The keys -/

/-- The context of a retry, and the number of the call that has written it, which no call reads. -/
structure RetryContext where
  serial : Nat
  collectionRunId : Uuid
  attempt : Int
deriving DecidableEq, Repr

inductive Stored where
  | word
  | context (context : RetryContext)
deriving DecidableEq, Repr

abbrev Store : Type := Expiring.Store CadenceKey Stored

/-- **The shared state**: the keys, the present instant, and how many retries of each provider have
been scheduled. -/
structure State where
  store : Store
  now : Int
  scheduled : String → Nat

/-! ### The commands -/

/-- The commands, and the transaction of a retry. -/
inductive Op where
  | exists (key : CadenceKey)
  | get (key : CadenceKey)
  | setIfAbsent (key : CadenceKey) (ttl : Int)
  | delete (key : CadenceKey)
  | transaction (provider : String) (delay : Int) (collectionRunId : Uuid) (attempt ttl : Int)

abbrev Answer : Op → Type
  | .exists _ => Bool
  | .get _ => Option Stored
  | .setIfAbsent _ _ => Bool
  | .delete _ => Unit
  | .transaction .. => Unit

abbrev commands : Signature := ⟨Op, Answer⟩

/-- Send a command. -/
def send (op : Op) : Program commands (Answer op) := .call op .done

def perform (state : State) : (op : Op) → Answer op × State
  | .exists key => ((Expiring.get state.store state.now key).isSome, state)
  | .get key => (Expiring.get state.store state.now key, state)
  | .setIfAbsent key ttl =>
      let (claimed, store) := Expiring.setIfAbsent state.store state.now key .word (ttl * second)
      (claimed, { state with store := store })
  | .delete key => ((), { state with store := Expiring.delete state.store key })
  | .transaction provider delay collectionRunId attempt ttl =>
      let store := Expiring.delete state.store (.cadence provider)
      let store := Expiring.set store state.now (.retry provider) .word (delay * second)
      ((), { state with
        store := Expiring.set store state.now (.retryContext provider)
          (.context ⟨state.scheduled provider + 1, collectionRunId, attempt⟩) (ttl * second)
        scheduled := Function.update state.scheduled provider (state.scheduled provider + 1) })

section Perform

variable (state : State) (key : CadenceKey) (ttl : Int)

@[simp] theorem perform_exists : perform state (.exists key) =
    ((Expiring.get state.store state.now key).isSome, state) := rfl

@[simp] theorem perform_get : perform state (.get key) =
    (Expiring.get state.store state.now key, state) := rfl

@[simp] theorem perform_setIfAbsent : perform state (.setIfAbsent key ttl) =
    ((Expiring.setIfAbsent state.store state.now key .word (ttl * second)).1,
      { state with
        store := (Expiring.setIfAbsent state.store state.now key .word (ttl * second)).2 }) := rfl

@[simp] theorem perform_delete : perform state (.delete key) =
    ((), { state with store := Expiring.delete state.store key }) := rfl

end Perform

/-! ### The calls -/

/-- `ProviderCadenceClaim`: the context it has, if any, is that of a retry. -/
structure Claim where
  status : ClaimStatus
  context : Option RetryContext
deriving DecidableEq, Repr

/-- The claim of what has been read under the key of the context. -/
def claimOf : Stored → Claim
  | .context context => if context.attempt < 1 then ⟨.blocked, none⟩ else ⟨.claimed, some context⟩
  | .word => ⟨.blocked, none⟩

/-- `claim`, once the cadence has been taken. -/
def takeContext (provider : String) : Option Stored → Program commands Claim
  | none => pure ⟨.claimed, none⟩
  | some stored => do
      let _ ← send (.delete (.retryContext provider))
      pure (claimOf stored)

/-- `claim`. -/
def claim (provider : String) (cadenceSeconds : Int) : Program commands Claim := do
  let waiting ← send (.exists (.retry provider))
  if waiting = true then pure ⟨.retryWait, none⟩
  else do
    let context ← send (.get (.retryContext provider))
    let claimed ← send (.setIfAbsent (.cadence provider) cadenceSeconds)
    if claimed = true then takeContext provider context else pure ⟨.notDue, none⟩

/-- The commands of a claim, one after the other. -/
theorem claim_eq (provider : String) (cadenceSeconds : Int) : claim provider cadenceSeconds =
    .call (.exists (.retry provider)) fun waiting =>
      if waiting = true then .done ⟨.retryWait, none⟩
      else .call (.get (.retryContext provider)) fun context =>
        .call (.setIfAbsent (.cadence provider) cadenceSeconds) fun claimed =>
          if claimed = true then takeContext provider context else .done ⟨.notDue, none⟩ := rfl

/-- `schedule_retry`. -/
def scheduleRetry (maxRetryDelay : Int) (provider : String) (delay : ℚ) (collectionRunId : Uuid)
    (attempt : Int) : Program commands Int := do
  let _ ← send (.transaction provider (retrySeconds maxRetryDelay delay) collectionRunId attempt
    (maxRetryDelay + 86400))
  pure (retrySeconds maxRetryDelay delay)

/-! ### Any number of processes -/

/-- The calls of a process. -/
inductive Job where
  | claim (provider : String) (cadenceSeconds : Int)
  | scheduleRetry (provider : String) (delay : ℚ) (collectionRunId : Uuid) (attempt : Int)

/-- What a call returns. -/
inductive Returned where
  | claim (claim : Claim)
  | delay (seconds : Int)

def Job.program (maxRetryDelay : Int) : Job → Program commands Returned
  | .claim provider cadenceSeconds => do
      let claim ← Cadence.claim provider cadenceSeconds
      pure (.claim claim)
  | .scheduleRetry provider delay collectionRunId attempt => do
      let seconds ← Cadence.scheduleRetry maxRetryDelay provider delay collectionRunId attempt
      pure (.delay seconds)

/-- **Processes side by side.** By itself only time passes. -/
def processes (maxRetryDelay : Int) : System commands Returned State Unit Job Nat where
  program := Job.program maxRetryDelay
  accept state _ := some state
  exec state _ op _ := some (perform state op)
  crash state _ := state
  env state elapsed := some { state with now := state.now + elapsed }

/-- Before anything has been written. -/
def fresh : State := ⟨fun _ => none, 0, fun _ => 0⟩

/-! ### Calls that nothing interrupts -/

section Alone

/-- The value without the number of its call. -/
def Stored.bare : Stored → CadenceValue
  | .word => .word
  | .context held => .context held.collectionRunId held.attempt

def bare (store : Store) : CadenceStore := fun key =>
  (store key).map fun entry => ⟨entry.value.bare, entry.expiresAt⟩

def Claim.bare (claim : Claim) : ProviderCadenceClaim :=
  ⟨claim.status, claim.context.map RetryContext.collectionRunId,
    (claim.context.map fun context => context.attempt.toNat).getD 0⟩

variable (store : Store) (now : Int)

theorem get_bare (key : CadenceKey) :
    Expiring.get (bare store) now key = (Expiring.get store now key).map Stored.bare := by
  unfold Expiring.get bare
  cases store key with
  | none => rfl
  | some entry =>
      by_cases alive : now < entry.expiresAt
      · simp [alive]
      · simp [alive]

theorem bare_set (key : CadenceKey) (value : Stored) (ttl : Int) :
    bare (Expiring.set store now key value ttl) =
      Expiring.set (bare store) now key value.bare ttl := by
  funext other
  by_cases same : other = key
  · subst same
    simp [bare, Expiring.set]
  · simp [bare, Expiring.set, Function.update_of_ne same]

theorem bare_delete (key : CadenceKey) :
    bare (Expiring.delete store key) = Expiring.delete (bare store) key := by
  funext other
  by_cases same : other = key
  · subst same
    simp [bare, Expiring.delete]
  · simp [bare, Expiring.delete, Function.update_of_ne same]

theorem setIfAbsent_bare (key : CadenceKey) (ttl : Int) :
    Expiring.setIfAbsent (bare store) now key .word ttl =
      ((Expiring.setIfAbsent store now key .word ttl).1,
        bare (Expiring.setIfAbsent store now key .word ttl).2) := by
  unfold Expiring.setIfAbsent
  rw [get_bare, Option.isSome_map]
  split
  · rfl
  · rw [bare_set]
    rfl

theorem claimOf_bare (stored : Stored) : (claimOf stored).bare = contextClaim (some stored.bare) := by
  cases stored with
  | word => rfl
  | context context =>
      by_cases least : context.attempt < 1
      · simp [claimOf, contextClaim, Stored.bare, Claim.bare, least]
      · simp [claimOf, contextClaim, Stored.bare, Claim.bare, least]

/-- A claim that nothing interrupts is the claim of a cycle. -/
theorem claim_alone (state : State) (provider : String) (cadenceSeconds : Int) :
    (((claim provider cadenceSeconds).alone perform state).outcome.bare,
      bare ((claim provider cadenceSeconds).alone perform state).state.store) =
    ProviderCadenceController.claim (bare state.store) state.now provider cadenceSeconds := by
  unfold ProviderCadenceController.claim
  rw [claim_eq, Program.alone_call, Course.after_outcome, Course.after_state, perform_exists, get_bare,
    get_bare, Option.isSome_map, setIfAbsent_bare]
  cases waiting : (Expiring.get state.store state.now (.retry provider)).isSome with
  | true => rfl
  | false =>
      rw [if_neg (by simp), if_neg (by simp), Program.alone_call, Course.after_outcome,
        Course.after_state, perform_get, Program.alone_call, Course.after_outcome, Course.after_state,
        perform_setIfAbsent]
      cases taken : (Expiring.setIfAbsent state.store state.now (.cadence provider) .word
          (cadenceSeconds * second)).1 with
      | false => rfl
      | true =>
          cases read : Expiring.get state.store state.now (.retryContext provider) with
          | none => rfl
          | some stored =>
              show ((claimOf stored).bare, bare (Expiring.delete _ _)) = _
              rw [claimOf_bare, bare_delete]
              rfl

/-- A retry is scheduled as a cycle does. -/
theorem scheduleRetry_alone (state : State) (maxRetryDelay : Int) (provider : String) (delay : ℚ)
    (collectionRunId : Uuid) (attempt : Nat) :
    bare ((scheduleRetry maxRetryDelay provider delay collectionRunId attempt).alone perform
        state).state.store =
      ProviderCadenceController.scheduleRetry (bare state.store) state.now maxRetryDelay provider
        delay collectionRunId attempt := by
  show bare (Expiring.set (Expiring.set (Expiring.delete state.store _) state.now _ _ _) state.now _
    _ _) = _
  rw [bare_set, bare_set, bare_delete]
  rfl

end Alone

end NewsCollect.Collection.Cadence
