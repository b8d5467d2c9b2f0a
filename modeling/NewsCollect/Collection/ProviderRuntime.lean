/-
**The cycles of the multi-provider scheduler.**

A cycle claims the cadence of every provider that has credentials, and then executes the providers
it has claimed, one after the other. A run that is to be tried again is kept in Redis with the number
of its attempts, and the next claim of its provider takes it over. Whether there is a retry is read
from the row of the run.

* `ProviderCadenceController.claim`, `ProviderCadenceController.scheduleRetry`.
* `executeOne`: one provider, from its claim to its result.
* `ProviderScheduler.cycle`: a cycle, along its script.
-/

import NewsCollect.Collection.Runner
import NewsCollect.Library.Expiring

namespace NewsCollect.Collection

open Calendar

/-! ### The cadence of a provider -/

def providerOrder : List String := ["marketaux", "finnhub", "eia", "sec_edgar"]

inductive ProviderScheduleStatus where
  | pass
  | noNewItems
  | retry
  | failed
  | blocked
deriving DecidableEq, Repr

/-- `_RETRYABLE_COLLECTION_ERRORS`. -/
def retryableCollectionErrors : List String :=
  ["COLLECTION_TIMEOUT", "COLLECTION_NETWORK", "COLLECTION_RATE_LIMITED", "COLLECTION_UPSTREAM_5XX",
    "COLLECTION_UPSTREAM_RETRYABLE", "COLLECTION_DATABASE_UNAVAILABLE", "COLLECTION_LOCK_LOST"]

/-- `collection_schedule_status`. -/
def collectionScheduleStatus (errorCode : Option String) : ProviderScheduleStatus :=
  if errorCode.any retryableCollectionErrors.contains then .retry else .failed

/-- The keys of a provider. -/
inductive CadenceKey where
  | cadence (provider : String)
  | retry (provider : String)
  | retryContext (provider : String)
deriving DecidableEq

/-- The values: a fixed word, the context of a retry, or a text that is none. -/
inductive CadenceValue where
  | word
  | context (collectionRunId : Uuid) (attempt : Int)
  | unreadable
deriving DecidableEq

abbrev CadenceStore : Type := Expiring.Store CadenceKey CadenceValue

inductive ClaimStatus where
  | retryWait
  | notDue
  | claimed
  | blocked
deriving DecidableEq, Repr

structure ProviderCadenceClaim where
  status : ClaimStatus
  collectionRunId : Option Uuid
  attempt : Nat
deriving DecidableEq, Repr

namespace ProviderCadenceController

/-- The claim of a provider whose cadence is due. -/
def contextClaim : Option CadenceValue → ProviderCadenceClaim
  | none => ⟨.claimed, none, 0⟩
  | some (.context runId attempt) =>
      if attempt < 1 then ⟨.blocked, none, 0⟩ else ⟨.claimed, some runId, attempt.toNat⟩
  | some _ => ⟨.blocked, none, 0⟩

/-- `claim`. -/
def claim (store : CadenceStore) (now : Int) (provider : String) (cadenceSeconds : Int) :
    ProviderCadenceClaim × CadenceStore :=
  if (Expiring.get store now (.retry provider)).isSome then (⟨.retryWait, none, 0⟩, store)
  else
    let context := Expiring.get store now (.retryContext provider)
    let (claimed, store) := Expiring.setIfAbsent store now (.cadence provider) .word
      (cadenceSeconds * second)
    if !claimed then (⟨.notDue, none, 0⟩, store)
    else if context.isNone then (contextClaim none, store)
    else (contextClaim context, Expiring.delete store (.retryContext provider))

/-- The seconds until a retry. -/
def retrySeconds (maxRetryDelay : Int) (delay : ℚ) : Int := max 1 (min ⌈delay⌉ maxRetryDelay)

/-- `schedule_retry`. -/
def scheduleRetry (store : CadenceStore) (now maxRetryDelay : Int) (provider : String) (delay : ℚ)
    (collectionRunId : Uuid) (attempt : Nat) : CadenceStore :=
  let store := Expiring.delete store (.cadence provider)
  let store := Expiring.set store now (.retry provider) .word
    (retrySeconds maxRetryDelay delay * second)
  Expiring.set store now (.retryContext provider) (.context collectionRunId attempt)
    ((maxRetryDelay + 86400) * second)

end ProviderCadenceController

/-! ### The pipeline of a run -/

inductive EndToEndStatus where
  | processed
  | collectionFailed
  | invalid
deriving DecidableEq, Repr

structure EndToEndOutcome where
  status : EndToEndStatus
  collectionRunId : Option Uuid
  rawItemCount : Nat
  safeErrors : List String
  retryDelay : Option ℚ
deriving DecidableEq

/-- How the evidence of a run has been processed. -/
structure Processed where
  valid : Bool
  rawItemCount : Nat
  safeErrors : List String

/-- `_collection_failure`. -/
def collectionFailure (runId : Option Uuid) (code : String) (retryDelay : Option ℚ) :
    EndToEndOutcome :=
  ⟨.collectionFailed, runId, 0, [code], retryDelay⟩

/-- The outcome of the pipeline, of what the runner has reported. -/
def endToEnd (reported : Except RunError RunOutcome) (processing : Except RunError Processed) :
    Except RunError EndToEndOutcome :=
  match reported with
  | .error (.classified _) => .ok (collectionFailure none "collection_target_rejected" none)
  | .error raised => .error raised
  | .ok ⟨some runId, .succeeded, _⟩ => processing.map fun processed =>
      ⟨if processed.valid then .processed else .invalid, some runId, processed.rawItemCount,
        processed.safeErrors, none⟩
  | .ok ⟨runId, _, delay⟩ => .ok (collectionFailure runId "collection_not_succeeded" delay)

/-- `_collection_retry_state`. -/
def collectionRetryState (db : Database) (outcome : EndToEndOutcome) : Option String × Nat :=
  match outcome.collectionRunId.bind db.run with
  | some run => (run.errorCode, run.retryCount)
  | none => (none, 0)

/-! ### One provider -/

structure ProviderCycleResult where
  provider : String
  status : ProviderScheduleStatus
  collectionStatus : String
  rawItemCount : Nat
  safeErrors : List String
  retryDelaySeconds : Option ℚ
deriving DecidableEq

/-- How often runs are tried again, and how long retries and claims wait. -/
structure SchedulerSettings where
  cadenceSeconds : String → Int
  maxRetries : Nat
  retryBaseSeconds : Int
  retryMaxSeconds : Int
  maxRetryAfterSeconds : Int

/-- The runner of a provider. -/
def providerRunner (settings : SchedulerSettings) (adapters : String → CollectionAdapter)
    (provider : String) : CollectionRunner where
  supports method := method == provider
  adapter := adapters provider
  retryPolicy := ⟨settings.maxRetries, settings.retryBaseSeconds, settings.retryMaxSeconds,
    settings.maxRetryAfterSeconds⟩
  maxBatches := none

/-- A retry that has been decided on. -/
structure ScheduledRetry where
  collectionRunId : Uuid
  attempt : Nat
  delay : ℚ
deriving DecidableEq

/-- The status of an outcome that has not been processed, and its retry, if there is one. -/
def retryDecision (settings : SchedulerSettings) (db : Database) (outcome : EndToEndOutcome) :
    ProviderScheduleStatus × Option ScheduledRetry :=
  let (error, retryCount) := collectionRetryState db outcome
  if collectionScheduleStatus error = .retry then
    match outcome.collectionRunId with
    | none => (.failed, none)
    | some runId =>
        if retryCount < 1 then (.failed, none)
        else (.retry, some ⟨runId, retryCount, outcome.retryDelay.getD settings.retryBaseSeconds⟩)
  else (collectionScheduleStatus error, none)

def EndToEndStatus.value : EndToEndStatus → String
  | processed => "processed"
  | collectionFailed => "collection_failed"
  | invalid => "invalid"

/-- The result of a provider, and the retry that has been decided on. -/
def cycleResult (settings : SchedulerSettings) (provider : String) (db : Database)
    (outcome : EndToEndOutcome) : ProviderCycleResult × Option ScheduledRetry :=
  if outcome.status = .processed then
    (⟨provider, if outcome.rawItemCount > 0 then .pass else .noNewItems,
      if outcome.rawItemCount > 0 then "processed" else "no_new_items", outcome.rawItemCount, [],
      none⟩, none)
  else
    let (status, retry) := retryDecision settings db outcome
    let error := (collectionRetryState db outcome).1
    (⟨provider, status, outcome.status.value, outcome.rawItemCount,
      match error with
      | some code => [code.toLower]
      | none => if outcome.safeErrors.isEmpty then ["collection_not_succeeded"]
          else outcome.safeErrors,
      outcome.retryDelay⟩, retry)

/-- What an execution meets, besides the call of the runner: how the evidence is processed, and
whether the queries for the items and for the run fail. -/
structure ExecutionScript where
  call : Call
  processing : Except RunError Processed
  queryFault : Option RunError

/-- What has been seen of an execution: the call of the runner with what it has reported, and the
retry that has been scheduled. -/
structure ExecutionRecord where
  provider : String
  resumed : Option Uuid
  attempt : Nat
  entered : Option Uuid
  ended : Option RunError
  reported : Except RunError RunOutcome
  after : Database
  scheduled : Option ScheduledRetry

/-- The run that a call executes, and the error that ends its batches. -/
def CollectionRunner.course (runner : CollectionRunner) (db : Database) (target : CollectionTarget)
    (collectionRunId : Option Uuid) (call : Call) : Option Uuid × Option RunError :=
  match runner.enter db target collectionRunId call with
  | (.ok (some runId), db) =>
      (some runId,
        match (runner.collect target runId call.finishedAt 0 call.turns db).1 with
        | .error raised => some raised
        | .ok () => none)
  | _ => (none, none)

/-- The result of an execution, with what has been seen of it. -/
def executeOne (settings : SchedulerSettings) (runner : CollectionRunner) (db : Database)
    (provider : String) (target : CollectionTarget) (claim : ProviderCadenceClaim)
    (script : ExecutionScript) : Except RunError ProviderCycleResult × ExecutionRecord :=
  let course := runner.course db target claim.collectionRunId script.call
  let ran := runner.run db target claim.collectionRunId claim.attempt script.call
  let result := do
    let outcome ← endToEnd ran.1 script.processing
    match script.queryFault with
    | some raised => .error raised
    | none => pure (cycleResult settings provider ran.2 outcome)
  (result.map Prod.fst,
    ⟨provider, claim.collectionRunId, claim.attempt, course.1, course.2, ran.1, ran.2,
      match result with
      | .ok (_, retry) => retry
      | .error _ => none⟩)

/-! ### Cycles -/

/-- What a cycle has prepared for a provider. -/
inductive Executor where
  | missing
  | notDue (claim : ProviderCadenceClaim)
  | execute (target : CollectionTarget) (claim : ProviderCadenceClaim)

/-- **The scheduler**: the tables, the keys, the present instant, what this cycle has prepared, and,
as history, the executions so far. -/
structure ProviderScheduler where
  database : Database
  cadence : CadenceStore
  now : Int
  executors : String → Executor
  log : List ExecutionRecord

/-- What a cycle meets at a provider: whether it has credentials, and the target that is found, if the
query for it does not fail; the time until its execution, and whether its delivery raises, which ends
the cycle. -/
structure ProviderTurn where
  credential : Bool
  target : Except RunError (Option CollectionTarget)
  elapsed : Nat
  script : ExecutionScript
  aborts : Bool

namespace ProviderScheduler

variable (settings : SchedulerSettings) (adapters : String → CollectionAdapter)

/-- What is prepared for a provider that has been claimed. -/
def claimedExecutor (claim : ProviderCadenceClaim) : Option CollectionTarget → Executor
  | some target => .execute target claim
  | none => .missing

/-- Prepare a provider; a query for its target that fails ends the cycle. -/
def prepare (turn : ProviderTurn) (provider : String) (state : ProviderScheduler) :
    Bool × ProviderScheduler :=
  if turn.credential then
    let (claim, store) := ProviderCadenceController.claim state.cadence state.now provider
      (settings.cadenceSeconds provider)
    if claim.status = .claimed then
      match turn.target with
      | .ok target =>
          (true, { state with
            cadence := store
            executors := Function.update state.executors provider (claimedExecutor claim target) })
      | .error _ => (false, { state with cadence := store })
    else
      (true, { state with
        cadence := store
        executors := Function.update state.executors provider (.notDue claim) })
  else (true, state)

/-- Prepare the providers in their order, as far as no query fails. -/
def prepareAll (turns : String → ProviderTurn) : List String → ProviderScheduler →
    Bool × ProviderScheduler
  | [], state => (true, state)
  | provider :: providers, state =>
      match prepare settings (turns provider) provider state with
      | (true, state) => prepareAll turns providers state
      | (false, state) => (false, state)

/-- Execute a provider. -/
def execute (turn : ProviderTurn) (provider : String) (state : ProviderScheduler) :
    ProviderScheduler :=
  let now := state.now + turn.elapsed
  match state.executors provider with
  | .execute target claim =>
      let (_, executed) := executeOne settings (providerRunner settings adapters provider)
        state.database provider target claim turn.script
      { database := executed.after
        cadence :=
          match executed.scheduled with
          | some retry => ProviderCadenceController.scheduleRetry state.cadence now
              settings.maxRetryAfterSeconds provider retry.delay retry.collectionRunId
              retry.attempt
          | none => state.cadence
        now := now
        executors := Function.update state.executors provider .missing
        log := state.log ++ [executed] }
  | _ => { state with now := now }

/-- Execute the providers in their order, until a delivery raises. -/
def executeAll (turns : String → ProviderTurn) : List String → ProviderScheduler →
    ProviderScheduler
  | [], state => state
  | provider :: providers, state =>
      let state := execute settings adapters (turns provider) provider state
      if (turns provider).aborts then state else executeAll turns providers state

/-- Time passes until the next cycle, which has prepared nothing yet. -/
def rest (elapsed : Nat) (state : ProviderScheduler) : ProviderScheduler :=
  { state with now := state.now + elapsed, executors := fun _ => .missing }

/-- **One cycle**: `run_multi_provider_scheduler_cycle`. -/
def cycle (elapsed : Nat) (turns : String → ProviderTurn) (state : ProviderScheduler) :
    ProviderScheduler :=
  match prepareAll settings turns providerOrder (state.rest elapsed) with
  | (true, state) => executeAll settings adapters turns providerOrder state
  | (false, state) => state

/-- A sequence of cycles. -/
def cycles (state : ProviderScheduler) : List (Nat × (String → ProviderTurn)) → ProviderScheduler
  | [] => state
  | (elapsed, turns) :: rest => cycles (cycle settings adapters elapsed turns state) rest

end ProviderScheduler

end NewsCollect.Collection
