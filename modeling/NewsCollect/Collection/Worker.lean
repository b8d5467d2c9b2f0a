/-
**The worker, as a program.**

A worker is asynchronous: it asks the database and Redis for one thing at a time, and anything may
happen between two of them. What it and the scheduler ask for is listed in `Op`; each is one
transaction, one command, or a look at the clock or the environment.

* `Op`, `Procedure`: the operations, and programs over them that may raise.
* `execute`: one dispatch of a target, from the checks of the dispatch to the release of the lock.
-/

import NewsCollect.Collection.Recovery
import NewsCollect.Library.Program

namespace NewsCollect.Collection

open Calendar Interleaving Providers

/-! ### Operations -/

/-- What the programs ask for. -/
inductive Op where
  | load (targetId : Uuid) (revision : Int)
  | exists (key : Key)
  | setIfAbsent (key : Key) (value : Value) (ttl : Int)
  | set (key : Key) (value : Value) (ttl : Int)
  | get (key : Key)
  | compareDelete (key : Key) (value : Value)
  | newToken
  | spawnRenewal (key : Key) (owner : Nat) (ttl : Int)
  | stopRenewal
  | credential (accessMethod : String)
  | markCredentialMissing (loaded : LoadedTarget)
  | startRun (loaded : LoadedTarget) (dispatch : TargetDispatch) (mode : RunMode)
  | resolvedRunConfig (runId : Uuid) (loaded : LoadedTarget) (cursor : Option Cursor)
      (mode : RunMode)
  | now
  | reserveRequest (loaded : LoadedTarget) (runId : Uuid)
  | fetch (runId : Uuid) (request : ProviderFetchRequest)
  | persistResult (loaded : LoadedTarget) (dispatch : TargetDispatch) (runId : Uuid)
      (mode : RunMode) (page : PageWrite)
  | readCursor (targetId : Uuid) (cursorType : String) (mode : RunMode)
  | finishError (loaded : LoadedTarget) (dispatch : TargetDispatch) (runId : Uuid) (code : String)
      (retryable : Bool) (retryAfter : Option (Nat × Nat))
  | finishLockLost (loaded : LoadedTarget) (dispatch : TargetDispatch) (runId : Uuid)
  | duePage (now : Int) (limit : Nat) (after : Option DueTarget)
  | revision (targetId : Uuid)
  | mark (due : DueTarget) (identity : DispatchIdentity) (ttl : Int)
  | enqueue (dispatch : TargetDispatch)

/-- What each is answered with, unless it raises. -/
@[reducible] def Answer : Op → Type
  | .load _ _ => LoadedTarget
  | .exists _ => Bool
  | .setIfAbsent _ _ _ => Bool
  | .set _ _ _ => Unit
  | .get _ => Option Value
  | .compareDelete _ _ => Unit
  | .newToken => Nat
  | .spawnRenewal _ _ _ => Unit
  | .stopRenewal => Unit
  | .credential _ => Unit
  | .markCredentialMissing _ => Unit
  | .startRun _ _ _ => Uuid × Option Cursor
  | .resolvedRunConfig _ _ _ _ => Object × Object
  | .now => Int
  | .reserveRequest _ _ => Reservation
  | .fetch _ _ => ProviderFetchResult
  | .persistResult _ _ _ _ _ => Unit
  | .readCursor _ _ _ => Option Cursor
  | .finishError _ _ _ _ _ _ => Bool
  | .finishLockLost _ _ _ => Unit
  | .duePage _ _ _ => List DueTarget
  | .revision _ => Int
  | .mark _ _ _ => Bool
  | .enqueue _ => Unit

/-- The operations with their replies. -/
abbrev signature : Signature := .raising Answer PyError

/-- A program that may raise. -/
abbrev Procedure : Type → Type := ExceptT PyError (Program signature)

/-- Ask for one operation. -/
abbrev ask (op : Op) : Procedure (Answer op) := request op

/-! ### Outcomes -/

structure TargetRunOutcome where
  targetId : Uuid
  status : String
  runId : Option Uuid
  safeError : Option String
deriving DecidableEq, Repr

/-- What the parts of an execution have in common once the lock is taken. -/
structure Execution where
  dispatch : TargetDispatch
  mode : RunMode
  owner : Nat

def Execution.lockKey (execution : Execution) : Key :=
  .targetLock execution.dispatch.targetId execution.mode

/-- An outcome without a run. -/
def Execution.blocked (execution : Execution) (status message : String) : TargetRunOutcome :=
  ⟨execution.dispatch.targetId, status, none, some message⟩

/-- An outcome of a run. -/
def Execution.ended (execution : Execution) (runId : Uuid) (status : String)
    (message : Option String) : TargetRunOutcome :=
  ⟨execution.dispatch.targetId, status, some runId, message⟩

/-- The status of a run that may be retried. -/
def retryStatus (retry : Bool) : String := if retry then "retry" else "failed"

section Worker

variable (rules : Rules)

/-! ### The endings of a run -/

/-- Terminate the run after the loss of the lock. -/
def lockLost (execution : Execution) (loaded : LoadedTarget) (runId : Uuid) :
    Procedure TargetRunOutcome := do
  let _ ← ask (.finishLockLost loaded execution.dispatch runId)
  pure (execution.ended runId "retry" (some "target_lock_lost"))

/-- End the run with an error, or leave it to a retry. -/
def endWithError (execution : Execution) (loaded : LoadedTarget) (runId : Uuid) (code : String)
    (retryable : Bool) (retryAfter : Option (Nat × Nat)) : Procedure TargetRunOutcome := do
  let retry ← ask (.finishError loaded execution.dispatch runId code retryable retryAfter)
  pure (execution.ended runId (retryStatus retry) (some code))

/-- An error of the adapter: its rate limit cools the group down. -/
def adapterError (execution : Execution) (loaded : LoadedTarget) (runId : Uuid)
    (error : ProviderAdapterError) : Procedure TargetRunOutcome := do
  if error.code = .rateLimited then
    let _ ← ask (.set (.rateLimit loaded.target.rateLimitGroup) (.word "cooldown")
      (retryDelay error.retryAfterSeconds))
    endWithError execution loaded runId error.safeMessage error.retryable error.retryAfterSeconds
  else
    endWithError execution loaded runId error.safeMessage error.retryable error.retryAfterSeconds

/-! ### One page -/

/-- The result of a snapshot that has not moved: its rows are dropped. -/
def withoutItems (result : ProviderFetchResult) : Result ProviderFetchResult :=
  ProviderFetchResult.make { result.toFetchFields with
    rawItems := []
    sanitizedMetadata := []
    displayProjections := []
    nextCursor := none
    hasMore := false }

/-- The result of a single page, as it is stored. -/
def storedResult (action : CursorAction) (result : ProviderFetchResult) :
    Result ProviderFetchResult :=
  if action = .noNewItems then withoutItems result else .ok result

/-- Store the only page of a run. -/
def storeSingle (execution : Execution) (loaded : LoadedTarget) (runId : Uuid)
    (cursor : Option Cursor) (action : CursorAction) (result : ProviderFetchResult) :
    Procedure TargetRunOutcome := do
  let result ← compute (storedResult action result)
  let _ ← ask (.persistResult loaded execution.dispatch runId execution.mode
    ⟨cursor, result, false, true, "run"⟩)
  pure (execution.ended runId
    (if result.hasMore then "partial"
      else if action = .noNewItems then "no_new_items" else "succeeded")
    (if result.hasMore then some "coverage_incomplete" else none))

/-- The page of a run with a single one, once it has been fetched without an error. -/
def decideSingle (execution : Execution) (loaded : LoadedTarget) (runId : Uuid)
    (cursor : Option Cursor) (result : ProviderFetchResult) : Procedure TargetRunOutcome := do
  let owner ← ask (.get execution.lockKey)
  if owner ≠ some (.owner execution.owner) then lockLost execution loaded runId
  else
    match decideCursor rules.reader loaded.target.cursorStrategy (cursor.bind Cursor.cursorValue)
        result.nextCursor with
    | .ok (action, _) => storeSingle execution loaded runId cursor action result
    | .error raised =>
        if raised.isAny [.cursorContractError] then do
          let _ ← ask (.finishError loaded execution.dispatch runId "cursor_contract_invalid" false
            none)
          pure (execution.ended runId "failed" (some "cursor_contract_invalid"))
        else throw raised

/-- The collection of a single page. -/
def executeSingle (execution : Execution) (loaded : LoadedTarget) (runId : Uuid)
    (cursor : Option Cursor) (request : ProviderFetchRequest) : Procedure TargetRunOutcome := do
  let fetched ← attempt (ask (.fetch runId request))
  match fetched with
  | .error raised =>
      if raised.isAny [.targetLockLost] then lockLost execution loaded runId
      else if raised.isAny [.timeoutError] then
        endWithError execution loaded runId "provider_runtime_deadline_exceeded" true none
      else throw raised
  | .ok result =>
      match result.safeErrors with
      | error :: _ => adapterError execution loaded runId error
      | [] => decideSingle rules execution loaded runId cursor result

/-! ### Many pages -/

/-- The deadline of the run has passed. -/
def deadlineExceeded (execution : Execution) (loaded : LoadedTarget) (runId : Uuid) :
    Procedure TargetRunOutcome := do
  let _ ← ask (.finishError loaded execution.dispatch runId "provider_runtime_deadline_exceeded"
    false none)
  pure (execution.ended runId "failed" (some "provider_runtime_deadline_exceeded"))

/-- `not continuation`. -/
def noContinuation (continuation : Option Object) : Bool := continuation.all List.isEmpty

/-- Two continuations are the same. -/
def sameContinuation : Option Object → Option Object → Bool
  | some left, some right => (Json.obj left).eq (.obj right)
  | none, none => true
  | _, _ => false

/-- The checks on a page before it is stored. -/
def checkPage (execution : Execution) (loaded : LoadedTarget) (request : ProviderFetchRequest)
    (result : ProviderFetchResult) : Result Unit := do
  require (!(result.hasMore && (noContinuation result.continuation ||
      sameContinuation result.continuation request.continuation)))
    .valueError "provider_continuation_invalid"
  match result.continuation.filter fun continuation => !continuation.isEmpty with
  | some continuation => do
      let _ ← decodes rules loaded execution.mode request.config continuation
      pure ()
  | none => pure ()

/-- Store a page; the outcome of the run, if the page is the last one. -/
def storePage (execution : Execution) (loaded : LoadedTarget) (runId : Uuid)
    (cursor : Option Cursor) (request : ProviderFetchRequest) (last : Bool)
    (result : ProviderFetchResult) : Procedure (Option TargetRunOutcome) := do
  compute (require (result.contractVersion == loaded.target.providerContractVersion &&
    result.provider == loaded.source.accessMethod) .valueError "provider_contract_mismatch")
  let owner ← ask (.get execution.lockKey)
  compute (require (owner == some (.owner execution.owner)) .targetLockLost "target_lock_lost")
  compute (checkPage rules execution loaded request result)
  let final := result.coverageIncomplete || !result.hasMore || last
  let _ ← ask (.persistResult loaded execution.dispatch runId execution.mode
    ⟨cursor, result, true, final, rules.observationKey (request.continuation.getD [])⟩)
  let incomplete := result.hasMore || result.coverageIncomplete
  pure (if final then
    some (execution.ended runId (if incomplete then "partial" else "succeeded")
      (if incomplete then some "coverage_incomplete" else none))
    else none)

/-- The loop over the pages, so many of them left. -/
def executePages (execution : Execution) (loaded : LoadedTarget) (runId : Uuid) :
    Nat → Option Cursor → ProviderFetchRequest → Procedure TargetRunOutcome
  | 0, _, _ => throw ⟨.valueError, "operation_budget_invalid"⟩
  | left + 1, cursor, request => do
      let _ ← ask (.load execution.dispatch.targetId execution.dispatch.configRevision)
      let reservation ← ask (.reserveRequest loaded runId)
      match reservation with
      | .exhausted => pure (execution.ended runId "partial" (some "coverage_incomplete"))
      | .reserved deadline => do
          let now ← ask .now
          if min request.deadlineAt deadline - now ≤ 0 then deadlineExceeded execution loaded runId
          else do
            let fetched ← attempt (ask (.fetch runId request))
            match fetched with
            | .error raised =>
                if raised.isAny [.targetLockLost] then lockLost execution loaded runId
                else if raised.isAny [.timeoutError] then deadlineExceeded execution loaded runId
                else throw raised
            | .ok result =>
                match result.safeErrors with
                | error :: _ => adapterError execution loaded runId error
                | [] => do
                    let ended ← storePage rules execution loaded runId cursor request (left == 0)
                      result
                    match ended with
                    | some outcome => pure outcome
                    | none => do
                        let cursor ← ask (.readCursor execution.dispatch.targetId
                          loaded.target.operationKey execution.mode)
                        executePages execution loaded runId left cursor
                          { request with
                            cursor := result.nextCursor
                            continuation := result.continuation }

/-! ### One execution -/

/-- What an adapter is asked for. -/
def requestOf (execution : Execution) (loaded : LoadedTarget) (cursor : Option Cursor)
    (config : Object) (continuation : Option Object) (now : Int) : ProviderFetchRequest where
  cursor := cursor.bind Cursor.cursorValue
  config := config
  limit := loaded.target.batchLimit
  deadlineAt := now + loaded.target.maxRuntimeSeconds * second
  maxResponseBytes := loaded.target.maxResponseBytes
  requestTimeoutSeconds := loaded.target.requestTimeoutSeconds
  continuation := continuation
  targetId := loaded.target.id
  configRevision := loaded.target.configRevision
  operationConfigVersion := loaded.target.operationConfigVersion
  providerContractVersion := loaded.target.providerContractVersion
  cursorVersion := loaded.target.cursorVersion
  runMode := execution.mode

/-- The adapter and the request. -/
def prepareRequest (execution : Execution) (loaded : LoadedTarget) (cursor : Option Cursor)
    (config : Object) (continuation : Option Object) : Procedure ProviderFetchRequest := do
  compute (buildAdapter loaded.source.accessMethod loaded.target.operationKey
    loaded.target.providerContractVersion)
  let now ← ask .now
  compute (ProviderFetchRequest.make (requestOf execution loaded cursor config continuation now))

/-- The body of a run, once it has been started or adopted. -/
def collect (execution : Execution) (loaded : LoadedTarget) (runId : Uuid)
    (cursor : Option Cursor) : Procedure TargetRunOutcome := do
  if loaded.contract.paginationCapability = .boundedWindowV1 then
    let bound ← ask (.resolvedRunConfig runId loaded cursor execution.mode)
    let request ← prepareRequest execution loaded cursor bound.1 (some bound.2)
    executePages rules execution loaded runId
      (min loaded.target.maxPagesPerRun loaded.target.maxRequestsPerRun).toNat cursor request
  else
    let request ← prepareRequest execution loaded cursor loaded.config
      (cursor.bind Cursor.continuation)
    executeSingle rules execution loaded runId cursor request

/-- The exceptions of an execution with a run. -/
def recoverCollect (execution : Execution) (loaded : LoadedTarget) (runId : Uuid)
    (raised : PyError) : Procedure TargetRunOutcome :=
  if raised.isAny [.targetLockLost] then lockLost execution loaded runId
  else if raised.isAny [.sqlAlchemyError] then
    endWithError execution loaded runId "collection_database_failed" true none
  else if raised.isAny [.targetRepositoryError, .valueError, .runtimeError] then do
    let _ ← ask (.finishError loaded execution.dispatch runId "collection_control_plane_failed"
      false none)
    pure (execution.ended runId "failed" (some "collection_control_plane_failed"))
  else throw raised

/-- The exceptions of an execution without a run. -/
def recoverStart (execution : Execution) (raised : PyError) : Procedure TargetRunOutcome :=
  if raised.isAny [.targetLockLost] then pure (execution.blocked "retry" "target_lock_lost")
  else if raised.isAny [.sqlAlchemyError] then
    pure (execution.blocked "failed" "collection_database_failed")
  else if raised.isAny [.targetRepositoryError, .valueError, .runtimeError] then
    pure (execution.blocked "failed" "collection_control_plane_failed")
  else throw raised

/-- A run that has been started or adopted, or the outcome without one. -/
inductive Started where
  | blocked (outcome : TargetRunOutcome)
  | run (loaded : LoadedTarget) (runId : Uuid) (cursor : Option Cursor)

/-- From the lock to the run. -/
def begin (execution : Execution) : Procedure Started := do
  let loaded ← ask (.load execution.dispatch.targetId execution.dispatch.configRevision)
  let credential ← attempt (ask (.credential loaded.source.accessMethod))
  match credential with
  | .error raised =>
      if raised.isAny [.credentialResolutionError] then do
        let _ ← ask (.markCredentialMissing loaded)
        pure (.blocked (execution.blocked "blocked" raised.message))
      else throw raised
  | .ok _ => do
      let loaded ← ask (.load execution.dispatch.targetId execution.dispatch.configRevision)
      let started ← ask (.startRun loaded execution.dispatch execution.mode)
      pure (.run loaded started.1 started.2)

/-- The execution while it holds the lock. -/
def executeLocked (execution : Execution) : Procedure TargetRunOutcome := do
  let started ← attempt (begin execution)
  match started with
  | .error raised => recoverStart execution raised
  | .ok (.blocked outcome) => pure outcome
  | .ok (.run loaded runId cursor) => do
      let ended ← attempt (collect rules execution loaded runId cursor)
      match ended with
      | .ok outcome => pure outcome
      | .error raised => recoverCollect execution loaded runId raised

/-- Stop the renewal and release the lock. -/
def release (execution : Execution) : Procedure Unit := do
  let _ ← ask .stopRenewal
  let _ ← ask (.compareDelete execution.lockKey (.owner execution.owner))
  pure ()

/-- The execution of a loaded target: cool-down, lock, body, release. -/
def executeLoaded (dispatch : TargetDispatch) (mode : RunMode) (loaded : LoadedTarget) :
    Procedure TargetRunOutcome := do
  let cooling ← ask (.exists (.rateLimit loaded.target.rateLimitGroup))
  if cooling = true then
    pure ⟨dispatch.targetId, "retry", none, some "rate_limit_group_cooldown"⟩
  else do
    let owner ← ask .newToken
    let execution : Execution := ⟨dispatch, mode, owner⟩
    let ttl := loaded.target.maxRuntimeSeconds + 30
    let taken ← ask (.setIfAbsent execution.lockKey (.owner owner) ttl)
    if taken = true then do
      let _ ← ask (.spawnRenewal execution.lockKey owner ttl)
      finallyDo (executeLocked rules execution) (release execution)
    else pure (execution.blocked "blocked" "target_lock_unavailable")

/-- `execute`. -/
def execute (dispatch : TargetDispatch) : Procedure TargetRunOutcome :=
  match RunMode.parse dispatch.runMode with
  | none => pure ⟨dispatch.targetId, "blocked", none, some "run_mode_invalid"⟩
  | some mode =>
      if dispatch.dispatchId ≠
          ⟨dispatch.targetId, dispatch.configRevision, dispatch.scheduledSlot, mode.value⟩ then
        pure ⟨dispatch.targetId, "blocked", none, some "dispatch_identity_invalid"⟩
      else do
        let loaded ← attempt (ask (.load dispatch.targetId dispatch.configRevision))
        match loaded with
        | .ok loaded => executeLoaded rules dispatch mode loaded
        | .error raised =>
            if raised.isAny [.targetRepositoryError] then
              pure ⟨dispatch.targetId, "blocked", none, some raised.message⟩
            else throw raised

end Worker

end NewsCollect.Collection
