/-
**The transactions of a worker.**

Each function is one transaction on the tables: it raises and changes nothing, or returns the
tables it commits. What a constraint or a trigger of the database refuses is not decided here; it is
among the database errors a run may meet.

* `startRun`: adopt the running run of a target, or start one.
* `resolvedRunConfig`: bind a bounded run to its window, its configuration and its continuation.
* `reserveRequest`: count a request before it is made, or end a run whose budget is used up.
* `persistResult`, `finishError`, `finishLockLost`: the three ways a fetch ends.
* `markCredentialMissing`.
-/

import NewsCollect.Collection.Downstream
import NewsCollect.Collection.TargetRepository
import NewsCollect.Providers.Continuation

namespace NewsCollect.Collection

open Calendar Providers

structure TargetDispatch where
  targetId : Uuid
  configRevision : Int
  scheduledSlot : Int
  runMode : String
  dispatchId : DispatchIdentity
deriving DecidableEq, Repr

/-! ### Starting a run -/

/-- The running run of a target in a mode. -/
def Database.runningRun (db : Database) (targetId : Uuid) (mode : RunMode) : Option Run :=
  db.runs.find? fun run => run.targetId = some targetId ∧ run.runMode = mode ∧
    run.status = .running

/-- A run that has just been started. -/
def newRun (target : Target) (dispatch : TargetDispatch) (mode : RunMode) (now : Int)
    (id : Uuid) : Run where
  id := id
  sourceId := target.sourceId
  sourceAccountId := target.sourceAccountId
  targetId := some target.id
  runMode := mode
  dispatchIdentity := some dispatch.dispatchId
  startedAt := now
  finishedAt := none
  status := .running
  fetchedCount := 0
  requestCount := 0
  pageCount := 0
  resolvedWindow := none
  operationConfigHash := none
  newCount := 0
  duplicateCount := 0
  errorCount := 0
  errorCode := none
  errorMessageRedacted := none
  retryCount := 0

/-- `_start_run`: the run and the cursor of the target. -/
def startRun (db : Database) (now : Int) (loaded : LoadedTarget) (dispatch : TargetDispatch)
    (mode : RunMode) : Result ((Uuid × Option Cursor) × Database) :=
  match db.target loaded.target.id with
  | none => raise .targetRepositoryError "stale_target_revision"
  | some target => do
      require (target.configRevision == dispatch.configRevision) .targetRepositoryError
        "stale_target_revision"
      let cursor := db.cursor target.id target.operationKey target.cursorVersion mode
      match db.runningRun target.id mode with
        | some existing => pure ((existing.id, cursor), db)
        | none => pure ((db.fresh, cursor), db.addRun (newRun target dispatch mode now))

/-! ### Binding a bounded run -/

/-- `_lineage`. -/
def lineage (loaded : LoadedTarget) (mode : RunMode) : ContinuationLineage where
  targetId := uuidText loaded.target.id
  configRevision := loaded.target.configRevision
  operationKey := loaded.target.operationKey
  operationConfigVersion := loaded.target.operationConfigVersion
  providerContractVersion := loaded.target.providerContractVersion
  cursorVersion := loaded.target.cursorVersion
  runMode := mode.value

/-- A cursor without a position. -/
def newCursor (account : Uuid) (targetId : Option Uuid) (cursorType : String)
    (cursorVersion : Int) (mode : RunMode) (id : Uuid) : Cursor where
  id := id
  sourceAccountId := account
  targetId := targetId
  cursorType := cursorType
  cursorVersion := cursorVersion
  runMode := mode
  cursorValue := none
  continuation := none
  continuationRunId := none
  watermarkAt := none
  lastPublishedAt := none

/-- The cursor of a target, which is inserted if it is missing. -/
def ensureCursor (db : Database) (target : Target) (mode : RunMode) (missing : PyError) :
    Result (Cursor × Database) :=
  match db.cursor target.id target.operationKey target.cursorVersion mode with
  | some cursor => .ok (cursor, db)
  | none =>
      match target.sourceAccountId with
      | none => .error missing
      | some account =>
          let row := newCursor account (some target.id) target.operationKey target.cursorVersion mode
          .ok (row db.fresh, db.addCursor row)

/-- A continuation that is stored and not empty. -/
def pending (cursor : Cursor) : Option Object :=
  cursor.continuation.filter fun continuation => !continuation.isEmpty

section Resolve

variable (rules : Rules)

/-- The continuation decodes under the configuration. -/
def decodes (loaded : LoadedTarget) (mode : RunMode) (config continuation : Object) :
    Result Object :=
  decodeContinuation rules.canonicalProjectionHash continuation loaded.source.accessMethod
    loaded.target.operationKey config (lineage loaded mode)

/-- The window of a continuation still pending, under which it must decode. -/
def boundWindowOf (loaded : LoadedTarget) (mode : RunMode) (continuation : Object) :
    Result (Option Object) :=
  match Object.get continuation "resolved_window" with
  | .obj window => do
      let _ ← decodes rules loaded mode (resolvedConfig loaded.config window) continuation
      pure (if window.isEmpty then none else some window)
  | _ => pure none

/-- The window of the continuation still pending, if there is one. -/
def savedWindow (loaded : LoadedTarget) (mode : RunMode) (cursor : Cursor) :
    Result (Option Object) :=
  match pending cursor with
  | some continuation => boundWindowOf rules loaded mode continuation
  | none => pure none

/-- The window of a run that has none yet. -/
def chooseWindow (loaded : LoadedTarget) (mode : RunMode) (run : Run) (cursor : Option Cursor)
    (persisted : Cursor) : Result Object := do
  let saved ← savedWindow rules loaded mode persisted
  let window ← saved.elim (resolveWindow loaded.target.operationKey loaded.config run.startedAt
    (cursor.bind Cursor.watermarkAt)) pure
  let _ ← breadthConfig loaded.source.accessMethod loaded.target.operationKey
    (resolvedConfig loaded.config window)
  pure window

/-- The window of a run: the one it has, for good, or a new one. -/
def windowOf (loaded : LoadedTarget) (mode : RunMode) (run : Run) (cursor : Option Cursor)
    (persisted : Cursor) : Result Object :=
  match run.resolvedWindow with
  | some window => pure window
  | none => chooseWindow rules loaded mode run cursor persisted

/-- The continuation of the cursor, which must decode, or a first one. -/
def continuationFor (loaded : LoadedTarget) (mode : RunMode) (config : Object)
    (persisted : Cursor) : Result Object :=
  match pending persisted with
  | some continuation => do
      let _ ← decodes rules loaded mode config continuation
      pure continuation
  | none =>
      encodeContinuation rules.canonicalProjectionHash loaded.source.accessMethod
        loaded.target.operationKey config (lineage loaded mode) []

/-- A run is bound to its window and to the hash of its configuration. -/
def Run.bind (window : Object) (hash : String) (run : Run) : Run :=
  { run with resolvedWindow := some window, operationConfigHash := some hash }

/-- A cursor is bound to a run by its continuation. -/
def Cursor.bind (continuation : Object) (runId : Uuid) (cursor : Cursor) : Cursor :=
  { cursor with continuation := some continuation, continuationRunId := some runId }

/-- `_resolved_run_config`: the resolved configuration and the continuation of a run. -/
def resolvedRunConfig (db : Database) (runId : Uuid) (loaded : LoadedTarget)
    (cursor : Option Cursor) (mode : RunMode) : Result ((Object × Object) × Database) :=
  match db.run runId with
  | none => raise .assertionError ""
  | some run => do
      let (persisted, db) ← ensureCursor db loaded.target mode
        ⟨.targetRepositoryError, "target_cursor_requires_account_during_rollback"⟩
      let window ← windowOf rules loaded mode run cursor persisted
      let config := resolvedConfig loaded.config window
      let hash := rules.canonicalProjectionHash config
      require (run.operationConfigHash.all (· == hash)) .targetRepositoryError
        "run_operation_config_hash_mismatch"
      let continuation ← continuationFor rules loaded mode config persisted
      let db := db.setRun runId (Run.bind window hash)
      pure ((config, continuation), db.setCursor persisted.id (Cursor.bind continuation runId))

end Resolve

/-! ### The budget of a run -/

/-- What a reservation comes to: a deadline, or the end of the run. -/
inductive Reservation where
  | exhausted
  | reserved (deadline : Int)
deriving DecidableEq, Repr

/-- The run of a budget that is used up. -/
def Run.exhaust (now : Int) (run : Run) : Run :=
  { run with
    status := .partialCoverage
    finishedAt := some now
    errorCode := some "coverage_incomplete" }

/-- The target of a budget that is used up. -/
def Target.exhaust (now : Int) (target : Target) : Target :=
  { target with
    nextRetryAt := none
    nextDueAt := now + target.cadenceSeconds * second
    healthStatus := .degraded
    lastErrorCode := some "coverage_incomplete" }

/-- The run with one more request. -/
def Run.reserve (run : Run) : Run := { run with requestCount := run.requestCount + 1 }

/-- The transaction of `_execute_pages` before a request. -/
def reserveRequest (db : Database) (now : Int) (loaded : LoadedTarget) (runId : Uuid) :
    Result (Reservation × Database) :=
  match db.run runId with
  | none => raise .assertionError ""
  | some run =>
      if loaded.target.maxRequestsPerRun ≤ run.requestCount ∨
          loaded.target.maxPagesPerRun ≤ run.pageCount then
        match db.target loaded.target.id with
        | none => raise .assertionError ""
        | some _ =>
            .ok (.exhausted, (db.setRun runId (Run.exhaust now)).setTarget loaded.target.id
              (Target.exhaust now))
      else
        .ok (.reserved (run.startedAt + loaded.target.maxRuntimeSeconds * second),
          db.setRun runId Run.reserve)

/-! ### The end of a fetch -/

/-- What is persisted of a fetch: the result, the snapshot it was fetched from, and how. -/
structure PageWrite where
  snapshot : Option Cursor
  result : ProviderFetchResult
  pageMode : Bool
  final : Bool
  observationKey : String

/-- The page leaves more to fetch, or less than all has been covered. -/
def PageWrite.incomplete (page : PageWrite) : Bool :=
  page.result.hasMore || page.result.coverageIncomplete

/-- The counts of a run after a page. -/
def countedRun (page : PageWrite) (counts : DownstreamCounts) (now : Int) (run : Run) : Run :=
  { run with
    fetchedCount := (if page.pageMode then run.fetchedCount else 0) + counts.fetched
    newCount := (if page.pageMode then run.newCount else 0) + counts.new
    duplicateCount := (if page.pageMode then run.duplicateCount else 0) + counts.duplicates
    pageCount := if page.pageMode then run.pageCount + 1 else run.pageCount
    finishedAt := if page.final then some now else none }

/-- The run after a page. -/
def settledRun (page : PageWrite) (counts : DownstreamCounts) (now : Int) (run : Run) : Run :=
  if !page.final then { countedRun page counts now run with status := .running }
  else if page.incomplete then
    { countedRun page counts now run with
      status := .partialCoverage
      errorCode := some "coverage_incomplete"
      errorMessageRedacted := some (if page.pageMode then "bounded run budget exhausted"
        else "provider continuation is unsupported for this operation") }
  else { countedRun page counts now run with status := .succeeded }

/-- The target after a page. -/
def settledTarget (page : PageWrite) (now : Int) (target : Target) : Target :=
  let target :=
    if !page.final then target
    else if page.incomplete then
      { target with healthStatus := .degraded, lastErrorCode := some "coverage_incomplete" }
    else
      { target with
        healthStatus := .healthy
        lastErrorCode := none
        lastSuccessAt := some now
        consecutiveFailures := 0 }
  { target with
    lastAttemptAt := some now
    nextRetryAt := none
    nextDueAt := now + target.cadenceSeconds * second }

/-- `len(row_hash) != 64 or any(c not in "0123456789abcdef" for c in row_hash)`, negated. -/
def isRowHash (hash : String) : Bool := isHash hash.toList

/-- The rejected rows of a page, each once a target. -/
def recordRejected (db : Database) (targetId : Uuid) (hashes : List String) : Result Database := do
  require (hashes.all isRowHash) .valueError "rejected_row_identity_invalid"
  pure { db with
    rejectedRows := hashes.foldl (fun rows hash =>
      if rows.contains ⟨targetId, hash⟩ then rows else rows ++ [⟨targetId, hash⟩]) db.rejectedRows }

/-- A position moves the watermark. -/
def Cursor.mark (cursor : Cursor) : Option CursorPosition → Cursor
  | none => cursor
  | some position =>
      { cursor with
        lastPublishedAt := some position.publishedAt
        watermarkAt := some position.publishedAt }

/-- The continuation of an operation that cannot be continued. -/
def unsupportedContinuation : Object :=
  [("coverage_incomplete", .bool true), ("continuation_unsupported", .bool true)]

/-- The cursor after a page. -/
def advancedCursor (reader : Reader) (target : Target) (runId : Uuid) (page : PageWrite)
    (cursor : Cursor) : Result Cursor :=
  let result := page.result
  if page.pageMode then do
    let (_, position) ← decideCursor reader target.cursorStrategy cursor.cursorValue
      result.nextCursor
    let continuation := result.continuation.filter fun continuation => !continuation.isEmpty
    pure ({ cursor with
      cursorValue := result.nextCursor
      continuation := continuation
      continuationRunId := continuation.map fun _ => runId }.mark position)
  else if result.hasMore then pure { cursor with continuation := some unsupportedContinuation }
  else if result.nextCursor.isSome then do
    let (_, position) ← decideCursor reader target.cursorStrategy cursor.cursorValue
      result.nextCursor
    pure ({ cursor with cursorValue := result.nextCursor, continuation := none }.mark position)
  else pure cursor

/-- The cursor of the legacy runner for an account. -/
def Database.legacyCursor (db : Database) (account : Uuid) (cursorType : String) :
    Option Cursor :=
  db.cursors.find? fun row => row.sourceAccountId = account ∧ row.cursorType = cursorType

/-- The new cursor of a target is written to the cursor of the legacy runner too. -/
def mirrorCursor (db : Database) (target : Target) (result : ProviderFetchResult) : Database :=
  match target.legacyCursorType, target.sourceAccountId, result.nextCursor, result.hasMore with
  | some cursorType, some account, some value, false =>
      match db.legacyCursor account cursorType with
      | some legacy => db.setCursor legacy.id fun row => { row with cursorValue := some value }
      | none => db.addCursor fun id =>
          { newCursor account none cursorType 1 .normal id with cursorValue := some value }
  | _, _, _, _ => db

/-- The cursor is as it was when the page was fetched, if there was one. -/
def notStale (snapshot : Option Cursor) (cursor : Cursor) : Bool :=
  snapshot.all fun snapshot => cursor.cursorValue == snapshot.cursorValue

/-- The writes of a page to the cursors. -/
def persistCursor (reader : Reader) (db : Database) (target : Target) (runId : Uuid)
    (mode : RunMode) (page : PageWrite) : Result Database :=
  if page.pageMode || page.result.nextCursor.isSome || page.result.hasMore then do
    let existing := db.cursor target.id target.operationKey target.cursorVersion mode
    let (cursor, db) ← ensureCursor db target mode
      ⟨.valueError, "target_cursor_requires_account_during_rollback"⟩
    require (existing.isNone || notStale page.snapshot cursor) .valueError "target_cursor_stale"
    let advanced ← advancedCursor reader target runId page cursor
    pure (mirrorCursor (db.setCursor cursor.id fun _ => advanced) target page.result)
  else pure db

/-- `_persist_result`. -/
def persistResult (rules : Rules) (db : Database) (now : Int) (loaded : LoadedTarget)
    (dispatch : TargetDispatch) (runId : Uuid) (mode : RunMode) (page : PageWrite) :
    Result Database :=
  match db.target loaded.target.id, db.run runId with
  | some target, some _ => do
      require (target.configRevision == dispatch.configRevision) .targetRepositoryError
        "stale_target_revision"
      let (counts, db) ← persistFetchResult rules db
        ⟨runId, target.sourceId, target.sourceAccountId, loaded.source.accessMethod,
          some target.id, target.operationKey, some target.configRevision,
          target.providerContractVersion, page.observationKey, now⟩ page.result
      let db ← recordRejected db target.id page.result.rejectedRowHashes
      let db := db.setRun runId (settledRun page counts now)
      let db := db.setTarget target.id (settledTarget page now)
      persistCursor rules.reader db target runId mode page
  | _, _ => raise .targetRepositoryError "stale_target_revision"

/-- A run that ends with an error. -/
def failedRun (now : Int) (code : String) (run : Run) : Run :=
  { run with
    status := .failed
    finishedAt := some now
    errorCode := some code
    errorMessageRedacted := some code }

/-- The run after an error of it. -/
def erroredRun (now : Int) (code : String) (retry : Bool) (run : Run) : Run :=
  { run with
    status := if retry then .running else .failed
    finishedAt := if retry then none else some now
    errorCount := run.errorCount + 1
    errorCode := some code
    errorMessageRedacted := some code
    retryCount := if retry then run.retryCount + 1 else run.retryCount }

/-- The target after an error of its run. -/
def erroredTarget (now : Int) (code : String) (retry : Bool) (retryAfter : Option (Nat × Nat))
    (target : Target) : Target :=
  { target with
    lastAttemptAt := some now
    healthStatus := .degraded
    lastErrorCode := some code
    consecutiveFailures := target.consecutiveFailures + 1
    nextRetryAt := if retry then some (now + retryDelay retryAfter * second) else none
    nextDueAt := if retry then target.nextDueAt else now + target.cadenceSeconds * second }

/-- `_finish_error`: whether the run will be retried. -/
def finishError (db : Database) (now : Int) (loaded : LoadedTarget) (dispatch : TargetDispatch)
    (runId : Uuid) (code : String) (retryable : Bool) (retryAfter : Option (Nat × Nat)) :
    Bool × Database :=
  match db.run runId, db.target loaded.target.id with
  | some run, some target =>
      if target.configRevision ≠ dispatch.configRevision then
        (false, db.setRun runId (failedRun now "stale_target_revision"))
      else
        let retry := retryable && run.retryCount < 3
        (retry, (db.setRun runId (erroredRun now code retry)).setTarget target.id
          (erroredTarget now code retry retryAfter))
  | _, _ => (false, db)

/-- The run of a worker that has lost its lock. -/
def lostRun (now : Int) (run : Run) : Run :=
  { failedRun now "target_lock_lost" run with errorCount := run.errorCount + 1 }

/-- The target of a worker that has lost its lock. -/
def lostTarget (now : Int) (target : Target) : Target :=
  { target with
    lastAttemptAt := some now
    healthStatus := .degraded
    lastErrorCode := some "target_lock_lost"
    consecutiveFailures := target.consecutiveFailures + 1
    nextRetryAt := some (now + 30 * second) }

/-- `_finish_lock_lost`. -/
def finishLockLost (db : Database) (now : Int) (loaded : LoadedTarget)
    (dispatch : TargetDispatch) (runId : Uuid) : Database :=
  match db.run runId, db.target loaded.target.id with
  | some _, some target =>
      let db := db.setRun runId (lostRun now)
      if target.configRevision ≠ dispatch.configRevision then db
      else db.setTarget target.id (lostTarget now)
  | _, _ => db

/-- The target without a credential. -/
def deniedTarget (now : Int) (target : Target) : Target :=
  { target with
    healthStatus := .degraded
    lastErrorCode := some "provider_runtime_credential_missing"
    lastAttemptAt := some now
    nextRetryAt := none
    nextDueAt := now + target.cadenceSeconds * second }

/-- `_mark_credential_missing`. -/
def markCredentialMissing (db : Database) (now : Int) (loaded : LoadedTarget) : Database :=
  match db.target loaded.target.id with
  | some target =>
      if target.configRevision = loaded.target.configRevision then
        db.setTarget target.id (deniedTarget now)
      else db
  | none => db

end NewsCollect.Collection
