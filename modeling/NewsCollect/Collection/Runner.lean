/-
**The legacy runner.**

The runner collects a target batch by batch, and each batch is a transaction: its items are inserted,
and the cursor goes on. A run that fails is tried again under the same identifier, as long as the
error is retryable and there are attempts left. What the adapter returns, and where the database
fails, is not up to the runner: it is the script of a call.

* `RetryPolicy`: which errors are retried, and when.
* `CollectionRunner.persistCheckpoint`: the transaction of a batch.
* `CollectionRunner.run`: a call, along its script.
-/

import Mathlib.Data.Rat.Floor
import NewsCollect.Collection.Downstream
import NewsCollect.Collection.ProviderAdapter
import NewsCollect.Collection.Recovery

namespace NewsCollect.Collection

open Calendar Providers

/-! ### Retries -/

/-- The seconds of an error. -/
def inSeconds (after : Nat × Nat) : ℚ := after.1 / 2 ^ after.2

/-- Which errors are tried again, and when. -/
structure RetryPolicy where
  maxRetries : Nat
  baseDelay : ℚ
  maxDelay : ℚ
  maxRetryAfter : ℚ

namespace RetryPolicy

variable (policy : RetryPolicy)

/-- `should_retry`. -/
def shouldRetry (error : ClassifiedCollectionError) (retryCount : Nat) : Bool :=
  error.code.retryable && retryCount < policy.maxRetries

/-- `delay`, with what the random source has drawn between zero and one. -/
def delay (error : ClassifiedCollectionError) (retryCount : Nat) (drawn : ℚ) : ℚ :=
  match error.retryAfter with
  | some after => min (max (inSeconds after) 0) policy.maxRetryAfter
  | none => min policy.maxDelay (policy.baseDelay * 2 ^ retryCount) * drawn

end RetryPolicy

/-! ### Targets and adapters -/

/-- A target of the legacy runner. -/
structure CollectionTarget where
  sourceId : Uuid
  sourceAccountId : Option Uuid
  accessMethod : String
deriving DecidableEq

/-- What the runner asks of an adapter, apart from its batches. -/
structure CollectionAdapter where
  cursorType : Option String
  isCursorSuccessor : Option String → String → Result Bool

/-- The bridge to a provider adapter. -/
def providerAdapter (loads : String → Result Json) (provider : String) : CollectionAdapter where
  cursorType := some "provider_cursor_v1"
  isCursorSuccessor := isCursorSuccessor loads provider

/-- How a call ends early: with a classified error, with another exception, or by its
cancellation, which no `except Exception` catches. -/
inductive RunError where
  | classified (error : ClassifiedCollectionError)
  | raised (error : PyError)
  | cancelled
deriving DecidableEq

/-- Fail with a classified error. -/
def fails {α : Type} (code : CollectionErrorCode) (detail : String) : Except RunError α :=
  .error (.classified ⟨code, detail, none⟩)

/-- Fail with a classified error unless the condition holds. -/
def demand (condition : Bool) (code : CollectionErrorCode) (detail : String) :
    Except RunError Unit :=
  if condition then .ok () else fails code detail

/-- The exception of a function, as it leaves the runner. -/
def lifted {α : Type} : Result α → Except RunError α
  | .ok value => .ok value
  | .error error => .error (.raised error)

/-- A failure of the database, before its commit or after it. -/
structure Fault where
  error : RunError
  committed : Bool

/-- One transaction, under a failure of the database if there is one. -/
def transact (fault : Option Fault) (db : Database) (work : Except RunError Database) :
    Except RunError Unit × Database :=
  match fault, work with
  | none, .ok db' => (.ok (), db')
  | none, .error raised => (.error raised, db)
  | some fault, .ok db' => (.error fault.error, if fault.committed then db' else db)
  | some fault, .error _ => (.error fault.error, db)

/-! ### The checkpoint of a batch -/

/-- A text that a column of this length takes. -/
def columnTakes (limit : Option Nat) (text : String) : Bool :=
  limit.all (text.length ≤ ·) && !text.toList.contains '\x00'

/-- The columns and the check of the raw items take an item. -/
def RawItemEnvelope.fits (item : RawItemEnvelope) : Bool :=
  item.externalId.all (columnTakes (some 255)) &&
    item.httpStatus.all (fun status => 100 ≤ status && status ≤ 599) &&
    item.contentType.all (columnTakes (some 255)) &&
    item.payloadLocation.all (columnTakes none) &&
    item.payloadHash.all (columnTakes (some 128)) && columnTakes (some 50) item.retentionClass

/-- The unique indexes of the raw items hold an item back that has the identity of a row, or, for
want of one, its hash. -/
def RawItemEnvelope.conflicts (item : RawItemEnvelope) (sourceId : Uuid) (row : RawItem) : Bool :=
  (item.externalId.isSome || item.payloadHash.isSome) && sameItem item sourceId row

/-- The cursor row after a batch. -/
def checkpointed (next : String) (lastPublishedAt : Option Int) (cursor : Cursor) : Cursor :=
  { cursor with cursorValue := some next, lastPublishedAt := lastPublishedAt }

/-- The run after a batch. -/
def fetchedRun (count : Nat) (run : Run) : Run :=
  { run with fetchedCount := run.fetchedCount + count }

namespace CollectionRunner

/-- Insert one item; a conflict is an error of the database. -/
def insertRawItem (target : CollectionTarget) (runId : Uuid) (db : Database)
    (item : RawItemEnvelope) : Except RunError Database :=
  if !item.fits then .error (.raised ⟨.sqlAlchemyError, "raw_items"⟩)
  else if db.rawItems.any (item.conflicts target.sourceId) then
    .error (.raised ⟨.sqlAlchemyError, "uq_raw_items_source"⟩)
  else .ok
    { db with
      rawItems := db.rawItems ++
        [⟨db.fresh, target.sourceId, target.sourceAccountId, runId, item⟩]
      issued := db.issued + 1 }

/-- `_load_cursor`. -/
def loadCursor (db : Database) (target : CollectionTarget) (cursorType : Option String) :
    CursorSnapshot :=
  match target.sourceAccountId, cursorType with
  | some account, some type =>
      match db.legacyCursor account type with
      | some cursor => ⟨some cursor.cursorType, cursor.cursorValue, cursor.lastPublishedAt⟩
      | none => ⟨some type, none, none⟩
  | _, _ => ⟨cursorType, none, none⟩

/-- The cursor of a batch, if it has one, is a successor. -/
def follows (adapter : CollectionAdapter) (snapshot : CursorSnapshot) (batch : FetchBatch) :
    Result Bool :=
  match batch.nextCursor with
  | some next => adapter.isCursorSuccessor snapshot.cursorValue next
  | none => .ok true

/-- The published time of a batch is not before that of the cursor. -/
def notBackward (snapshot : CursorSnapshot) (batch : FetchBatch) : Bool :=
  snapshot.lastPublishedAt.all fun before => batch.lastPublishedAt.all (before ≤ ·)

/-- The cursor of a target goes on, if it has one. -/
def advanceCursor (db : Database) (target : CollectionTarget) (snapshot : CursorSnapshot)
    (batch : FetchBatch) : Except RunError Database :=
  match target.sourceAccountId, snapshot.cursorType, batch.nextCursor with
  | some account, some type, some next =>
      let published := batch.lastPublishedAt.or snapshot.lastPublishedAt
      match db.legacyCursor account type with
      | none => .ok (db.addCursor fun id =>
          checkpointed next published (newCursor account none type 1 .normal id))
      | some cursor =>
          if cursor.cursorValue = snapshot.cursorValue then
            .ok (db.setCursor cursor.id (checkpointed next published))
          else fails .contractInvalid "cursor snapshot is stale"
  | _, _, _ => .ok db

/-- `_persist_checkpoint`. The query for the run flushes the items. -/
def persistCheckpoint (adapter : CollectionAdapter) (db : Database) (target : CollectionTarget)
    (runId : Uuid) (snapshot : CursorSnapshot) (batch : FetchBatch) : Except RunError Database := do
  let successor ← lifted (follows adapter snapshot batch)
  demand successor .contractInvalid "cursor is not a direct successor"
  demand (notBackward snapshot batch) .contractInvalid "published watermark moved backward"
  let db ← batch.items.foldlM (insertRawItem target runId) db
  demand ((db.run runId).any (·.status == .running)) .contractInvalid
    "collection run is not running"
  advanceCursor (db.setRun runId (fetchedRun batch.items.length)) target snapshot batch

/-! ### The ends of a run -/

/-- A run that has succeeded. -/
def succeededRun (now : Int) (run : Run) : Run :=
  { run with
    status := .succeeded
    finishedAt := some now
    errorCode := none
    errorMessageRedacted := none }

/-- The source of a run that has succeeded: an account is not counted with its source. -/
def succeededSource (target : CollectionTarget) (source : Source) : Source :=
  if target.sourceAccountId.isNone then { source with consecutiveFailures := 0 } else source

/-- `_finish_success`. -/
def finishSuccess (db : Database) (now : Int) (target : CollectionTarget) (runId : Uuid) :
    Database :=
  if (db.run runId).isSome && (db.source target.sourceId).isSome then
    (db.setRun runId (succeededRun now)).setSource target.sourceId (succeededSource target)
  else db

/-- A run that is tried again. -/
def retriedRun (error : ClassifiedCollectionError) (retryCount : Nat) (run : Run) : Run :=
  { run with
    retryCount := retryCount
    errorCount := run.errorCount + 1
    errorCode := some error.code.value
    errorMessageRedacted := some error.redactedDetail }

/-- `_record_retry`. -/
def recordRetry (db : Database) (runId : Uuid) (error : ClassifiedCollectionError)
    (retryCount : Nat) : Database :=
  db.setRun runId (retriedRun error retryCount)

/-- A run that has failed, with what it has fetched. -/
def finishedRun (now : Int) (error : ClassifiedCollectionError) (run : Run) : Run :=
  { run with
    status := if run.fetchedCount > 0 then .partialCoverage else .failed
    finishedAt := some now
    errorCount := run.errorCount + 1
    errorCode := some error.code.value
    errorMessageRedacted := some error.redactedDetail }

/-- `_finish_failure`. -/
def finishFailure (db : Database) (now : Int) (target : CollectionTarget) (runId : Uuid)
    (error : ClassifiedCollectionError) : Database :=
  if (db.run runId).isSome && (db.source target.sourceId).isSome then
    (db.setRun runId (finishedRun now error)).setSource target.sourceId failingSource
  else db

end CollectionRunner

/-! ### A call -/

/-- How the runner has been set up. -/
structure CollectionRunner where
  supports : String → Bool
  adapter : CollectionAdapter
  retryPolicy : RetryPolicy
  maxBatches : Option Nat

/-- What one batch meets: the query for the cursor, what the adapter returns within its time, whether
the lock has been lost by then, and the transactions. -/
structure Turn where
  loadFault : Option RunError
  fetched : Except RunError FetchBatch
  lost : Bool
  storeFault : Option Fault
  finishFault : Option Fault

/-- What a call meets. The task is cancelled when its batches end before it does. -/
structure Call where
  validateFault : Option RunError
  acquired : Bool
  startedAt : Int
  createFault : Option Fault
  turns : List Turn
  finishedAt : Int
  drawn : ℚ
  endFault : Option Fault

inductive RunStatusReport where
  | locked
  | retry
  | failed
  | succeeded
deriving DecidableEq, Repr

structure RunOutcome where
  collectionRunId : Option Uuid
  status : RunStatusReport
  retryDelay : Option ℚ
deriving DecidableEq

namespace CollectionRunner

variable (runner : CollectionRunner)

/-- A source that may be collected. -/
def authorized (target : CollectionTarget) (source : Source) : Bool :=
  source.enabled && source.accessMethod == target.accessMethod &&
    (source.authorizationStatus == .authorized || source.authorizationStatus == .implemented)

/-- `_validate_target`. -/
def validateTarget (db : Database) (target : CollectionTarget) (fault : Option RunError) :
    Except RunError Unit := do
  demand (runner.supports target.accessMethod) .configInvalid "access method is not registered"
  match fault with
  | some raised => .error raised
  | none => pure ()
  demand ((db.source target.sourceId).any (authorized target)) .configInvalid
    "source is not authorized for collection"
  match target.sourceAccountId with
  | some account =>
      demand ((db.account account).any fun row => row.sourceId == target.sourceId && row.enabled)
        .configInvalid "source account is missing, mismatched, or disabled"
  | none =>
      demand (!db.accounts.any fun row => row.sourceId == target.sourceId) .configInvalid
        "source-level collection is forbidden when accounts exist"

/-- The row of a legacy run. -/
def legacyRun (target : CollectionTarget) (now : Int) (id : Uuid) : Run where
  id := id
  sourceId := target.sourceId
  sourceAccountId := target.sourceAccountId
  targetId := none
  runMode := .normal
  dispatchIdentity := none
  startedAt := now
  finishedAt := none
  status := .running
  fetchedCount := 0
  requestCount := 0
  pageCount := 0
  resolvedWindow := none
  operationConfigHash := none
  newCount := 0
  duplicateCount := 0
  errorCount := 0
  errorCode := none
  errorMessageRedacted := none
  retryCount := 0

/-- The run of a call: the one it resumes, or a new one (`_create_run`). -/
def openRun (db : Database) (target : CollectionTarget) (collectionRunId : Option Uuid)
    (call : Call) : Except RunError Uuid × Database :=
  match collectionRunId with
  | some runId => (.ok runId, db)
  | none =>
      let created := transact call.createFault db (.ok (db.addRun (legacyRun target call.startedAt)))
      (created.1.map fun _ => db.fresh, created.2)

/-- What the adapter returns: the end of its time is an error of its own. -/
def fetchedBatch : Except RunError FetchBatch → Except RunError FetchBatch
  | .error (.raised error) =>
      if error.isAny [.timeoutError] then fails .timeout "adapter deadline exceeded"
      else .error (.raised error)
  | fetched => fetched

/-- Whether this was the last batch. -/
def lastBatch (batch : FetchBatch) (completed : Nat) : Bool :=
  !batch.hasMore || runner.maxBatches.any (· ≤ completed)

/-- The batches of a run, along their script: the body of the `try`. -/
def collect (target : CollectionTarget) (runId : Uuid) (finishedAt : Int) :
    Nat → List Turn → Database → Except RunError Unit × Database
  | _, [], db => (.error .cancelled, db)
  | completed, turn :: turns, db =>
      match turn.loadFault with
      | some raised => (.error raised, db)
      | none =>
          let snapshot := loadCursor db target runner.adapter.cursorType
          match fetchedBatch turn.fetched with
          | .error raised => (.error raised, db)
          | .ok batch =>
              if turn.lost then (fails .lockLost "target lock ownership lost", db)
              else
                match transact turn.storeFault db
                    (persistCheckpoint runner.adapter db target runId snapshot batch) with
                | (.error raised, db) => (.error raised, db)
                | (.ok (), db) =>
                    if runner.lastBatch batch (completed + 1) then
                      transact turn.finishFault db
                        (.ok (finishSuccess db finishedAt target runId))
                    else collect target runId finishedAt (completed + 1) turns db

/-- The error an exception is booked as. -/
def classified : RunError → ClassifiedCollectionError
  | .classified error => error
  | .raised error =>
      if error.isAny [.sqlAlchemyError] then
        ⟨.databaseUnavailable, "database operation failed", none⟩
      else ⟨.unknown, "unclassified collection failure", none⟩
  | .cancelled => ⟨.cancelled, "collection task cancelled", none⟩

/-- The `except` clauses: an error is retried, or it ends the run. A call that is cancelled stays
so. -/
def settle (target : CollectionTarget) (runId : Uuid) (attempt : Nat) (call : Call)
    (raised : RunError) (db : Database) : Except RunError RunOutcome × Database :=
  let error := classified raised
  if runner.retryPolicy.shouldRetry error attempt then
    match transact call.endFault db (.ok (recordRetry db runId error (attempt + 1))) with
    | (.error raised, db) => (.error raised, db)
    | (.ok (), db) =>
        (.ok ⟨some runId, .retry, some (runner.retryPolicy.delay error attempt call.drawn)⟩, db)
  else
    match transact call.endFault db (.ok (finishFailure db call.finishedAt target runId error)) with
    | (.error raised, db) => (.error raised, db)
    | (.ok (), db) =>
        (if raised = .cancelled then .error .cancelled else .ok ⟨some runId, .failed, none⟩, db)

/-- The run that a call executes: none if the target is rejected or its lock is held. -/
def enter (db : Database) (target : CollectionTarget) (collectionRunId : Option Uuid)
    (call : Call) : Except RunError (Option Uuid) × Database :=
  match runner.validateTarget db target call.validateFault with
  | .error raised => (.error raised, db)
  | .ok () =>
      if call.acquired then
        let opened := openRun db target collectionRunId call
        (opened.1.map some, opened.2)
      else (.ok none, db)

/-- `run`. -/
def run (db : Database) (target : CollectionTarget) (collectionRunId : Option Uuid)
    (attempt : Nat) (call : Call) : Except RunError RunOutcome × Database :=
  match runner.enter db target collectionRunId call with
  | (.error raised, db) => (.error raised, db)
  | (.ok none, db) => (.ok ⟨collectionRunId, .locked, none⟩, db)
  | (.ok (some runId), db) =>
      match runner.collect target runId call.finishedAt 0 call.turns db with
      | (.ok (), db) => (.ok ⟨some runId, .succeeded, none⟩, db)
      | (.error raised, db) => runner.settle target runId attempt call raised db

end CollectionRunner

end NewsCollect.Collection
