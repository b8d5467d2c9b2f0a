/-
**The rows of the control plane.**

Sources, accounts, targets, runs, cursors and what a run stores, with the columns the collection
code reads or writes. A timestamp is an instant in microseconds, an identifier a natural number;
new identifiers come from a supply that never gives one twice.

* `Database`: the tables.
* `Key`, `Value`: what is kept in Redis.
-/

import Mathlib.Logic.Function.Defs
import NewsCollect.Library.Expiring
import NewsCollect.Library.Json
import NewsCollect.Library.Table

namespace NewsCollect.Collection

/-- A 128-bit identifier, as a number. -/
abbrev Uuid : Type := Nat

/-- A hexadecimal digit. -/
def hexDigit (n : Nat) : Char := Char.ofNat (if n < 10 then 48 + n else 87 + n)

/-- So many hexadecimal digits of a number, the highest first. -/
def hexText : Nat → Nat → List Char
  | 0, _ => []
  | width + 1, n => hexText width (n / 16) ++ [hexDigit (n % 16)]

/-- `str(identifier)`. -/
def uuidText (id : Uuid) : String :=
  String.ofList (hexText 8 (id / 16 ^ 24) ++ '-' :: hexText 4 (id / 16 ^ 20) ++
    '-' :: hexText 4 (id / 16 ^ 16) ++ '-' :: hexText 4 (id / 16 ^ 12) ++ '-' :: hexText 12 id)

/-! ### Enumerations -/

inductive RunStatus where
  | running
  | succeeded
  | partialCoverage
  | failed
deriving DecidableEq, Repr

/-- A run that has ended. -/
def RunStatus.terminal : RunStatus → Bool
  | running => false
  | _ => true

inductive RunMode where
  | normal
  | backfill
deriving DecidableEq, Repr

def RunMode.value : RunMode → String
  | normal => "normal"
  | backfill => "backfill"

/-- `CollectionRunMode(value)`. -/
def RunMode.parse (value : String) : Option RunMode :=
  if value = "normal" then some .normal else if value = "backfill" then some .backfill else none

inductive AuthorizationStatus where
  | planned
  | accessTbd
  | authorized
  | implemented
  | degraded
  | blocked
  | disabled
deriving DecidableEq, Repr

inductive IdentityStatus where
  | unverified
  | verified
  | changed
  | disabled
deriving DecidableEq, Repr

inductive TargetStatus where
  | draft
  | active
  | paused
  | blocked
  | retired
deriving DecidableEq, Repr

inductive HealthStatus where
  | unknown
  | healthy
  | degraded
  | blocked
deriving DecidableEq, Repr

inductive CursorStrategy where
  | strictIncremental
  | snapshotWatermark
  | pageToken
  | dateWindow
  | compound
  | revision
deriving DecidableEq, Repr

inductive CollectionMode where
  | incremental
  | snapshot
deriving DecidableEq, Repr

inductive QualityStatus where
  | complete
  | partialFacts
  | blocked
deriving DecidableEq, Repr

/-- The text of a quality. -/
def QualityStatus.value : QualityStatus → String
  | complete => "complete"
  | partialFacts => "partial"
  | blocked => "blocked"

/-- `SafeProjectionQualityStatus(value)`. -/
def QualityStatus.parse (value : String) : Option QualityStatus :=
  if value = "complete" then some .complete
  else if value = "partial" then some .partialFacts
  else if value = "blocked" then some .blocked
  else none

inductive ProcessingStatus where
  | pending
  | validating
  | ready
  | blocked
  | retry
deriving DecidableEq, Repr

inductive ObservationKind where
  | firstSeen
  | duplicateSameProjection
  | revisionCandidate
deriving DecidableEq, Repr

/-! ### Identities -/

/-- `dispatch_identity`: the text `target:revision:slot:mode`, by its parts. -/
structure DispatchIdentity where
  targetId : Uuid
  revision : Int
  slot : Int
  mode : String
deriving DecidableEq, Repr

/-- Identifiers not given yet. -/
structure Supply where
  id : Nat → Uuid
  injective : Function.Injective id

/-! ### Rows -/

structure Source where
  id : Uuid
  accessMethod : String
  enabled : Bool
  authorizationStatus : AuthorizationStatus
  consecutiveFailures : Int
  retentionClass : String

structure SourceAccount where
  id : Uuid
  sourceId : Uuid
  enabled : Bool
  identityStatus : IdentityStatus

structure Target where
  id : Uuid
  sourceId : Uuid
  sourceAccountId : Option Uuid
  operationKey : String
  legacyCursorType : Option String
  operationConfigVersion : Int
  providerContractVersion : Int
  configRevision : Int
  operationConfig : Object
  status : TargetStatus
  cadenceSeconds : Int
  batchLimit : Int
  maxRequestsPerRun : Int
  maxPagesPerRun : Int
  maxResponseBytes : Int
  requestTimeoutSeconds : Int
  maxRuntimeSeconds : Int
  cursorStrategy : CursorStrategy
  cursorVersion : Int
  collectionMode : CollectionMode
  rateLimitGroup : String
  priority : Int
  nextDueAt : Int
  nextRetryAt : Option Int
  lastAttemptAt : Option Int
  lastSuccessAt : Option Int
  consecutiveFailures : Int
  healthStatus : HealthStatus
  lastErrorCode : Option String
  retiredAt : Option Int

structure Run where
  id : Uuid
  sourceId : Uuid
  sourceAccountId : Option Uuid
  targetId : Option Uuid
  runMode : RunMode
  dispatchIdentity : Option DispatchIdentity
  startedAt : Int
  finishedAt : Option Int
  status : RunStatus
  fetchedCount : Nat
  requestCount : Nat
  pageCount : Nat
  resolvedWindow : Option Object
  operationConfigHash : Option String
  newCount : Nat
  duplicateCount : Nat
  errorCount : Nat
  errorCode : Option String
  errorMessageRedacted : Option String
  retryCount : Nat

structure Cursor where
  id : Uuid
  sourceAccountId : Uuid
  targetId : Option Uuid
  cursorType : String
  cursorVersion : Int
  runMode : RunMode
  cursorValue : Option String
  continuation : Option Object
  continuationRunId : Option Uuid
  watermarkAt : Option Int
  lastPublishedAt : Option Int

/-- One fetched item, as an adapter hands it over. -/
structure RawItemEnvelope where
  externalId : Option String
  fetchedAt : Int
  httpStatus : Option Int
  contentType : Option String
  payloadLocation : Option String
  payloadHash : Option String
  retentionClass : String

structure RawItem where
  id : Uuid
  sourceId : Uuid
  sourceAccountId : Option Uuid
  collectionRunId : Uuid
  envelope : RawItemEnvelope

structure Observation where
  id : Uuid
  collectionRunId : Uuid
  rawItemId : Uuid
  targetId : Option Uuid
  sourceId : Uuid
  sourceAccountId : Option Uuid
  provider : String
  operationKey : String
  configRevision : Option Int
  providerContractVersion : Int
  observedAt : Int
  projectionHash : String
  observationKind : ObservationKind
  observationKey : String
  createdAt : Int

/-- The facts of an observation, and how far their validation has come. -/
structure Projection where
  id : Uuid
  observationId : Uuid
  rawItemId : Uuid
  provider : String
  operationKey : String
  projectionSchemaVersion : Int
  factualPayload : Object
  projectionHash : String
  qualityStatus : QualityStatus
  processingStatus : ProcessingStatus
  safeErrorCode : Option String
  attemptCount : Nat
  nextRetryAt : Option Int
  processedAt : Option Int
  createdAt : Int
  updatedAt : Int

/-- The row of `audit_logs` that records a rejected provider row. -/
structure RejectedRow where
  targetId : Uuid
  rowHash : String
deriving DecidableEq

/-- **The tables**, and how many identifiers have been given. -/
structure Database where
  sources : List Source
  accounts : List SourceAccount
  targets : List Target
  runs : List Run
  cursors : List Cursor
  rawItems : List RawItem
  observations : List Observation
  projections : List Projection
  rejectedRows : List RejectedRow
  issued : Nat
  supply : Supply

namespace Database

def source (db : Database) (id : Uuid) : Option Source := Table.find Source.id db.sources id

def account (db : Database) (id : Uuid) : Option SourceAccount :=
  Table.find SourceAccount.id db.accounts id

def target (db : Database) (id : Uuid) : Option Target := Table.find Target.id db.targets id

def run (db : Database) (id : Uuid) : Option Run := Table.find Run.id db.runs id

/-- The next identifier. -/
def fresh (db : Database) : Uuid := db.supply.id db.issued

/-- Write the target with this identifier. -/
def setTarget (db : Database) (id : Uuid) (change : Target → Target) : Database :=
  { db with targets := Table.modify Target.id db.targets id change }

/-- Write the run with this identifier. -/
def setRun (db : Database) (id : Uuid) (change : Run → Run) : Database :=
  { db with runs := Table.modify Run.id db.runs id change }

/-- Write the source with this identifier. -/
def setSource (db : Database) (id : Uuid) (change : Source → Source) : Database :=
  { db with sources := Table.modify Source.id db.sources id change }

/-- Write the cursor with this identifier. -/
def setCursor (db : Database) (id : Uuid) (change : Cursor → Cursor) : Database :=
  { db with cursors := Table.modify Cursor.id db.cursors id change }

/-- Insert a run under the next identifier. -/
def addRun (db : Database) (row : Uuid → Run) : Database :=
  { db with runs := db.runs ++ [row db.fresh], issued := db.issued + 1 }

/-- Insert a cursor under the next identifier. -/
def addCursor (db : Database) (row : Uuid → Cursor) : Database :=
  { db with cursors := db.cursors ++ [row db.fresh], issued := db.issued + 1 }

/-- The cursor of a target, for an operation, a version and a mode. -/
def cursor (db : Database) (targetId : Uuid) (cursorType : String) (cursorVersion : Int)
    (runMode : RunMode) : Option Cursor :=
  db.cursors.find? fun row => row.targetId = some targetId ∧ row.cursorType = cursorType ∧
    row.cursorVersion = cursorVersion ∧ row.runMode = runMode

end Database

/-! ### Redis -/

/-- The keys. -/
inductive Key where
  | rateLimit (group : String)
  | targetLock (target : Uuid) (mode : RunMode)
  | dispatch (identity : DispatchIdentity)
  | legacyLock (source : Uuid) (account : Option Uuid)
  | legacyRetry (run : Uuid)
deriving DecidableEq

/-- The values: the token of a lock, the identity behind a marker, a fixed word. -/
inductive Value where
  | owner (token : Nat)
  | identity (identity : DispatchIdentity)
  | word (text : String)
deriving DecidableEq

abbrev Redis : Type := Expiring.Store Key Value

end NewsCollect.Collection
