/-
**The validation of facts.**

The facts of an observation wait as a row until a worker has claimed and validated them. Claiming,
validating and recovering rows whose worker is late are transactions of their own.

* `contractRules`: the contracts, as what storing a page asks for.
* `recoverStale`, `claim`, `validateOne`: the transactions.
* `processBatch`: one batch, as a program.
* `validations`: the workers as a system.
-/

import NewsCollect.Collection.Downstream
import NewsCollect.Library.Claiming
import NewsCollect.Library.Pool
import NewsCollect.SafeProjection.Contracts

namespace NewsCollect.SafeProjection

open Collection Interleaving
open Providers (ProviderFetchResult)

def ProjectionQuality.value : ProjectionQuality → String
  | .complete => "complete"
  | .partialFacts => "partial"

/-- `SafeProjectionQualityStatus(quality)`. -/
def ProjectionQuality.status : ProjectionQuality → QualityStatus
  | .complete => .complete
  | .partialFacts => .partialFacts

section Rules

variable (library : StandardLibrary)

/-- What storing a page asks of the contracts. Facts that have no hash are refused as soon as they
are in normal form, which is before they are hashed and before anything is written. -/
def contractRules (reader : Reader) (observationKey : Object → String) : Rules where
  reader := reader
  canonicalProjectionHash payload :=
    match canonicalProjectionHash library payload with
    | .ok hash => hash
    | .error _ => ""
  normalizeAndClassify provider operation facts := do
    let (normalized, quality) ← normalizeAndClassify library provider operation 1 facts
    let _ ← canonicalProjectionHash library normalized
    pure (normalized, quality.value)
  observationKey := observationKey

/-! ### Transactions -/

/-- How often a row is tried, and after how long a worker is late. -/
structure Settings where
  maxAttempts : Nat
  staleAfter : Int

/-- The rows whose worker is late. -/
def isStale (cutoff : Int) (row : Projection) : Bool :=
  row.processingStatus = .validating ∧ row.updatedAt < cutoff

/-- An order of rows: by a time and by identifier. -/
def precedes (time : Projection → Int) (left right : Projection) : Bool :=
  time left < time right || time left == time right && left.id ≤ right.id

/-- A row whose worker is late is tried again, if it may be. -/
def recoveredRow (settings : Settings) (now : Int) (row : Projection) : Projection :=
  if settings.maxAttempts ≤ row.attemptCount then
    { row with
      processingStatus := .blocked
      qualityStatus := .blocked
      safeErrorCode := some "projection_retry_exhausted"
      processedAt := some now
      nextRetryAt := none
      updatedAt := now }
  else
    { row with
      processingStatus := .retry
      safeErrorCode := some "projection_validation_stale"
      nextRetryAt := some now
      updatedAt := now }

/-- `_recover_stale`: how many rows it has written, and the rows. -/
def recoverStale (settings : Settings) (rows : List Projection) (now : Int) (limit : Nat)
    (locked : List Uuid) : Nat × List Projection :=
  let taken := Table.pick Projection.id (isStale (now - settings.staleAfter))
    (precedes Projection.updatedAt) limit locked rows
  (taken.length,
    Table.modifyEach Projection.id rows (taken.map Projection.id) (recoveredRow settings now))

/-- The rows that wait. -/
def isWaiting (now : Int) (row : Projection) : Bool :=
  (row.processingStatus = .pending ∨ row.processingStatus = .retry) ∧
    row.nextRetryAt.all (· ≤ now) = true

/-- A row that is being validated from now on. -/
def claimedRow (now : Int) (row : Projection) : Projection :=
  { row with
    processingStatus := .validating
    attemptCount := row.attemptCount + 1
    updatedAt := now
    safeErrorCode := none
    nextRetryAt := none }

/-- `_claim`: the rows it has taken, and the rows. -/
def claim (rows : List Projection) (limit : Nat) (now : Int) (locked : List Uuid) :
    List Uuid × List Projection :=
  let taken := Table.pick Projection.id (isWaiting now) (precedes Projection.createdAt) limit
    locked rows
  (taken.map Projection.id,
    Table.modifyEach Projection.id rows (taken.map Projection.id) (claimedRow now))

/-- The normal form and the quality of the facts of a row, which have to be those it was made of. -/
def contractOf (row : Projection) : Result (Object × ProjectionQuality) := do
  let (normalized, quality) ← normalizeAndClassify library row.provider row.operationKey
    row.projectionSchemaVersion row.factualPayload
  let hash ← canonicalProjectionHash library normalized
  require (hash == row.projectionHash) .projectionContractError "projection_hash_mismatch"
  pure (normalized, quality)

def readyRow (now : Int) (normalized : Object) (quality : ProjectionQuality) (row : Projection) :
    Projection :=
  { row with
    factualPayload := normalized
    qualityStatus := quality.status
    processingStatus := .ready
    safeErrorCode := none
    processedAt := some now
    updatedAt := now }

def blockedRow (now : Int) (code : String) (row : Projection) : Projection :=
  { row with
    processingStatus := .blocked
    qualityStatus := .blocked
    safeErrorCode := some code
    processedAt := some now
    updatedAt := now }

/-- `_validate_one`: whether the row is ready, and the rows. Only the errors of the contracts end
in the row. -/
def validateOne (rows : List Projection) (id : Uuid) (now : Int) :
    Result (Bool × List Projection) :=
  match Table.find Projection.id rows id with
  | none => .ok (false, rows)
  | some row =>
      if row.processingStatus ≠ .validating then .ok (false, rows)
      else
        match contractOf library row with
        | .ok (normalized, quality) =>
            .ok (true, Table.modify Projection.id rows id (readyRow now normalized quality))
        | .error raised =>
            if raised.cls = .projectionContractError then
              .ok (false, Table.modify Projection.id rows id (blockedRow now raised.message))
            else .error raised

end Rules

/-! ### The worker -/

/-- What a worker asks for. -/
inductive Op where
  | now
  | recoverStale (now : Int) (limit : Nat)
  | claim (limit : Nat) (now : Int)
  | validateOne (id : Uuid) (now : Int)

/-- What each is answered with, unless it raises. -/
@[reducible] def Answer : Op → Type
  | .now => Int
  | .recoverStale _ _ => Nat
  | .claim _ _ => List Uuid
  | .validateOne _ _ => Bool

abbrev signature : Signature := .raising Answer PyError

abbrev Procedure : Type → Type := ExceptT PyError (Program signature)

/-- Ask for one operation. -/
abbrev ask (op : Op) : Procedure (Answer op) := request op

structure ProjectionValidationReport where
  claimed : Nat
  ready : Nat
  blocked : Nat
  recovered : Nat
deriving DecidableEq, Repr

/-- The rows of a batch, in order: how many are ready, and how many are not. -/
def validateAll (now : Int) : Nat × Nat → List Uuid → Procedure (Nat × Nat)
  | counts, [] => pure counts
  | counts, id :: ids => do
      let ready ← ask (.validateOne id now)
      validateAll now (if ready then (counts.1 + 1, counts.2) else (counts.1, counts.2 + 1)) ids

/-- `process_batch`. -/
def processBatch (limit : Int) : Procedure ProjectionValidationReport := do
  if ¬(1 ≤ limit ∧ limit ≤ 500) then throw ⟨.valueError, "projection_worker_limit_invalid"⟩
  else do
    let now ← ask .now
    let recovered ← ask (.recoverStale now limit.toNat)
    let claimed ← ask (.claim limit.toNat now)
    let (ready, blocked) ← validateAll now (0, 0) claimed
    pure ⟨claimed.length, ready, blocked, recovered⟩

/-! ### The workers as a system -/

/-- **The shared state**: the tables and the clock, and, as history, the rows that have become
ready. -/
structure Validation where
  database : Database
  now : Int
  readied : List Uuid

namespace Validation

/-- The facts with this identifier. -/
def projection (state : Validation) (id : Uuid) : Option Projection :=
  Table.find Projection.id state.database.projections id

/-- The rows have been written. -/
def withRows (state : Validation) (rows : List Projection) : Validation :=
  { state with database := { state.database with projections := rows } }

end Validation

/-- What the environment decides: that an operation is done, that the database fails, and which
rows it finds locked. -/
inductive Choice where
  | proceed
  | fault
  | locked (rows : List Uuid)

/-- What the system is made of: the functions of the standard library, how cursors and pages are
read, and the settings of the workers. -/
structure Deployment where
  library : StandardLibrary
  reader : Reader
  observationKey : Object → String
  settings : Settings

/-- What storing a page asks for. -/
def Deployment.rules (deployed : Deployment) : Rules :=
  contractRules deployed.library deployed.reader deployed.observationKey

/-- **One operation.** -/
def exec (deployed : Deployment) (state : Validation) (op : Op) (choice : Choice) :
    Option (Result (Answer op) × Validation) :=
  match choice, op with
  | .proceed, .now => some (.ok state.now, state)
  | .locked locked, .recoverStale now limit =>
      let (count, rows) := recoverStale deployed.settings state.database.projections now limit locked
      some (.ok count, state.withRows rows)
  | .locked locked, .claim limit now =>
      let (taken, rows) := claim state.database.projections limit now locked
      some (.ok taken, state.withRows rows)
  | .proceed, .validateOne id now =>
      match validateOne deployed.library state.database.projections id now with
      | .ok (ready, rows) =>
          let history := if ready then state.readied ++ [id] else state.readied
          some (.ok ready, { state.withRows rows with readied := history })
      | .error raised => some (.error raised, state)
  | .fault, .recoverStale _ _ => some (.error ⟨.sqlAlchemyError, ""⟩, state)
  | .fault, .claim _ _ => some (.error ⟨.sqlAlchemyError, ""⟩, state)
  | .fault, .validateOne _ _ => some (.error ⟨.sqlAlchemyError, ""⟩, state)
  | _, _ => none

/-- What happens by itself: time passes, and a page is stored, or rolled back. -/
inductive Happening where
  | tick (elapsed : Nat)
  | persist (context : ItemContext) (result : ProviderFetchResult)

/-- One happening. -/
def happen (deployed : Deployment) (state : Validation) : Happening → Option Validation
  | .tick elapsed => some { state with now := state.now + elapsed }
  | .persist context result =>
      match persistFetchResult deployed.rules state.database context result with
      | .ok (_, db) => some { state with database := db }
      | .error _ => some state

/-- **The workers**; a batch is started with its limit. -/
def validations (deployed : Deployment) :
    System signature (Result ProjectionValidationReport) Validation Choice Int Happening where
  program limit := processBatch limit
  accept state _ := some state
  exec state _ op choice := exec deployed state op choice
  crash state _ := state
  env := happen deployed

end NewsCollect.SafeProjection
