/-
**The handoff of facts.**

Facts that are ready are handed over to the evidence: each projection has a link, and a worker that
has claimed a link makes or finds the content and the evidence item of its facts, under the locks of
all rows that are read. A link that is refused is blocked, one that fails is tried again.

* `recoverStale`, `discoverReady`, `claim`, `terminal`, `retry`: the transactions of the links.
* `linkOne`, `processBatch`: one item and one batch, as programs.
* `handoffs`: the workers as a system.
-/

import NewsCollect.Evidence.Linking
import NewsCollect.Library.Claiming
import NewsCollect.Library.Pool

namespace NewsCollect.Evidence

open Collection Interleaving SafeProjection

/-! ### The links -/

/-- How often a link is tried, after how long a worker is late, and how long a link waits. -/
structure HandoffSettings where
  maxAttempts : Nat
  staleAfter : Int
  retryDelay : Int
  positive : 1 ≤ maxAttempts

section Links

variable (settings : HandoffSettings)

/-- The links whose worker is late. -/
def isStale (cutoff : Int) (link : EvidenceProjectionLink) : Bool :=
  link.status = .processing ∧ link.updatedAt < cutoff

/-- A link whose worker is late is tried again, if it may be. -/
def recoveredLink (now : Int) (link : EvidenceProjectionLink) : EvidenceProjectionLink :=
  if settings.maxAttempts ≤ link.attemptCount then
    { link with
      status := .blocked
      safeErrorCode := some "evidence_handoff_retry_exhausted"
      nextRetryAt := none
      updatedAt := now }
  else
    { link with
      status := .retry
      safeErrorCode := some "evidence_handoff_stale"
      nextRetryAt := some now
      updatedAt := now }

/-- `_recover_stale`: how many links it has written, and the tables. -/
def recoverStale (store : Store) (now : Int) (limit : Nat) (locked : List Uuid) : Nat × Store :=
  let taken := Table.pick EvidenceProjectionLink.id (isStale (now - settings.staleAfter))
    (fun left right => left.updatedAt < right.updatedAt ||
      left.updatedAt == right.updatedAt && left.id ≤ right.id) limit locked store.links
  (taken.length,
    { store with
      links := Table.modifyEach EvidenceProjectionLink.id store.links
        (taken.map EvidenceProjectionLink.id) (recoveredLink settings now) })

/-- Facts that are ready, with the time they were observed at. -/
def readyFacts (store : Store) (projection : Projection) : Option (Int × Uuid) :=
  if projection.processingStatus = .ready then
    (store.observation projection.observationId).map fun observation =>
      (observation.observedAt, projection.id)
  else none

/-- An order of facts: by their times, and then by their identifiers. -/
def observedBefore (left right : Int × Uuid) : Bool :=
  left.1 < right.1 || left.1 == right.1 && left.2 ≤ right.2

/-- The facts that are ready and have no link, the first that were observed first. -/
def unlinked (store : Store) (limit : Nat) : List Uuid :=
  (((store.projections.filterMap (readyFacts store)).filter fun facts =>
    store.links.all fun link => link.safeFactProjectionId ≠ facts.2).insertionSort
    (observedBefore · ·)).take limit |>.map Prod.snd

/-- A link that waits for the first time. -/
def pendingLink (now : Int) (projectionId id : Uuid) : EvidenceProjectionLink where
  id := id
  safeFactProjectionId := projectionId
  evidenceItemId := none
  contentItemId := none
  status := .pending
  attemptCount := 0
  nextRetryAt := none
  safeErrorCode := none
  linkedAt := none
  canonicalEvidence := false
  canonicalContent := false
  createdAt := now
  updatedAt := now

/-- `INSERT ... ON CONFLICT (safe_fact_projection_id) DO NOTHING`. -/
def insertLink (links : List EvidenceProjectionLink) (link : EvidenceProjectionLink) :
    Except Failure (List EvidenceProjectionLink) :=
  if links.any fun other => other.safeFactProjectionId = link.safeFactProjectionId then .ok links
  else if links.any fun other => other.id = link.id then .error .integrity
  else .ok (links ++ [link])

/-- `_discover_ready`, with the identifiers the database gives. -/
def discoverReady (store : Store) (limit : Nat) (now : Int) (given : List Uuid) :
    Except Failure Store := do
  let links ← ((unlinked store limit).zip given).foldlM
    (fun links entry => insertLink links (pendingLink now entry.1 entry.2)) store.links
  pure { store with links := links }

/-- The facts of a link, if they are ready. -/
def factsOf (store : Store) (link : EvidenceProjectionLink) : Option (Int × Uuid) :=
  (store.projection link.safeFactProjectionId).bind (readyFacts store)

/-- The links that wait, with facts that are ready. -/
def isWaiting (store : Store) (now : Int) (link : EvidenceProjectionLink) : Bool :=
  (link.status = .pending ∨ link.status = .retry) ∧ link.nextRetryAt.all (· ≤ now) = true ∧
    (factsOf store link).isSome = true

/-- The order in which links are claimed. -/
def claimedBefore (store : Store) (left right : EvidenceProjectionLink) : Bool :=
  match factsOf store left, factsOf store right with
  | some first, some second =>
      first.1 < second.1 || first.1 == second.1 &&
        (first.2 < second.2 || first.2 == second.2 && left.id ≤ right.id)
  | _, _ => false

/-- A link that a worker has from now on. -/
def claimedLink (now : Int) (link : EvidenceProjectionLink) : EvidenceProjectionLink :=
  { link with
    status := .processing
    attemptCount := link.attemptCount + 1
    safeErrorCode := none
    nextRetryAt := none
    updatedAt := now }

/-- `_claim`: the links it has taken, and the tables. -/
def claim (store : Store) (limit : Nat) (now : Int) (locked : List Uuid) : List Uuid × Store :=
  let taken := Table.pick EvidenceProjectionLink.id (isWaiting store now) (claimedBefore store) limit
    locked store.links
  (taken.map EvidenceProjectionLink.id,
    { store with
      links := Table.modifyEach EvidenceProjectionLink.id store.links
        (taken.map EvidenceProjectionLink.id) (claimedLink now) })

/-- A link that is refused. -/
def blockedLink (now : Int) (code : String) (link : EvidenceProjectionLink) :
    EvidenceProjectionLink :=
  { link with status := .blocked, safeErrorCode := some code, nextRetryAt := none, updatedAt := now }

/-- `_terminal`. -/
def terminal (store : Store) (id : Uuid) (code : String) (now : Int) : Store :=
  if (store.link id).any fun link => link.status = .processing then
    { store with
      links := Table.modify EvidenceProjectionLink.id store.links id (blockedLink now code) }
  else store

/-- How an item of a batch ends. -/
inductive Outcome where
  | linked
  | blocked
  | retry
deriving DecidableEq, Repr

/-- A link that failed is tried again, if it may be. -/
def retriedLink (now : Int) (code : String) (link : EvidenceProjectionLink) :
    EvidenceProjectionLink :=
  if settings.maxAttempts ≤ link.attemptCount then
    { link with
      status := .blocked
      safeErrorCode := some "evidence_handoff_retry_exhausted"
      nextRetryAt := none
      updatedAt := now }
  else
    { link with
      status := .retry
      safeErrorCode := some code
      nextRetryAt := some (now + settings.retryDelay)
      updatedAt := now }

/-- `_retry`. -/
def retry (store : Store) (id : Uuid) (code : String) (now : Int) : Outcome × Store :=
  match store.link id with
  | none => (.blocked, store)
  | some link =>
      if link.status ≠ .processing then (.blocked, store)
      else
        (if settings.maxAttempts ≤ link.attemptCount then .blocked else .retry,
          { store with
            links := Table.modify EvidenceProjectionLink.id store.links id
              (retriedLink settings now code) })

end Links

/-! ### The worker -/

/-- What a worker asks for. -/
inductive Op where
  | now
  | recoverStale (now : Int) (limit : Nat)
  | discoverReady (limit : Nat)
  | claim (limit : Nat) (now : Int)
  | inspect (id : Uuid)
  | link (id : Uuid) (located : Located) (now : Int)
  | terminal (id : Uuid) (code : String) (now : Int)
  | retry (id : Uuid) (code : String) (now : Int)

/-- What each is answered with, unless it fails. -/
@[reducible] def Answer : Op → Type
  | .now => Int
  | .recoverStale _ _ => Nat
  | .discoverReady _ => Unit
  | .claim _ _ => List Uuid
  | .inspect _ => Option Located
  | .link _ _ _ => Unit
  | .terminal _ _ _ => Unit
  | .retry _ _ _ => Outcome

abbrev signature : Signature := .raising Answer Failure

abbrev Procedure : Type → Type := ExceptT Failure (Program signature)

/-- Ask for one operation. -/
abbrev ask (op : Op) : Procedure (Answer op) := request op

/-- The transaction of `_link_one`: whether it has linked the item. -/
def linkTransaction (id : Uuid) (now : Int) : Procedure Bool := do
  match ← ask (.inspect id) with
  | none => pure false
  | some located => do
      ask (.link id located now)
      pure true

/-- `_link_one`. -/
def linkOne (id : Uuid) (now : Int) : Procedure Outcome := do
  match ← attempt (linkTransaction id now) with
  | .ok true => pure .linked
  | .ok false => pure .blocked
  | .error (.raised error) =>
      if error.isAny [.handoffConflict] then do
        ask (.terminal id error.message now)
        pure .blocked
      else throw (.raised error)
  | .error .integrity => ask (.retry id "evidence_handoff_integrity_conflict" now)
  | .error (.database sqlstate) =>
      ask (.retry id (if isRetryableDatabaseConcurrency sqlstate then
        "evidence_handoff_concurrent_write" else "evidence_handoff_database_error") now)

/-- One item of a batch. -/
def handOff (id : Uuid) (now : Int) : Procedure Outcome := do
  match ← attempt (linkOne id now) with
  | .ok outcome => pure outcome
  | .error _ => ask (.retry id "evidence_handoff_unexpected" now)

structure EvidenceHandoffReport where
  claimed : Nat
  linked : Nat
  blocked : Nat
  retried : Nat
  recovered : Nat
deriving DecidableEq, Repr

/-- The items of a batch, in order. -/
def handOffAll (now : Int) : EvidenceHandoffReport → List Uuid → Procedure EvidenceHandoffReport
  | report, [] => pure report
  | report, id :: ids => do
      let report ← match ← handOff id now with
        | .linked => pure { report with linked := report.linked + 1 }
        | .blocked => pure { report with blocked := report.blocked + 1 }
        | .retry => pure { report with retried := report.retried + 1 }
      handOffAll now report ids

/-- `process_batch`. -/
def processBatch (limit : Int) : Procedure EvidenceHandoffReport := do
  if ¬(1 ≤ limit ∧ limit ≤ 500) then
    throw (.raised ⟨.valueError, "evidence_handoff_limit_invalid"⟩)
  else do
    let now ← ask .now
    let recovered ← ask (.recoverStale now limit.toNat)
    ask (.discoverReady limit.toNat)
    let claimed ← ask (.claim limit.toNat now)
    handOffAll now ⟨claimed.length, 0, 0, 0, recovered⟩ claimed

/-! ### The workers as a system -/

/-- **The shared state**: the tables and the clock. -/
structure Handoff where
  store : Store
  now : Int

/-- What the environment decides: that an operation is done, with the identifiers the database gives
or with the rows it finds locked, or that it fails and is rolled back. -/
inductive Choice where
  | proceed
  | given (ids : List Uuid)
  | locked (rows : List Uuid)
  | fails (failure : Failure)

/-- The functions of the standard library, and the settings of the workers. -/
structure Deployment where
  library : StandardLibrary
  settings : HandoffSettings

/-- What a transaction leaves: its tables, or those there were. -/
def Handoff.after {α : Type} (state : Handoff) :
    Except Failure (α × Store) → Except Failure α × Handoff
  | .ok (answer, store) => (.ok answer, { state with store := store })
  | .error failure => (.error failure, state)

/-- A transaction that ends. -/
def transact (deployed : Deployment) (state : Handoff) (op : Op) (choice : Choice) :
    Option (Except Failure (Answer op × Store)) :=
  let store := state.store
  match op, choice with
  | .now, .proceed => some (.ok (state.now, store))
  | .recoverStale now limit, .locked locked =>
      some (.ok (recoverStale deployed.settings store now limit locked))
  | .discoverReady limit, .given ids =>
      some ((discoverReady store limit state.now ids).map fun store => ((), store))
  | .claim limit now, .locked locked => some (.ok (claim store limit now locked))
  | .inspect id, .proceed => some ((inspect deployed.library store id).map fun found => (found, store))
  | .link id located now, .given [contentId, evidenceId] =>
      some ((linkLocked deployed.library store id located now contentId evidenceId).map
        fun store => ((), store))
  | .terminal id code now, .proceed => some (.ok ((), terminal store id code now))
  | .retry id code now, .proceed => some (.ok (retry deployed.settings store id code now))
  | .now, .fails _ => none
  | _, .fails failure => some (.error failure)
  | _, _ => none

/-- **One operation.** -/
def exec (deployed : Deployment) (state : Handoff) (op : Op) (choice : Choice) :
    Option (Except Failure (Answer op) × Handoff) :=
  (transact deployed state op choice).map state.after

/-- What happens by itself: time passes, and others write the tables that are not of the evidence. -/
inductive Happening where
  | tick (elapsed : Nat)
  | elsewhere (database : Database)

/-- One happening. -/
def happen (state : Handoff) : Happening → Handoff
  | .tick elapsed => { state with now := state.now + elapsed }
  | .elsewhere database => { state with store := { state.store with toDatabase := database } }

/-- **The workers**; a batch is started with its limit. -/
def handoffs (deployed : Deployment) :
    System signature (Except Failure EvidenceHandoffReport) Handoff Choice Int Happening where
  program limit := processBatch limit
  accept state _ := some state
  exec state _ op choice := exec deployed state op choice
  crash state _ := state
  env state action := some (happen state action)

end NewsCollect.Evidence
