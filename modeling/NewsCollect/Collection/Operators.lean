/-
**The operators of a target.**

Operators revise and pause a target, list its pending continuations, and abandon them, while workers
take dispatches of it, start runs and store pages. Every call is a transaction: it raises and
changes nothing, or commits. A continuation that is cleared is stored as the JSON `null`, which a
query does not take for a missing value, though it is read as one.

* `pauseForContinuationAbandon`, `pendingContinuations`, `abandonPendingContinuations`.
* `Desk`, `Act`, `Desk.act`: the tables under any interleaving of the transactions.
* `Runs`: what has happened, call by call.
-/

import NewsCollect.Collection.Control

namespace NewsCollect.Collection

open Calendar Providers

/-! ### The calls of an operator -/

/-- The target at the revision that is expected. -/
def Database.targetAt (db : Database) (targetId : Uuid) (expectedRevision : Int) : Option Target :=
  (db.target targetId).filter fun target => target.configRevision == expectedRevision

/-- The target that waits for an abandonment. -/
def Target.pause (target : Target) : Target := { target with status := .paused, nextRetryAt := none }

/-- `pause_for_continuation_abandon`. -/
def pauseForContinuationAbandon (db : Database) (targetId : Uuid) (expectedRevision : Int) :
    Result Database :=
  match db.targetAt targetId expectedRevision with
  | none => raise .targetRepositoryError "target_revision_conflict"
  | some target => do
      require (!db.inFlight targetId) .targetRepositoryError "target_revision_in_flight"
      require (target.status == .active || target.status == .paused) .targetRepositoryError
        "target_abandon_pause_invalid"
      pure (if target.status == .paused then db else db.setTarget targetId Target.pause)

/-- What an operator reviews of a continuation. -/
structure PendingContinuationToken where
  cursorVersion : Int
  runMode : String
  boundRunId : Uuid
  continuationHash : String
deriving DecidableEq, Repr

/-- The place of a mode in the order of the database. -/
def RunMode.rank : RunMode → Nat
  | normal => 0
  | backfill => 1

/-- `order_by(cursor_version, run_mode)`. -/
def Cursor.before (left right : Cursor) : Bool :=
  left.cursorVersion < right.cursorVersion ||
    (left.cursorVersion == right.cursorVersion && left.runMode.rank ≤ right.runMode.rank)

/-- The cursors of a target, in their order. -/
def Database.targetCursors (db : Database) (targetId : Uuid) : List Cursor :=
  (db.cursors.filter fun cursor => cursor.targetId == some targetId).insertionSort
    fun left right => left.before right

/-- The reasons for an abandonment. -/
def abandonReasons : List String :=
  ["continuation_unrecoverable", "operator_reviewed_reset", "provider_continuation_invalid"]

/-- The cursor without its continuation. -/
def Cursor.abandon (cursor : Cursor) : Cursor :=
  { cursor with continuation := none, continuationRunId := none }

/-- The tables without the continuations of a target. -/
def Database.abandon (db : Database) (targetId : Uuid) : Database :=
  { db with
    cursors := db.cursors.map fun cursor =>
      if cursor.targetId == some targetId && cursor.continuation.isSome then cursor.abandon
      else cursor }

section Calls

variable (rules : Rules)

/-- `_continuation_token`. -/
def continuationToken (cursor : Cursor) : Result PendingContinuationToken :=
  match cursor.continuation, cursor.continuationRunId with
  | some continuation, some runId =>
      .ok ⟨cursor.cursorVersion, cursor.runMode.value, runId,
        rules.canonicalProjectionHash continuation⟩
  | _, _ => raise .targetRepositoryError "target_continuation_binding_invalid"

/-- `pending_continuations`, where the continuations of these rows are the JSON `null`. -/
def pendingContinuations (db : Database) (jsonNulls : List Uuid) (targetId : Uuid)
    (expectedRevision : Int) : Result (List PendingContinuationToken) :=
  match db.targetAt targetId expectedRevision with
  | none => raise .targetRepositoryError "target_revision_conflict"
  | some _ =>
      ((db.targetCursors targetId).filter fun cursor =>
        cursor.continuation.isSome || jsonNulls.contains cursor.id).mapM (continuationToken rules)

/-- `abandon_pending_continuations`: how many have been abandoned. -/
def abandonPendingContinuations (db : Database) (targetId : Uuid) (expectedRevision : Int)
    (expected : List PendingContinuationToken) (reasonCode : String) : Result (Nat × Database) := do
  require (abandonReasons.contains reasonCode) .targetRepositoryError
    "continuation_abandon_reason_invalid"
  match db.targetAt targetId expectedRevision with
  | none => raise .targetRepositoryError "target_revision_conflict"
  | some target =>
      let pending := (db.targetCursors targetId).filter fun cursor => cursor.continuation.isSome
      if pending.isEmpty then pure (0, db)
      else do
        let actual ← pending.mapM (continuationToken rules)
        require (actual == expected) .targetRepositoryError "target_continuation_changed"
        require (!db.inFlight targetId) .targetRepositoryError "target_revision_in_flight"
        require (actual.all fun token => db.runs.any fun run =>
            run.targetId == some targetId && run.id == token.boundRunId)
          .targetRepositoryError "target_continuation_run_missing"
        require (target.status == .paused) .targetRepositoryError
          "target_continuation_abandon_requires_paused"
        pure (pending.length, db.abandon targetId)

end Calls

section Inversions

variable {rules : Rules} {db db' : Database} {targetId : Uuid} {expected : Int}

theorem targetAt_eq_some {target : Target} (found : db.targetAt targetId expected = some target) :
    db.target targetId = some target ∧ target.configRevision = expected := by
  obtain ⟨held, same⟩ := Option.filter_eq_some_iff.1 found
  exact ⟨held, by simpa using same⟩

/-- A target is paused at the number that is expected, when no run of it is running. -/
theorem pause_eq_ok (ok : pauseForContinuationAbandon db targetId expected = .ok db') :
    ∃ target, db.target targetId = some target ∧ target.configRevision = expected ∧
      db.inFlight targetId = false ∧ (target.status = .paused ∧ db' = db ∨
        target.status = .active ∧ db' = db.setTarget targetId Target.pause) := by
  unfold pauseForContinuationAbandon at ok
  split at ok
  · exact absurd ok nofun
  · next target found =>
    obtain ⟨held, same⟩ := targetAt_eq_some found
    obtain ⟨calm, ok⟩ := check_eq_ok.1 ok
    obtain ⟨status, ok⟩ := check_eq_ok.1 ok
    have known : target.status = .active ∨ target.status = .paused := by
      simpa using require_eq_ok.1 status
    refine ⟨target, held, same, by simpa using require_eq_ok.1 calm, ?_⟩
    rw [← pure_eq_ok.1 ok]
    rcases known with active | paused
    · exact .inr ⟨active, by rw [active]; rfl⟩
    · exact .inl ⟨paused, by rw [paused]; rfl⟩

/-- An abandonment finds nothing pending, or it clears what is. -/
theorem abandon_eq_ok {tokens : List PendingContinuationToken} {reason : String} {count : Nat}
    (ok : abandonPendingContinuations rules db targetId expected tokens reason =
      .ok (count, db')) : db' = db ∨ db' = db.abandon targetId := by
  obtain ⟨-, ok⟩ := check_eq_ok.1 ok
  split at ok
  · exact absurd ok nofun
  · dsimp only at ok
    split at ok
    · exact .inl (Prod.mk.inj (pure_eq_ok.1 ok)).2.symm
    · obtain ⟨actual, -, ok⟩ := bind_eq_ok.1 ok
      obtain ⟨-, ok⟩ := check_eq_ok.1 ok
      obtain ⟨-, ok⟩ := check_eq_ok.1 ok
      obtain ⟨-, ok⟩ := check_eq_ok.1 ok
      obtain ⟨-, ok⟩ := check_eq_ok.1 ok
      exact .inr (Prod.mk.inj (pure_eq_ok.1 ok)).2.symm

end Inversions

/-! ### The tables under all transactions -/

/-- What a worker has in hand: its dispatch, the target it has loaded, and the run it has started,
with the cursor it has found. -/
structure Held where
  dispatch : TargetDispatch
  mode : RunMode
  loaded : LoadedTarget
  run : Option (Uuid × Option Cursor)

/-- **The tables**, with the rows whose continuation is the JSON `null`, and what the workers have
in hand. -/
structure Desk where
  database : Database
  jsonNulls : List Uuid
  now : Int
  held : Nat → Option Held

/-- What may happen: a transaction of a worker, a pass over the runs, a checkpoint of the legacy
runner, or a call of an operator. -/
inductive Act where
  | tick (elapsed : Nat)
  | take (who : Nat) (dispatch : TargetDispatch)
  | credentialMissing (who : Nat)
  | start (who : Nat)
  | resolve (who : Nat)
  | reserve (who : Nat)
  | persist (who : Nat) (page : PageWrite)
  | finishError (who : Nat) (code : String) (retryable : Bool) (retryAfter : Option (Nat × Nat))
  | finishLockLost (who : Nat)
  | leave (who : Nat)
  | recover (redis : Redis) (staleBefore retryDelaySeconds : Int)
  | recoverLegacy (redis : Redis) (staleAfterSeconds : Int)
  | advanceLegacy (account : Uuid) (cursorType value : String)
  | revise (targetId : Uuid) (expectedRevision : Int) (values : TargetRevision)
  | pause (targetId : Uuid) (expectedRevision : Int)
  | abandon (targetId : Uuid) (expectedRevision : Int) (expected : List PendingContinuationToken)
      (reasonCode : String)

/-- What a transaction returns. -/
inductive Returned where
  | done
  | started (runId : Uuid)
  | revised (revision : Int)
  | abandoned (count : Nat)
deriving DecidableEq, Repr

/-- The rows whose continuation is the JSON `null` after a transaction. A row of a target is
inserted with the `None` it has been given; a `None` for a missing value is no change of the row. -/
def nullsAfter (db db' : Database) (jsonNulls : List Uuid) : List Uuid :=
  (db'.cursors.filter fun cursor => cursor.continuation.isNone &&
    match Table.find Cursor.id db.cursors cursor.id with
    | some old => old.continuation.isSome || jsonNulls.contains cursor.id
    | none => cursor.targetId.isSome).map Cursor.id

namespace Desk

/-- The end of a transaction, which changes nothing when it raises. -/
def commit (desk : Desk) : Result (Returned × Database) → Result Returned × Desk
  | .ok (returned, db) =>
      (.ok returned,
        { desk with database := db, jsonNulls := nullsAfter desk.database db desk.jsonNulls })
  | .error raised => (.error raised, desk)

/-- A transaction that returns nothing. -/
def commitUnit (desk : Desk) (result : Result Database) : Result Returned × Desk :=
  desk.commit (result.map fun db => (.done, db))

/-- What a worker takes in hand, or lets go. -/
def hold (desk : Desk) (who : Nat) (held : Option Held) : Desk :=
  { desk with held := Function.update desk.held who held }

/-- A worker that takes a dispatch checks its mode and its identity, and loads its target. -/
def take (desk : Desk) (registry : OperationRegistry) (who : Nat) (dispatch : TargetDispatch) :
    Option (Result Returned × Desk) :=
  (RunMode.parse dispatch.runMode).bind fun mode =>
    if dispatch.dispatchId = ⟨dispatch.targetId, dispatch.configRevision, dispatch.scheduledSlot,
        mode.value⟩ then
      match loadForExecution registry desk.database dispatch.targetId dispatch.configRevision with
      | .ok loaded => some (.ok .done, desk.hold who (some ⟨dispatch, mode, loaded, none⟩))
      | .error raised => some (.error raised, desk)
    else none

/-- A worker that starts its run keeps it in hand. -/
def start (desk : Desk) (who : Nat) (held : Held) : Result Returned × Desk :=
  match startRun desk.database desk.now held.loaded held.dispatch held.mode with
  | .ok (started, db) =>
      (.ok (.started started.1),
        (desk.commit (.ok (.done, db))).2.hold who (some { held with run := some started }))
  | .error raised => (.error raised, desk)

/-- **One transaction.** The pages of a target are stored as its contract has them. -/
def act (deployed : Deployment) (desk : Desk) : Act → Option (Result Returned × Desk)
  | .tick elapsed => some (.ok .done, { desk with now := desk.now + elapsed })
  | .take who dispatch => desk.take deployed.registry who dispatch
  | .credentialMissing who => (desk.held who).map fun held =>
      desk.commit (.ok (.done, markCredentialMissing desk.database desk.now held.loaded))
  | .start who => (desk.held who).map (desk.start who)
  | .resolve who => (desk.held who).bind fun held => held.run.map fun run =>
      desk.commitUnit ((resolvedRunConfig deployed.rules desk.database run.1 held.loaded run.2
        held.mode).map Prod.snd)
  | .reserve who => (desk.held who).bind fun held => held.run.map fun run =>
      desk.commitUnit ((reserveRequest desk.database desk.now held.loaded run.1).map Prod.snd)
  | .persist who page => (desk.held who).bind fun held => held.run.bind fun run =>
      if page.pageMode = (held.loaded.contract.paginationCapability == .boundedWindowV1) then
        some (desk.commitUnit (persistResult deployed.rules desk.database desk.now held.loaded
          held.dispatch run.1 held.mode page))
      else none
  | .finishError who code retryable retryAfter =>
      (desk.held who).bind fun held => held.run.map fun run =>
        desk.commit (.ok (.done, (finishError desk.database desk.now held.loaded held.dispatch run.1
          code retryable retryAfter).2))
  | .finishLockLost who => (desk.held who).bind fun held => held.run.map fun run =>
      desk.commit (.ok (.done,
        finishLockLost desk.database desk.now held.loaded held.dispatch run.1))
  | .leave who => some (.ok .done, desk.hold who none)
  | .recover redis staleBefore delay => some (desk.commit
      (.ok (.done, (recoverStaleTargetRuns desk.database redis desk.now staleBefore delay).1)))
  | .recoverLegacy redis staleAfter => some (desk.commit
      (.ok (.done, (recoverStaleRuns desk.database redis desk.now staleAfter).1)))
  | .advanceLegacy account cursorType value =>
      (Collection.advanceLegacy deployed.rules.reader desk.database account cursorType value).map
        fun db => desk.commit (.ok (.done, db))
  | .revise targetId expected values => some (desk.commit
      ((Collection.revise deployed.registry desk.database desk.now targetId expected values).map
        fun result => (.revised result.1, result.2)))
  | .pause targetId expected => some (desk.commitUnit
      (pauseForContinuationAbandon desk.database targetId expected))
  | .abandon targetId expected tokens reason => some (desk.commit
      ((abandonPendingContinuations deployed.rules desk.database targetId expected tokens
        reason).map fun result => (.abandoned result.1, result.2)))

end Desk

/-! ### Runs -/

/-- One transaction of a run, between the tables before it and after it. -/
structure Happened where
  before : Desk
  act : Act
  reply : Result Returned
  after : Desk

/-- **What has happened**, transaction by transaction, since the first tables. -/
inductive Runs (deployed : Deployment) (first : Desk) : List Happened → Desk → Prop where
  | refl : Runs deployed first [] first
  | step {log desk} (act : Act) {reply next} (run : Runs deployed first log desk)
      (acted : desk.act deployed act = some (reply, next)) :
      Runs deployed first (log ++ [⟨desk, act, reply, next⟩]) next

/-- **The invariant rule**: what every transaction preserves holds of all tables reached. -/
theorem Runs.invariant {deployed : Deployment} {first desk : Desk} {log : List Happened}
    {holds : Desk → Prop} (runs : Runs deployed first log desk) (start : holds first)
    (kept : ∀ desk act reply next, holds desk → desk.act deployed act = some (reply, next) →
      holds next) : holds desk ∧ ∀ entry ∈ log, holds entry.before ∧
        entry.before.act deployed entry.act = some (entry.reply, entry.after) := by
  induction runs with
  | refl => exact ⟨start, by simp⟩
  | step act run acted ih =>
      obtain ⟨held, every⟩ := ih
      refine ⟨kept _ _ _ _ held acted, fun entry member => ?_⟩
      rcases List.mem_append.1 member with old | new
      · exact every entry old
      · obtain rfl := List.mem_singleton.1 new
        exact ⟨held, acted⟩

/-- The transactions of a list, in their order. -/
def Desk.trace (deployed : Deployment) : Desk → List Act → Option (List Happened × Desk)
  | desk, [] => some ([], desk)
  | desk, act :: acts => (desk.act deployed act).bind fun acted =>
      (Desk.trace deployed acted.2 acts).map fun later =>
        (⟨desk, act, acted.1, acted.2⟩ :: later.1, later.2)

/-- A list of transactions goes on with a run. -/
theorem Runs.of_trace {deployed : Deployment} {acts : List Act} {first desk last : Desk}
    {log later : List Happened} (runs : Runs deployed first log desk)
    (traced : desk.trace deployed acts = some (later, last)) :
    Runs deployed first (log ++ later) last := by
  induction acts generalizing desk log later with
  | nil =>
      obtain ⟨rfl, rfl⟩ := Prod.mk.inj (Option.some.inj traced)
      rwa [List.append_nil]
  | cons act acts ih =>
      obtain ⟨⟨reply, next⟩, acted, traced⟩ := Option.bind_eq_some_iff.1 traced
      obtain ⟨⟨rest, last'⟩, goes, same⟩ := Option.map_eq_some_iff.1 traced
      obtain ⟨rfl, rfl⟩ := Prod.mk.inj same
      rw [List.append_cons]
      exact ih (.step act runs acted) goes

end NewsCollect.Collection
