/-
**Stale runs.**

Two passes end runs that are still marked as running long after they were started. One looks at the
runs of targets and at their locks and dispatch markers; the other, older than targets, looks at
every run and at the keys of the legacy runner. Each pass is one transaction.

* `recoverStaleTargetRuns`, `recoverStaleRuns`.
-/

import NewsCollect.Collection.Transactions

namespace NewsCollect.Collection

open Calendar

/-- `redis.exists(key)`. -/
def present (redis : Redis) (now : Int) (key : Key) : Bool := (Expiring.get redis now key).isSome

/-- The lock of the target of a run. -/
def Run.locked (redis : Redis) (now : Int) (run : Run) : Bool :=
  run.targetId.any fun target => present redis now (.targetLock target run.runMode)

/-- The marker of the dispatch that started a run. -/
def Run.marked (redis : Redis) (now : Int) (run : Run) : Bool :=
  run.dispatchIdentity.any fun identity => present redis now (.dispatch identity)

/-- A running run that was started before an instant. -/
def Run.staleBefore (threshold : Int) (run : Run) : Bool :=
  run.status == .running && run.startedAt < threshold

/-- The target of a run that has been recovered. -/
def staleTarget (now retryDelaySeconds : Int) (target : Target) : Target :=
  { target with
    healthStatus := .degraded
    lastErrorCode := some "stale_run"
    consecutiveFailures := target.consecutiveFailures + 1
    nextRetryAt := some (now + retryDelaySeconds * second) }

/-- End one run of a target, unless it is held. -/
def recoverTargetRun (redis : Redis) (now retryDelaySeconds : Int) (state : Database × Nat)
    (run : Run) : Database × Nat :=
  match run.targetId with
  | none => state
  | some targetId =>
      if run.locked redis now || run.marked redis now then state
      else
        match state.1.target targetId with
        | none => state
        | some _ =>
            ((state.1.setRun run.id (failedRun now "stale_run")).setTarget targetId
              (staleTarget now retryDelaySeconds), state.2 + 1)

/-- `recover_stale_target_runs`: the tables after it, and how many runs it has ended. -/
def recoverStaleTargetRuns (db : Database) (redis : Redis) (now staleBefore : Int)
    (retryDelaySeconds : Int) : Database × Nat :=
  (db.runs.filter fun run => run.targetId.isSome && run.staleBefore staleBefore).foldl
    (recoverTargetRun redis now retryDelaySeconds) (db, 0)

/-- The keys of the legacy runner for a run. -/
def Run.legacyHeld (redis : Redis) (now : Int) (run : Run) : Bool :=
  present redis now (.legacyLock run.sourceId run.sourceAccountId) ||
    present redis now (.legacyRetry run.id)

/-- A run that the legacy pass ends. -/
def staleRun (now : Int) (run : Run) : Run :=
  { run with
    status := .failed
    finishedAt := some now
    errorCount := run.errorCount + 1
    errorCode := some "COLLECTION_STALE_RUN"
    errorMessageRedacted := some "stale collection run recovered" }

/-- The source of such a run. -/
def failingSource (source : Source) : Source :=
  { source with consecutiveFailures := source.consecutiveFailures + 1 }

/-- End one run, unless the legacy runner holds it. -/
def recoverRun (redis : Redis) (now : Int) (state : Database × Nat) (run : Run) :
    Database × Nat :=
  if run.legacyHeld redis now then state
  else
    ((state.1.setRun run.id (staleRun now)).setSource run.sourceId failingSource, state.2 + 1)

/-- `recover_stale_runs`. -/
def recoverStaleRuns (db : Database) (redis : Redis) (now staleAfterSeconds : Int) :
    Database × Nat :=
  (db.runs.filter (Run.staleBefore (now - staleAfterSeconds * second))).foldl
    (recoverRun redis now) (db, 0)

end NewsCollect.Collection
