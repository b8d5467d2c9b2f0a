/-
**Runs that have ended.**

Four transactions of a worker write the outcome of its run, and none of them looks at the status the
run has. A worker that has lost its lock may so reopen or end a run that another party has ended.

* `Orderly`: a run is written by the worker that holds its lock, or while it is still running and
  nobody else with a lock collects it.
* `ended_runs_stay`: in orderly histories a run that has ended stays as it is.
* `ended_run_reopened`: a history in which a run does not.
-/

import NewsCollect.Proof.Locks

namespace NewsCollect.Collection

open Calendar Interleaving Providers

/-! ### The outcome of a run -/

/-- The status of a run, its counts and its end. -/
structure RunLedger where
  status : RunStatus
  finishedAt : Option Int
  fetchedCount : Nat
  requestCount : Nat
  pageCount : Nat
  newCount : Nat
  duplicateCount : Nat
  errorCount : Nat
  retryCount : Nat
deriving DecidableEq

def Run.ledger (run : Run) : RunLedger :=
  ⟨run.status, run.finishedAt, run.fetchedCount, run.requestCount, run.pageCount, run.newCount,
    run.duplicateCount, run.errorCount, run.retryCount⟩

/-- The outcome of a run is what it was, and so is what it has stored. -/
def Same (runId : Uuid) (db db' : Database) (run : Run) : Prop :=
  (∃ run', db'.run runId = some run' ∧ run'.ledger = run.ledger) ∧
    db'.itemsOf runId = db.itemsOf runId ∧ db'.observationsOf runId = db.observationsOf runId

/-- A run that has ended stays as it is. -/
def Stays (runId : Uuid) (db db' : Database) : Prop :=
  ∀ run, db.run runId = some run → run.status.terminal = true → Same runId db db' run

/-- Every run stays as it is. -/
def Keeps (db db' : Database) : Prop :=
  ∀ runId run, db.run runId = some run → Same runId db db' run

namespace Stays

variable {runId : Uuid} {db db' db'' : Database}

theorem refl (runId : Uuid) (db : Database) : Stays runId db db :=
  fun run found _ => ⟨⟨run, found, rfl⟩, rfl, rfl⟩

theorem trans (first : Stays runId db db') (second : Stays runId db' db'') :
    Stays runId db db'' := by
  intro run found ended
  obtain ⟨⟨next, held, same⟩, items, seen⟩ := first run found ended
  have status : next.status = run.status := congrArg RunLedger.status same
  have endedNext : next.status.terminal = true := by rw [status, ended]
  obtain ⟨⟨last, held', same'⟩, items', seen'⟩ := second next held endedNext
  exact ⟨⟨last, held', same'.trans same⟩, items'.trans items, seen'.trans seen⟩

/-- A transaction on a run that is running ends no other. -/
theorem of_touches {writtenId : Uuid} {run : Run} (touches : Touches writtenId db db')
    (found : db.run writtenId = some run) (running : run.status = .running) :
    Stays runId db db' := by
  intro other held ended
  by_cases same : runId = writtenId
  · subst same
    obtain rfl := Option.some.inj (found.symm.trans held)
    rw [running] at ended
    simp [RunStatus.terminal] at ended
  · exact ⟨⟨other, (touches.run_ne _ same).trans held, rfl⟩, touches.itemsOf_ne _ same,
      touches.observationsOf_ne _ same⟩

end Stays

namespace Keeps

variable {db db' : Database}

theorem refl (db : Database) : Keeps db db := fun _ run found => ⟨⟨run, found, rfl⟩, rfl, rfl⟩

theorem stays (keeps : Keeps db db') (runId : Uuid) : Stays runId db db' :=
  fun run found _ => keeps runId run found

/-- A step that keeps the ledgers of all runs, and their rows. -/
theorem of_ledger (ledger : ∀ runId run, db.run runId = some run →
      ∃ run', db'.run runId = some run' ∧ run'.ledger = run.ledger)
    (items : db'.rawItems = db.rawItems) (seen : db'.observations = db.observations) :
    Keeps db db' := fun runId run found =>
  ⟨ledger runId run found, by simp only [Database.itemsOf, items],
    by simp only [Database.observationsOf, seen]⟩

/-- A step that keeps the table of runs, and the rows. -/
theorem of_runs (runs : db'.runs = db.runs) (items : db'.rawItems = db.rawItems)
    (seen : db'.observations = db.observations) : Keeps db db' :=
  of_ledger (fun runId run found => ⟨run, by simpa only [Database.run, runs] using found, rfl⟩)
    items seen

end Keeps

/-! ### Orderly histories -/

/-- The transactions that write the outcome of a run. -/
def Op.settles : Op → Bool
  | .reserveRequest .. | .persistResult .. | .finishError .. | .finishLockLost .. => true
  | _ => false

/-- A run that is running. -/
def Running (db : Database) (runId : Uuid) : Prop :=
  ∃ run, db.run runId = some run ∧ run.status = .running

/-- Some worker that holds its lock collects the run. -/
def Occupied (state : Control) (phases : ℕ → Option Phase) (runId : Uuid) : Prop :=
  ∃ who work, phases who = some (.collecting work) ∧ work.runId = runId ∧
    work.execution.Holds state

/-- The transaction leaves a running run running: it counts a request within the budget, stores a
page that is not the last one, or notes an error that is retried. -/
def Op.spares (db : Database) : Op → Bool
  | .reserveRequest loaded runId =>
      (db.run runId).all fun run => run.requestCount < loaded.target.maxRequestsPerRun &&
        run.pageCount < loaded.target.maxPagesPerRun
  | .persistResult _ _ _ _ page => !page.final
  | .finishError loaded dispatch runId _ retryable _ =>
      retryable && (db.run runId).all (·.retryCount < 3) &&
        (db.target loaded.target.id).all (·.configRevision == dispatch.configRevision)
  | _ => false

/-- **An orderly step.** A worker that writes the outcome of its run holds its lock, or the run is
still running, and is left running if another worker with a lock collects it. The passes over stale
runs of targets belong to orderly histories; the older pass over all runs does not. -/
def Orderly (state : Control) (phases : ℕ → Option Phase) :
    Move signature Choice Job Happening → Prop
  | .work who op _ => op.settles = true → ∀ work, phases who = some (.collecting work) →
      work.execution.Holds state ∨ Running state.database work.runId ∧
        (Occupied state phases work.runId → op.spares state.database = true)
  | .env (.recoverLegacy _) => False
  | _ => True

/-- Whoever holds a lock and collects a run collects a running one. -/
def Tended (state : Control) (phases : ℕ → Option Phase) : Prop :=
  ∀ who work, phases who = some (.collecting work) → work.execution.Holds state →
    Running state.database work.runId

variable {deployed : Deployment} {state state' : Control} {who : Nat}

/-! ### One operation -/

/-- An exception leaves the tables as they are. -/
theorem Executed.database_of_error {op : Op} {raised : PyError}
    (executed : Executed deployed state who op (.error raised) state') :
    state'.database = state.database := by
  generalize same : (.error raised : Result (Answer op)) = reply at executed
  cases executed with
  | failed | ended => rfl
  | found => rfl
  | performed =>
      have committed : ∀ {α : Type} (result : Result (α × Database)),
          .error raised = (state.commit result).1 →
          (state.commit result).2.database = state.database := by
        intro α result same
        cases result with
        | error => rfl
        | ok => simp [Control.commit] at same
      cases op with
      | startRun loaded dispatch mode =>
          unfold perform at same ⊢
          simp only at same ⊢
          split at same
          · simp at same
          · rfl
      | resolvedRunConfig | reserveRequest | persistResult | finishError | finishLockLost |
        markCredentialMissing => exact committed _ same
      | mark due identity ttl =>
          unfold perform
          simp only
          split
          · rfl
          · rfl
      | _ => rfl

/-- A committed transaction has returned its tables. -/
theorem commit_eq_ok {α : Type} {result : Result (α × Database)} {value : α}
    (committed : state.commit result = (.ok value, state')) :
    ∃ db, result = .ok (value, db) ∧ state' = { state with database := db } := by
  cases result with
  | error raised => simp [Control.commit] at committed
  | ok pair =>
      obtain ⟨same, rfl⟩ := Prod.mk.inj committed
      obtain rfl : pair.1 = value := Except.ok.inj same
      exact ⟨pair.2, rfl, rfl⟩

theorem commitUnit_eq_ok {result : Result Database} {value : Unit}
    (committed : state.commitUnit result = (.ok value, state')) :
    ∃ db, result = .ok db ∧ state' = { state with database := db } := by
  obtain ⟨db, same, rfl⟩ := commit_eq_ok committed
  cases result with
  | error raised => simp [Except.map] at same
  | ok held =>
      obtain ⟨-, rfl⟩ := Prod.mk.inj (Except.ok.inj same)
      exact ⟨held, rfl, rfl⟩

/-- A transaction that writes the outcome of a run touches that run only. -/
theorem Executed.touches {op : Op} {reply : Result (Answer op)} {work : Collecting}
    (executed : Executed deployed state who op reply state')
    (allowed : collecting.allowed deployed.rules work op) (settles : op.settles = true) :
    Touches work.runId state.database state'.database := by
  cases reply with
  | error raised =>
      rw [executed.database_of_error]
      exact .refl _ _
  | ok value =>
      cases op with
      | reserveRequest loaded runId =>
          obtain ⟨-, -, -, -, rfl⟩ := allowed
          obtain ⟨db, ok, rfl⟩ := commit_eq_ok (executed.perform_eq (by simp) (by simp))
          obtain ⟨-, -, touches, -⟩ := reserveRequest_eq_ok ok
          exact touches
      | persistResult loaded dispatch runId mode page =>
          obtain ⟨-, -, rfl, -⟩ := allowed
          obtain ⟨db, ok, rfl⟩ := commitUnit_eq_ok (executed.perform_eq (by simp) (by simp))
          exact (persistResult_run ok).1
      | finishError loaded dispatch runId code retryable retryAfter =>
          obtain ⟨-, -, rfl⟩ := allowed
          have done : state.commit (.ok (finishError state.database state.now loaded dispatch
              work.runId code retryable retryAfter)) = (.ok value, state') :=
            executed.perform_eq (by simp) (by simp)
          obtain ⟨db, ok, rfl⟩ := commit_eq_ok done
          obtain ⟨-, rfl⟩ := Prod.mk.inj (Except.ok.inj ok)
          exact finishError_touches
      | finishLockLost loaded dispatch runId =>
          obtain ⟨-, -, rfl⟩ := allowed
          obtain ⟨db, ok, rfl⟩ := commitUnit_eq_ok (executed.perform_eq (by simp) (by simp))
          obtain rfl := Except.ok.inj ok
          exact finishLockLost_touches
      | _ => simp [Op.settles] at settles

/-- An operation that does not write the outcome of a run keeps every ledger. -/
theorem Executed.keeps {op : Op} {reply : Result (Answer op)}
    (executed : Executed deployed state who op reply state') (settles : op.settles = false) :
    Keeps state.database state'.database := by
  cases reply with
  | error raised =>
      rw [executed.database_of_error]
      exact .refl _
  | ok value =>
      have same : state'.database = state.database → Keeps state.database state'.database := by
        intro same
        rw [same]
        exact .refl _
      cases op with
      | fetch runId request =>
          refine same ?_
          generalize told : (.ok value : Result (Answer (.fetch runId request))) = reply at executed
          cases executed with
          | performed => rfl
          | failed => rfl
          | ended => rfl
      | readCursor targetId cursorType mode =>
          refine same ?_
          generalize told : (.ok value : Result (Answer (.readCursor targetId cursorType mode))) =
            reply at executed
          cases executed with
          | performed => rfl
          | failed => rfl
          | found => rfl
      | startRun loaded dispatch mode =>
          have done := executed.perform_eq (by simp) (by simp)
          unfold perform at done
          simp only at done
          split at done
          · next started db ok =>
            obtain ⟨-, rfl⟩ := Prod.mk.inj done
            obtain ⟨target, -, -, -, ⟨run, -, -, rfl⟩ | ⟨-, -, rfl⟩⟩ := startRun_eq_ok ok
            · exact .refl _
            · refine .of_ledger (fun runId run found => ⟨run, ?_, rfl⟩) rfl rfl
              show Table.find Run.id (state.database.runs ++ _) runId = some run
              rw [Table.find_append, show Table.find Run.id state.database.runs runId = some run
                from found]
              rfl
          · simp at done
      | resolvedRunConfig boundId loaded cursor mode =>
          obtain ⟨db, ok, rfl⟩ := commit_eq_ok (executed.perform_eq (by simp) (by simp))
          obtain ⟨run, persisted, db₁, window, found, ensured, -, -, -, -, rfl⟩ :=
            resolvedRunConfig_eq_ok ok
          have kept : db₁.runs = state.database.runs ∧ db₁.rawItems = state.database.rawItems ∧
              db₁.observations = state.database.observations := by
            obtain ⟨-, rfl⟩ | ⟨-, account, -, -, rfl⟩ := ensureCursor_eq_ok ensured
            · exact ⟨rfl, rfl, rfl⟩
            · exact ⟨rfl, rfl, rfl⟩
          refine .of_ledger (fun runId run found => ?_) kept.2.1 kept.2.2
          have held : db₁.run runId = some run := by
            simp only [Database.run, kept.1]
            exact found
          rw [Database.run_setCursor]
          by_cases same : runId = boundId
          · subst same
            rw [db₁.run_setRun_same (Run.bind _ _) fun _ => rfl, held]
            exact ⟨_, rfl, rfl⟩
          · rw [db₁.run_setRun_ne (Run.bind _ _) (fun _ => rfl) same]
            exact ⟨run, held, rfl⟩
      | markCredentialMissing loaded =>
          have done : state.commitUnit (.ok (markCredentialMissing state.database state.now
              loaded)) = (.ok value, state') := executed.perform_eq (by simp) (by simp)
          obtain ⟨db, ok, rfl⟩ := commitUnit_eq_ok done
          obtain rfl := Except.ok.inj ok
          obtain ⟨-, runs, -, items, seen⟩ := @markCredentialMissing_touches state.database state.now
            loaded 0
          exact .of_runs runs items seen
      | mark due identity ttl =>
          refine same ?_
          have done := executed.perform_eq (by simp) (by simp)
          unfold perform at done
          simp only at done
          obtain ⟨-, rfl⟩ := Prod.mk.inj done
          split
          · rfl
          · rfl
      | reserveRequest | persistResult | finishError | finishLockLost =>
          simp [Op.settles] at settles
      | _ =>
          refine same ?_
          obtain ⟨-, rfl⟩ := Prod.mk.inj (executed.perform_eq (by simp) (by simp))
          rfl

/-- A run that keeps its ledger keeps running. -/
theorem Running.of_keeps {db db' : Database} {runId : Uuid} (running : Running db runId)
    (keeps : Keeps db db') : Running db' runId := by
  obtain ⟨run, found, status⟩ := running
  obtain ⟨⟨run', found', same⟩, -⟩ := keeps runId run found
  exact ⟨run', found', (congrArg RunLedger.status same).trans status⟩

/-- A run that is running and spared is running afterwards. -/
theorem Running.of_spares {op : Op} {reply : Result (Answer op)} {work : Collecting}
    (running : Running state.database work.runId)
    (executed : Executed deployed state who op reply state')
    (allowed : collecting.allowed deployed.rules work op)
    (spares : op.spares state.database = true) : Running state'.database work.runId := by
  cases reply with
  | error raised =>
      rw [executed.database_of_error]
      exact running
  | ok value =>
      obtain ⟨run, found, status⟩ := running
      cases op with
      | reserveRequest loaded runId =>
          obtain ⟨-, -, -, -, rfl⟩ := allowed
          obtain ⟨db, ok, rfl⟩ := commit_eq_ok (executed.perform_eq (by simp) (by simp))
          obtain ⟨held, found', -, -, ⟨-, -, used⟩ | ⟨-, next, -⟩⟩ := reserveRequest_eq_ok ok
          · simp only [Op.spares, found', Option.all_some, Bool.and_eq_true,
              decide_eq_true_eq] at spares
            omega
          · obtain rfl := Option.some.inj (found.symm.trans found')
            exact ⟨_, next, status⟩
      | persistResult loaded dispatch runId mode page =>
          obtain ⟨-, -, rfl, -⟩ := allowed
          obtain ⟨db, ok, rfl⟩ := commitUnit_eq_ok (executed.perform_eq (by simp) (by simp))
          obtain ⟨-, held, counts, -, -, next⟩ := persistResult_run ok
          refine ⟨_, next, ?_⟩
          have more : page.final = false := by simpa [Op.spares] using spares
          simp [settledRun, more]
      | finishError loaded dispatch runId code retryable retryAfter =>
          obtain ⟨-, -, rfl⟩ := allowed
          have done : state.commit (.ok (finishError state.database state.now loaded dispatch
              work.runId code retryable retryAfter)) = (.ok value, state') :=
            executed.perform_eq (by simp) (by simp)
          obtain ⟨db, ok, rfl⟩ := commit_eq_ok done
          show Running db work.runId
          have written : (finishError state.database state.now loaded dispatch work.runId code
              retryable retryAfter).2 = db := congrArg Prod.snd (Except.ok.inj ok)
          rw [← written]
          simp only [Op.spares, Bool.and_eq_true, found, Option.all_some, decide_eq_true_eq]
            at spares
          obtain ⟨⟨again, few⟩, current⟩ := spares
          obtain ⟨same, -⟩ | ⟨run', target, found', held, ⟨revised, -⟩ | ⟨retry, retried, same⟩⟩ :=
            finishError_cases state.database state.now loaded dispatch work.runId code retryable
              retryAfter
          · rw [same]
            exact ⟨run, found, status⟩
          · simp [held, revised] at current
          · obtain rfl := Option.some.inj (found.symm.trans found')
            rw [same, retried]
            refine ⟨erroredRun state.now code true run, ?_, rfl⟩
            rw [Database.run_setTarget, Database.run_setRun_same _ (erroredRun _ _ _) fun _ => rfl,
              found, again]
            simp [few]
      | _ => simp [Op.spares] at spares

/-- A run of a worker that still collects it after an operation of that worker is running after it,
if it was before. -/
theorem Running.next {op : Op} {reply : Result (Answer op)} {work work' : Collecting}
    (running : Running state.database work.runId)
    (executed : Executed deployed state who op reply state')
    (allowed : collecting.allowed deployed.rules work op)
    (stays : (Phase.collecting work).next op reply = .collecting work') :
    Running state'.database work.runId := by
  by_cases settles : op.settles = false
  · exact running.of_keeps (executed.keeps settles)
  · cases reply with
    | error raised =>
        rw [executed.database_of_error]
        exact running
    | ok value =>
        refine running.of_spares executed allowed ?_
        cases op with
        | reserveRequest loaded runId =>
            obtain ⟨-, -, -, -, rfl⟩ := allowed
            obtain ⟨db, ok, rfl⟩ := commit_eq_ok (executed.perform_eq (by simp) (by simp))
            obtain ⟨held, found, -, -, ⟨rfl, -⟩ | ⟨-, -, requests, pages⟩⟩ :=
              reserveRequest_eq_ok ok
            · simp [Phase.next, Phase.answered, collecting.answered] at stays
            · simp [Op.spares, found, requests, pages]
        | persistResult loaded dispatch runId mode page =>
            unfold Phase.next Phase.answered collecting.answered at stays
            simp only at stays
            split at stays
            · simp at stays
            · next more => simp [Op.spares, more]
        | finishError | finishLockLost =>
            simp [Phase.next, Phase.answered, collecting.answered] at stays
        | _ => simp [Op.settles] at settles

/-- Two tenures of one run are of one lock. -/
theorem Tenure.Of.lockKey_eq {db : Database} {tenure tenure' : Tenure} (known : tenure.Of db)
    (known' : tenure'.Of db) (same : tenure'.runId = tenure.runId) :
    tenure'.execution.lockKey = tenure.execution.lockKey := by
  obtain ⟨run, found, target, mode⟩ := known
  obtain ⟨run', found', target', mode'⟩ := known'
  rw [same, found] at found'
  obtain rfl := Option.some.inj found'
  rw [target] at target'
  simp only [Execution.lockKey, ← mode, ← mode', Option.some.inj target']

/-- The lock of a run has one holder. -/
theorem Sound.holder_unique {phases : ℕ → Option Phase} {other : Nat} {work work' : Collecting}
    (sound : Sound deployed state phases) (told : phases who = some (.collecting work))
    (told' : phases other = some (.collecting work')) (same : work.runId = work'.runId)
    (holds : work.execution.Holds state) (holds' : work'.execution.Holds state) : who = other := by
  have known := sound.known _ _ told
  have known' := sound.known _ _ told'
  exact holds_unique known.1 known'.1 (known'.2.2.lockKey_eq known.2.2 same) holds holds'

/-! ### The pass over stale runs -/

/-- The pass over the runs of targets leaves a run alone that is not running, or whose lock is
held. -/
theorem recoverStaleTargetRuns_run {db : Database} {redis : Redis} {now staleBefore delay : Int}
    (issued : db.Issued) {runId : Uuid} {run : Run} (found : db.run runId = some run)
    (spared : run.status ≠ .running ∨ run.locked redis now = true) :
    (recoverStaleTargetRuns db redis now staleBefore delay).1.run runId = some run := by
  refine List.foldlRecOn (motive := fun (state : Database × Nat) =>
    state.1.run runId = some run) _ _ found ?_
  intro state kept stale member
  obtain ⟨inside, selected⟩ := List.mem_filter.1 member
  unfold recoverTargetRun
  split
  · exact kept
  · split
    · exact kept
    · next unheld =>
      split
      · exact kept
      · rw [Database.run_setTarget]
        by_cases same : runId = stale.id
        · have : stale = run := by
            refine Option.some.inj (Eq.trans ?_ found)
            rw [same]
            exact (Table.find_of_mem Run.id issued.distinct inside).symm
          subst this
          rcases spared with ended | locked
          · simp [Run.staleBefore, ended] at selected
          · simp [locked] at unheld
        · rw [Database.run_setRun_ne _ (failedRun now "stale_run") (fun _ => rfl) same]
          exact kept

/-- The pass stores no row. -/
theorem recoverStaleTargetRuns_rows (db : Database) (redis : Redis) (now staleBefore delay : Int) :
    (recoverStaleTargetRuns db redis now staleBefore delay).1.rawItems = db.rawItems ∧
      (recoverStaleTargetRuns db redis now staleBefore delay).1.observations = db.observations := by
  refine List.foldlRecOn (motive := fun (state : Database × Nat) =>
    state.1.rawItems = db.rawItems ∧ state.1.observations = db.observations) _ _ ⟨rfl, rfl⟩ ?_
  intro state kept stale _
  unfold recoverTargetRun
  split
  · exact kept
  · split
    · exact kept
    · split
      · exact kept
      · exact kept

/-- The lock of the target of a run is held. -/
theorem Execution.Holds.locked {execution : Execution} {run : Run} (holds : execution.Holds state)
    (target : run.targetId = some execution.dispatch.targetId)
    (mode : run.runMode = execution.mode) : run.locked state.redis state.now = true := by
  unfold Run.locked
  rw [target, mode]
  show (Expiring.get state.redis state.now execution.lockKey).isSome = true
  rw [holds]
  rfl

/-! ### One step -/

/-- Something that happens by itself in an orderly history keeps every run that has ended, and
every run that somebody with a lock collects. -/
theorem happen_stays {happening : Happening} {phases : ℕ → Option Phase}
    (orderly : Orderly state phases (.env happening))
    (happened : happen deployed state happening = some state') (issued : state.database.Issued) :
    (∀ runId, Stays runId state.database state'.database) ∧
      ∀ (work : Collecting), work.execution.Holds state → work.toTenure.Of state.database →
        Running state.database work.runId → Running state'.database work.runId := by
  have of_keeps : Keeps state.database state'.database →
      (∀ runId, Stays runId state.database state'.database) ∧
        ∀ (work : Collecting), work.execution.Holds state → work.toTenure.Of state.database →
          Running state.database work.runId → Running state'.database work.runId :=
    fun keeps => ⟨keeps.stays, fun _ _ _ running => running.of_keeps keeps⟩
  cases happening with
  | tick | lose =>
      obtain rfl := Option.some.inj happened
      exact of_keeps (.refl _)
  | renew who =>
      refine of_keeps ?_
      unfold happen at happened
      simp only at happened
      split at happened
      · split at happened
        · simp at happened
        · obtain rfl := Option.some.inj happened
          unfold renewOnce
          simp only
          split
          · exact .refl _
          · exact .refl _
      · simp at happened
  | recoverLegacy => exact False.elim orderly
  | revise targetId expected values =>
      refine of_keeps ?_
      unfold happen at happened
      simp only at happened
      split at happened
      · next next db ok =>
        obtain rfl := Option.some.inj happened
        obtain ⟨target, -, -, -, -, -, status, strategy, mode, rfl, -⟩ := revise_eq_ok ok
        exact .of_runs rfl rfl rfl
      · simp at happened
  | advanceLegacy account cursorType value =>
      obtain ⟨db, advanced, rfl⟩ := Option.map_eq_some_iff.1 happened
      refine of_keeps ?_
      unfold advanceLegacy at advanced
      split at advanced
      · simp at advanced
      · split at advanced
        · obtain rfl := Option.some.inj advanced
          exact .of_runs rfl rfl rfl
        · split at advanced
          · obtain rfl := Option.some.inj advanced
            exact .of_runs rfl rfl rfl
          · simp at advanced
  | recover staleBefore delay =>
      obtain rfl := Option.some.inj happened
      obtain ⟨items, seen⟩ := recoverStaleTargetRuns_rows state.database state.redis state.now
        staleBefore delay
      refine ⟨fun runId run found ended => ⟨⟨run, ?_, rfl⟩, ?_, ?_⟩, ?_⟩
      · refine recoverStaleTargetRuns_run issued found (.inl fun running => ?_)
        simp [running, RunStatus.terminal] at ended
      · simp only [Database.itemsOf, items]
      · simp only [Database.observationsOf, seen]
      · rintro work holds ⟨run, found, target, mode⟩ ⟨held, found', status⟩
        obtain rfl := Option.some.inj (found.symm.trans found')
        exact ⟨run, recoverStaleTargetRuns_run issued found (.inr (holds.locked target mode)),
          status⟩

/-- A run that has just been started or adopted is running. -/
theorem Executed.running_of_startRun {target : LoadedTarget} {dispatch : TargetDispatch}
    {mode : RunMode} {reply : Result (Answer (.startRun target dispatch mode))}
    (executed : Executed deployed state who (.startRun target dispatch mode) reply state')
    {execution : Execution} {loaded : Option LoadedTarget} {work : Collecting}
    (issued : state.database.Issued)
    (next : (Phase.locked execution loaded).next (.startRun target dispatch mode) reply =
      .collecting work) : Running state'.database work.runId := by
  cases reply with
  | error raised => simp [Phase.next, Phase.raised] at next
  | ok value =>
      obtain ⟨runId, cursor⟩ := value
      obtain rfl := Phase.collecting.inj next
      have done := executed.perform_eq (by simp) (by simp)
      unfold perform at done
      simp only at done
      split at done
      · next started db ok =>
        obtain ⟨same, rfl⟩ := Prod.mk.inj done
        obtain rfl : started = (runId, cursor) := Except.ok.inj same
        obtain ⟨run, found, -, -, running⟩ := startRun_of issued ok
        exact ⟨run, found, running⟩
      · simp at done

variable {phases phases' : ℕ → Option Phase} {move : Move signature Choice Job Happening}

/-- An operation that writes the outcome of a run is allowed only to a worker that collects one. -/
theorem collecting_of_settles {rules : Rules} {phase : Phase} {op : Op}
    (allowed : phase.allowed rules op) (settles : op.settles = true) :
    ∃ work, phase = .collecting work ∧ collecting.allowed rules work op := by
  cases phase with
  | collecting work => exact ⟨work, rfl, allowed⟩
  | releasing =>
      obtain rfl := allowed
      simp [Op.settles] at settles
  | _ =>
      cases op with
      | reserveRequest | persistResult | finishError | finishLockLost => exact False.elim allowed
      | _ => simp [Op.settles] at settles

/-- **One operation of a worker in an orderly history.** -/
theorem work_orderly {phase : Phase} {op : Op} {reply : Result (Answer op)}
    (bound : phases who = some phase) (allowed : phase.allowed deployed.rules op)
    (executed : Executed deployed state who op reply state')
    (orderly : op.settles = true → ∀ work, phases who = some (.collecting work) →
      work.execution.Holds state ∨ Running state.database work.runId ∧
        (Occupied state phases work.runId → op.spares state.database = true))
    (sound : Sound deployed state phases) (tended : Tended state phases) :
    (∀ runId, Stays runId state.database state'.database) ∧
      ∀ other work, other ≠ who → phases other = some (.collecting work) →
        work.execution.Holds state → Running state'.database work.runId := by
  by_cases settles : op.settles = true
  · obtain ⟨work, rfl, mine⟩ := collecting_of_settles allowed settles
    have touches := executed.touches mine settles
    have running : Running state.database work.runId := by
      rcases orderly settles work bound with holds | ⟨running, -⟩
      · exact tended who work bound holds
      · exact running
    refine ⟨fun runId => ?_, fun other work' different told holds => ?_⟩
    · obtain ⟨run, found, status⟩ := running
      exact .of_touches touches found status
    · by_cases same : work'.runId = work.runId
      · rw [same]
        refine running.of_spares executed mine ?_
        rcases orderly settles work bound with mineHolds | ⟨-, spares⟩
        · exact absurd (sound.holder_unique told bound same holds mineHolds) different
        · exact spares ⟨other, work', told, same, holds⟩
      · obtain ⟨run, found, status⟩ := tended other work' told holds
        exact ⟨run, (touches.run_ne _ same).trans found, status⟩
  · have keeps := executed.keeps (by simpa using settles)
    exact ⟨keeps.stays, fun other work' _ told holds =>
      (tended other work' told holds).of_keeps keeps⟩

/-- **An orderly step leaves every run alone that has ended**, and whoever has a lock after it
collects a running run. -/
theorem stepped_orderly (stepped : (discipline deployed).Stepped state phases move state' phases')
    (orderly : Orderly state phases move) (sound : Sound deployed state phases)
    (tended : Tended state phases) :
    (∀ runId, Stays runId state.database state'.database) ∧ Tended state' phases' := by
  have before : ∀ {other : Nat} {work : Collecting}, phases other = some (.collecting work) →
      work.execution.Holds state' → work.execution.Holds state := fun told holds =>
    holds_before stepped sound told rfl holds
  have whole := stepped
  cases stepped with
  | work who op choice bound allowed done =>
      have executed := executed_of_exec done
      obtain ⟨stays, others⟩ := work_orderly bound allowed executed orderly sound tended
      refine ⟨stays, fun other work told holds => ?_⟩
      by_cases same : other = who
      · subst same
        rw [Function.update_self] at told
        have next := Option.some.inj told
        rcases collecting_of_next allowed next with ⟨old, rfl, tenure⟩ |
          ⟨execution, loaded, target, dispatch, mode, rfl, rfl⟩
        · have holdsOld : old.execution.Holds state' := by
            rw [tenure] at holds
            exact holds
          rw [tenure]
          exact (tended other old bound (before bound holdsOld)).next executed allowed next
        · exact executed.running_of_startRun sound.issued next
      · rw [Function.update_of_ne same] at told
        exact others other work same told (before told holds)
  | crash who bound =>
      refine ⟨fun runId => .refl _ _, fun other work told holds => ?_⟩
      by_cases same : other = who
      · subst same
        rw [Function.update_self] at told
        simp at told
      · rw [Function.update_of_ne same] at told
        exact tended other work told (before told holds)
  | start who job free accepted =>
      obtain rfl := Option.some.inj accepted
      have kept : (acceptJob state job).database = state.database := by
        cases job with
        | execute => rfl
        | schedule => rfl
      rw [Tended, kept]
      refine ⟨fun runId => .refl _ _, fun other work told holds => ?_⟩
      by_cases same : other = who
      · subst same
        rw [Function.update_self] at told
        exact absurd (Option.some.inj told) (job_phase_ne job work)
      · rw [Function.update_of_ne same] at told
        exact tended other work told (before told holds)
  | env happening happened =>
      obtain ⟨stays, kept⟩ := happen_stays orderly happened sound.issued
      refine ⟨stays, fun other work told holds => ?_⟩
      have held := before told holds
      exact kept work held (sound.known _ _ told).2.2 (tended other work told held)

/-! ### Histories -/

/-- What is known, and that whoever has a lock collects a running run. -/
def Kept (deployed : Deployment) (state : Control) (phases : ℕ → Option Phase) : Prop :=
  Sound deployed state phases ∧ Tended state phases

theorem kept_preserved : (discipline deployed).Preserves Orderly (Kept deployed) :=
  fun _ _ _ _ _ stepped orderly kept =>
    ⟨sound_preserved stepped kept.1, (stepped_orderly stepped orderly kept.1 kept.2).2⟩

/-- Nothing runs in the beginning. -/
theorem kept_initial (issued : state.database.Issued) : Kept deployed state fun _ => none :=
  ⟨⟨issued, fun _ _ told => by simp at told⟩, fun _ _ told => by simp at told⟩

/-- **A run that has ended stays as it is**, in every orderly history. -/
theorem ended_runs_stay {world later : World signature (Result Ended) Control Job}
    (issued : state.database.Issued)
    (reached : (discipline deployed).Reaches Orderly (.initial state) world)
    (continued : (discipline deployed).Reaches Orderly world later) (runId : Uuid) :
    Stays runId world.state.database later.state.database := by
  have adherent := reached.adherent _ (Discipline.adherent_initial _ _)
  have kept : Kept deployed world.state ((discipline deployed).phases world) :=
    reached.invariant _ kept_preserved (Discipline.adherent_initial _ _) (kept_initial issued)
  induction continued with
  | refl => exact .refl _ _
  | step before asked orderly stepped ih =>
      have here := before.adherent _ adherent
      obtain ⟨sound, tended⟩ := before.invariant _ kept_preserved adherent kept
      have step := ((discipline deployed).stepped_of_step here asked stepped).1
      exact ih.trans ((stepped_orderly step orderly sound tended).1 runId)

/-- An orderly step, as far as it can be seen without looking at the other workers. -/
def orderlyStep (deployed : Deployment) (world : World signature (Result Ended) Control Job) :
    Event Choice Job Happening → Bool
  | .work who _ =>
      match (discipline deployed).phases world who with
      | some (.collecting work) => decide (work.execution.Holds world.state)
      | _ => true
  | .env (.recoverLegacy _) => false
  | _ => true

theorem orderlyStep_orderly (world : World signature (Result Ended) Control Job)
    (event : Event Choice Job Happening) (move : Move signature Choice Job Happening)
    (asked : world.move event = some move) (passed : orderlyStep deployed world event = true) :
    Orderly world.state ((discipline deployed).phases world) move := by
  cases event with
  | work who choice =>
      unfold World.move at asked
      simp only at asked
      split at asked
      · next op rest log found =>
        obtain rfl := Option.some.inj asked
        intro _ work told
        simp only [orderlyStep, told, decide_eq_true_eq] at passed
        exact .inl passed
      · simp at asked
  | crash who =>
      obtain rfl := Option.some.inj asked
      exact trivial
  | start job =>
      obtain rfl := Option.some.inj asked
      exact trivial
  | env happening =>
      obtain rfl := Option.some.inj asked
      cases happening with
      | recoverLegacy => simp [orderlyStep] at passed
      | _ => exact trivial

theorem quoteTables_issued : quoteTables.Issued := ⟨fun _ member => by simp [quoteTables] at member,
  by decide⟩

/-- The status of the first run after a history. -/
def statusAfter (events : List (Event Choice Job Happening)) : Option RunStatus :=
  ((World.initial quoteControl).run (controlPlane quoteDeployment) events).bind fun world =>
    (world.state.database.run 0).map Run.status

/-- A worker that collects the target, and holds its lock all the time. -/
def collectedOnce : List (Event Choice Job Happening) :=
  .start (.execute quoteDispatch) :: proceed 0 10 ++ .work 0 (.outcome (.ok emptyQuote)) ::
    proceed 0 2

/-- The worker releases its lock, the stale runs are recovered, and a second worker collects the
target again. -/
def collectedAgain : List (Event Choice Job Happening) :=
  proceed 0 2 ++ .env (.recover 100 60) :: .start (.execute quoteDispatch) :: proceed 1 10 ++
    .work 1 (.outcome (.ok emptyQuote)) :: proceed 1 2

/-- The run that has succeeded stays as it is. -/
theorem ended_runs_stay_collected : ∃ world later : World signature (Result Ended) Control Job,
    (world.state.database.run 0).map Run.status = some .succeeded ∧
    (later.state.database.run 1).map Run.status = some .succeeded ∧
    Stays 0 world.state.database later.state.database := by
  have ran : ((World.initial quoteControl).checked (controlPlane quoteDeployment)
      (orderlyStep quoteDeployment) collectedOnce).bind (fun world =>
        (world.checked (controlPlane quoteDeployment) (orderlyStep quoteDeployment)
          collectedAgain).map fun later => ((world.state.database.run 0).map Run.status,
            (later.state.database.run 1).map Run.status)) =
      some (some .succeeded, some .succeeded) := by
    decide +kernel
  obtain ⟨world, once, rest⟩ := Option.bind_eq_some_iff.1 ran
  obtain ⟨later, again, same⟩ := Option.map_eq_some_iff.1 rest
  obtain ⟨first, second⟩ := Prod.mk.inj same
  refine ⟨world, later, first, second, ?_⟩
  exact ended_runs_stay quoteTables_issued
    (.of_checked _ orderlyStep_orderly (.refl _) once)
    (.of_checked _ orderlyStep_orderly (.refl _) again) 0

/-- A worker is about to fetch when its lock runs out; a second worker adopts the run, and ends
it. -/
def adoptedAndEnded : List (Event Choice Job Happening) :=
  .start (.execute quoteDispatch) :: proceed 0 10 ++ .env (.lose (.targetLock 1 .normal)) ::
    .start (.execute quoteDispatch) :: proceed 1 10 ++ .work 1 (.outcome (.ok emptyQuote)) ::
    proceed 1 2

/-- **The first worker wakes up, finds that its lock is gone, and fails the run that has
succeeded.** -/
theorem ended_run_reopened : statusAfter adoptedAndEnded = some .succeeded ∧
    statusAfter (adoptedAndEnded ++ .work 0 (.outcome (.ok emptyQuote)) :: proceed 0 2) =
      some .failed := by
  decide +kernel

end NewsCollect.Collection
