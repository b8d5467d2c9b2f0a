/-
**A retry is decided twice.**

The runner goes by the number of the attempt, and the scheduler by the error that the row of the run
has been left with. They agree until the attempts are over: the last failure leaves a retryable error
on the row too, and then the scheduler keeps trying a run that has ended.

* `Reported`: what a call of the runner may report, and how it leaves its run.
* `Exhausted`, `LockedOut`: the executions after which the two decisions differ.
* `Bounded`: every context of a retry counts the executions of its run.
* `retries_bounded`: without such executions, retries are bounded.
* `run_tried_forever`: an outage that goes on.
-/

import NewsCollect.Collection.ProviderRuntime
import NewsCollect.Proof.Checkpoints

namespace NewsCollect.Collection

open Calendar CollectionRunner

/-! ### What a call does to the runs -/

/-- Nothing but one run has changed. -/
structure OnlyRun (runId : Uuid) (db db' : Database) : Prop where
  others : ∀ id, id ≠ runId → db'.run id = db.run id
  grows : Grows db db'

/-- The attempts that have been booked of a run stay as they are. -/
def SameCount (runId : Uuid) (db db' : Database) : Prop :=
  (db'.run runId).map Run.retryCount = (db.run runId).map Run.retryCount

section Calls

variable {db db' db'' : Database} {runId : Uuid} {target : CollectionTarget}
  {runner : CollectionRunner} {call : Call} {attempt : Nat} {fault : Option Fault}

namespace OnlyRun

theorem refl (runId : Uuid) (db : Database) : OnlyRun runId db db := ⟨fun _ _ => rfl, .refl db⟩

theorem trans (first : OnlyRun runId db db') (second : OnlyRun runId db' db'') :
    OnlyRun runId db db'' :=
  ⟨fun id different => (second.others id different).trans (first.others id different),
    first.grows.trans second.grows⟩

theorem setRun (change : Run → Run) (keeps : ∀ run, (change run).id = run.id)
    (identical : ∀ run, (change run).identity = run.identity) :
    OnlyRun runId db (db.setRun runId change) :=
  ⟨fun _ different => db.run_setRun_ne change keeps different,
    .of_touches (.setRun change keeps identical)⟩

/-- A write to other tables. -/
theorem of_same (runs : db'.runs = db.runs) (sources : db'.sources = db.sources)
    (targets : db'.targets = db.targets) (supply : db'.supply = db.supply)
    (later : db.issued ≤ db'.issued) : OnlyRun runId db db' where
  others id _ := by simp only [Database.run, runs]
  grows :=
    { succeeds := fun id target found =>
        ⟨target, by simpa only [Database.target, targets] using found, .refl _⟩
      sources_eq := fun id => by simp only [Database.source, sources]
      identity_kept := fun id run found =>
        ⟨run, by simpa only [Database.run, runs] using found, rfl⟩
      supply_eq := supply
      issued_le := later
      issued := fun issued => issued.of_eq runs supply later }

/-- A run that is there stays. -/
theorem present (only : OnlyRun runId db db') (there : (db.run runId).isSome = true) :
    (db'.run runId).isSome = true := by
  obtain ⟨run, found⟩ := Option.isSome_iff_exists.1 there
  obtain ⟨run', found', -⟩ := only.grows.identity_kept runId run found
  exact Option.isSome_iff_exists.2 ⟨run', found'⟩

end OnlyRun

/-- **A transaction is made, or it is not.** Whatever is true of both is true of it, however it
ends. -/
theorem transact_rule {holds : Except RunError Unit → Database → Prop}
    {work : Except RunError Database} (kept : ∀ raised, holds (.error raised) db)
    (made : ∀ db', work = .ok db' → holds (.ok ()) db' ∧ ∀ raised, holds (.error raised) db') :
    holds (transact fault db work).1 (transact fault db work).2 := by
  unfold transact
  cases fault with
  | none =>
      cases work with
      | ok db' => exact (made db' rfl).1
      | error raised => exact kept raised
  | some fault =>
      cases work with
      | error raised => exact kept fault.error
      | ok db' =>
          by_cases committed : fault.committed = true
          · simpa only [if_pos committed] using (made db' rfl).2 fault.error
          · simpa only [if_neg committed] using kept fault.error

/-- The cursor of a target is all that goes on. -/
theorem advanceCursor_only {snapshot : CursorSnapshot} {batch : FetchBatch}
    (ok : advanceCursor db target snapshot batch = .ok db') :
    OnlyRun runId db db' ∧ db'.runs = db.runs := by
  unfold advanceCursor at ok
  split at ok
  · dsimp only at ok
    split at ok
    · obtain rfl := Except.ok.inj ok
      exact ⟨.of_same rfl rfl rfl rfl (Nat.le_succ _), rfl⟩
    · split at ok
      · obtain rfl := Except.ok.inj ok
        exact ⟨.of_same rfl rfl rfl rfl (Nat.le_refl _), rfl⟩
      · exact absurd ok nofun
  · obtain rfl := Except.ok.inj ok
    exact ⟨.refl _ _, rfl⟩

/-- A checkpoint counts the items of its run. -/
theorem persistCheckpoint_only {adapter : CollectionAdapter} {snapshot : CursorSnapshot}
    {batch : FetchBatch}
    (ok : persistCheckpoint adapter db target runId snapshot batch = .ok db') :
    OnlyRun runId db db' ∧ SameCount runId db db' := by
  obtain ⟨-, -, inserted, stored, -, moved⟩ := persistCheckpoint_eq_ok.1 ok
  have made := inserted_of_insertAll stored
  have first : OnlyRun runId db inserted :=
    .of_same made.runs made.sources made.targets made.supply made.later
  have second : OnlyRun runId inserted (inserted.setRun runId (fetchedRun batch.items.length)) :=
    .setRun _ (fun _ => rfl) fun _ => rfl
  obtain ⟨third, runs⟩ := @advanceCursor_only _ _ runId _ _ _ moved
  refine ⟨first.trans (second.trans third), ?_⟩
  have set : (inserted.setRun runId (fetchedRun batch.items.length)).run runId = _ :=
    inserted.run_setRun_same _ fun _ => rfl
  have before : inserted.run runId = db.run runId := by simp only [Database.run, made.runs]
  have after : db'.run runId =
      (inserted.setRun runId (fetchedRun batch.items.length)).run runId := by
    simp only [Database.run, runs]
  rw [SameCount, after, set, before, Option.map_map]
  rfl

theorem finishSuccess_only {now : Int} : OnlyRun runId db (finishSuccess db now target runId) ∧
    SameCount runId db (finishSuccess db now target runId) ∧
    ((db.source target.sourceId).isSome = true → ∀ run,
      (finishSuccess db now target runId).run runId = some run → run.errorCode = none) := by
  unfold finishSuccess
  split
  · have first : OnlyRun runId db (db.setRun runId (succeededRun now)) :=
      .setRun _ (fun _ => rfl) fun _ => rfl
    have second : ∀ db : Database, OnlyRun runId db
        (db.setSource target.sourceId (succeededSource target)) := fun db =>
      ⟨fun _ _ => rfl, Grows.setSource fun source => by
        unfold succeededSource
        split
        · rfl
        · rfl⟩
    have set := @Database.run_setRun_same db runId (succeededRun now) fun _ => rfl
    refine ⟨first.trans (second _), ?_, fun _ run found => ?_⟩
    · rw [SameCount, Database.run_setSource, set, Option.map_map]
      rfl
    · rw [Database.run_setSource, set] at found
      obtain ⟨old, -, rfl⟩ := Option.map_eq_some_iff.1 found
      rfl
  · next absent =>
    refine ⟨.refl _ _, rfl, fun source run found => ?_⟩
    exact absurd (by rw [found, source]; rfl) absent

theorem finishFailure_only {now : Int} {error : ClassifiedCollectionError} :
    OnlyRun runId db (finishFailure db now target runId error) ∧
    SameCount runId db (finishFailure db now target runId error) ∧
    ((db.source target.sourceId).isSome = true → (db.run runId).isSome = true → ∃ run,
      (finishFailure db now target runId error).run runId = some run ∧
        run.status.terminal = true ∧ run.errorCode = some error.code.value) := by
  unfold finishFailure
  split
  · have first : OnlyRun runId db (db.setRun runId (finishedRun now error)) :=
      .setRun _ (fun _ => rfl) fun _ => rfl
    have second : ∀ db : Database, OnlyRun runId db (db.setSource target.sourceId failingSource) :=
      fun db => ⟨fun _ _ => rfl, Grows.setSource fun _ => rfl⟩
    have set := @Database.run_setRun_same db runId (finishedRun now error) fun _ => rfl
    refine ⟨first.trans (second _), ?_, fun _ there => ?_⟩
    · rw [SameCount, Database.run_setSource, set, Option.map_map]
      rfl
    · obtain ⟨run, found⟩ := Option.isSome_iff_exists.1 there
      refine ⟨finishedRun now error run, ?_, ?_, rfl⟩
      · rw [Database.run_setSource, set, found]
        rfl
      · unfold finishedRun
        dsimp only
        split
        · rfl
        · rfl
  · next absent =>
    exact ⟨.refl _ _, rfl, fun source there => absurd (by rw [source, there]; rfl) absent⟩

theorem recordRetry_only {error : ClassifiedCollectionError} {count : Nat} :
    OnlyRun runId db (recordRetry db runId error count) ∧
    ∀ run, (recordRetry db runId error count).run runId = some run →
      run.retryCount = count ∧ run.errorCode = some error.code.value := by
  refine ⟨.setRun _ (fun _ => rfl) fun _ => rfl, fun run found => ?_⟩
  have set := @Database.run_setRun_same db runId (retriedRun error count) fun _ => rfl
  obtain ⟨old, -, rfl⟩ := Option.map_eq_some_iff.1 (set.symm.trans found)
  exact ⟨rfl, rfl⟩

/-- What the batches of a run do to the tables, however they end. -/
structure Collects (target : CollectionTarget) (runId : Uuid) (db : Database)
    (ended : Except RunError Unit) (db' : Database) : Prop where
  only : OnlyRun runId db db'
  counted : SameCount runId db db'
  clean : ended = .ok () → (db.source target.sourceId).isSome = true → ∀ run,
    db'.run runId = some run → run.errorCode = none

theorem OnlyRun.source (only : OnlyRun runId db db') {id : Uuid}
    (there : (db.source id).isSome = true) : (db'.source id).isSome = true := by
  have same := congrArg Option.isSome (only.grows.sources_eq id)
  rw [Option.isSome_map, Option.isSome_map] at same
  exact same.trans there

theorem Collects.after {ended : Except RunError Unit} (first : OnlyRun runId db db')
    (counted : SameCount runId db db') (later : Collects target runId db' ended db'') :
    Collects target runId db ended db'' :=
  ⟨first.trans later.only, later.counted.trans counted,
    fun ok there => later.clean ok (first.source there)⟩

theorem Collects.refl {raised : RunError} : Collects target runId db (.error raised) db :=
  ⟨.refl _ _, rfl, nofun⟩

/-- **The batches of a run** touch no other run, and book no attempt. -/
theorem collect_spec {finishedAt : Int} (turns : List Turn) (completed : Nat) (db : Database) :
    Collects target runId db
      (runner.collect target runId finishedAt completed turns db).1
      (runner.collect target runId finishedAt completed turns db).2 := by
  induction turns generalizing completed db with
  | nil => exact .refl
  | cons turn turns ih =>
      rw [CollectionRunner.collect]
      cases turn.loadFault with
      | some raised => exact .refl
      | none =>
          dsimp only
          cases fetchedBatch turn.fetched with
          | error raised => exact .refl
          | ok batch =>
              dsimp only
              split
              · exact .refl
              · have stored := @transact_rule db turn.storeFault
                  (fun _ db' => OnlyRun runId db db' ∧ SameCount runId db db')
                  (persistCheckpoint runner.adapter db target runId
                    (loadCursor db target runner.adapter.cursorType) batch)
                  (fun _ => ⟨.refl _ _, rfl⟩) fun db' ok =>
                    ⟨persistCheckpoint_only ok, fun _ => persistCheckpoint_only ok⟩
                generalize transact turn.storeFault db _ = made at stored ⊢
                obtain ⟨⟨raised⟩ | ⟨⟩, mid⟩ := made
                · exact ⟨stored.1, stored.2, nofun⟩
                · obtain ⟨only, counted⟩ := stored
                  dsimp only
                  split
                  · exact .after only counted (transact_rule (fun _ => .refl) fun db' same => by
                      obtain rfl := Except.ok.inj same
                      obtain ⟨last, kept, clean⟩ := @finishSuccess_only mid runId target finishedAt
                      exact ⟨⟨last, kept, fun _ => clean⟩, fun _ => ⟨last, kept, nofun⟩⟩)
                  · exact .after only counted (ih (completed + 1) mid)

/-- How a call enters its run: it resumes one that is there, or it opens a new one. -/
inductive Entered (target : CollectionTarget) (resumed : Option Uuid) (startedAt : Int)
    (db : Database) : Except RunError (Option Uuid) → Database → Prop where
  | rejected raised : Entered target resumed startedAt db (.error raised) db
  | lost raised : resumed = none → Entered target resumed startedAt db (.error raised)
      (db.addRun (CollectionRunner.legacyRun target startedAt))
  | locked : Entered target resumed startedAt db (.ok none) db
  | resumed runId : (db.source target.sourceId).isSome = true → resumed = some runId →
      Entered target resumed startedAt db (.ok (some runId)) db
  | opened : (db.source target.sourceId).isSome = true → resumed = none →
      Entered target resumed startedAt db (.ok (some db.fresh))
        (db.addRun (CollectionRunner.legacyRun target startedAt))

theorem validateTarget_source {raised : Option RunError}
    (ok : runner.validateTarget db target raised = .ok ()) :
    (db.source target.sourceId).isSome = true := by
  unfold CollectionRunner.validateTarget at ok
  obtain ⟨-, ok⟩ := check_eq_ok.1 ok
  cases raised with
  | some raised => exact absurd ok nofun
  | none =>
      obtain ⟨source, -⟩ := check_eq_ok.1 ok
      exact Option.isSome_of_any (demand_eq_ok.1 source)

theorem enter_spec {resumed : Option Uuid} : Entered target resumed call.startedAt db
    (runner.enter db target resumed call).1 (runner.enter db target resumed call).2 := by
  unfold CollectionRunner.enter
  split
  · exact .rejected _
  · next accepted =>
    have source := validateTarget_source accepted
    split
    · unfold CollectionRunner.openRun
      cases resumed with
      | some runId => exact .resumed runId source rfl
      | none =>
          refine @transact_rule db call.createFault (fun ended db' => Entered target none
            call.startedAt db ((ended.map fun _ => db.fresh).map some) db')
            (.ok (db.addRun (CollectionRunner.legacyRun target call.startedAt)))
            (fun raised => .rejected raised) fun db' same => ?_
          obtain rfl := Except.ok.inj same
          exact ⟨.opened source rfl, fun raised => .lost raised rfl⟩
    · exact .locked

/-- **What a call reports of the run it executes, and how it leaves it.** -/
inductive Reported (runner : CollectionRunner) (runId : Uuid) (attempt : Nat) (db : Database) :
    Option RunError → Except RunError RunOutcome → Database → Prop where
  | succeeded after : OnlyRun runId db after →
      (∀ run, after.run runId = some run → run.errorCode = none) →
      Reported runner runId attempt db none (.ok ⟨some runId, .succeeded, none⟩) after
  | retry raised delay after : OnlyRun runId db after →
      attempt < runner.retryPolicy.maxRetries →
      (∀ run, after.run runId = some run → run.retryCount = attempt + 1) →
      Reported runner runId attempt db (some raised) (.ok ⟨some runId, .retry, some delay⟩) after
  | failed raised after : OnlyRun runId db after → SameCount runId db after →
      runner.retryPolicy.shouldRetry (CollectionRunner.classified raised) attempt = false →
      ((db.run runId).isSome = true → ∃ run, after.run runId = some run ∧
        run.status.terminal = true ∧
        run.errorCode = some (CollectionRunner.classified raised).code.value) →
      Reported runner runId attempt db (some raised) (.ok ⟨some runId, .failed, none⟩) after
  | raised ended raised after : OnlyRun runId db after →
      Reported runner runId attempt db ended (.error raised) after

theorem settle_spec {raised : RunError} {ended : Except RunError Unit}
    (source : (db.source target.sourceId).isSome = true)
    (collected : Collects target runId db ended db') :
    Reported runner runId attempt db (some raised)
      (runner.settle target runId attempt call raised db').1
      (runner.settle target runId attempt call raised db').2 := by
  have source' := collected.only.source source
  unfold CollectionRunner.settle
  dsimp only
  split
  · next again =>
    obtain ⟨-, left⟩ := Bool.and_eq_true_iff.1 again
    have booked := @transact_rule db' call.endFault (fun ended after => OnlyRun runId db after ∧
        (ended = .ok () → ∀ run, after.run runId = some run → run.retryCount = attempt + 1))
      (.ok (recordRetry db' runId (CollectionRunner.classified raised) (attempt + 1)))
      (fun _ => ⟨collected.only, nofun⟩) fun after same => by
        obtain rfl := Except.ok.inj same
        obtain ⟨only, count⟩ := @recordRetry_only db' runId (CollectionRunner.classified raised)
          (attempt + 1)
        exact ⟨⟨collected.only.trans only, fun _ run found => (count run found).1⟩,
          fun _ => ⟨collected.only.trans only, nofun⟩⟩
    generalize transact call.endFault db' _ = made at booked ⊢
    obtain ⟨⟨failed⟩ | ⟨⟩, after⟩ := made
    · exact .raised _ _ _ booked.1
    · exact .retry _ _ _ booked.1 (of_decide_eq_true left) (booked.2 rfl)
  · next concluded =>
    have booked := @transact_rule db' call.endFault (fun ended after => OnlyRun runId db after ∧
        (ended = .ok () → SameCount runId db after ∧
          ((db.run runId).isSome = true → ∃ run, after.run runId = some run ∧
            run.status.terminal = true ∧
            run.errorCode = some (CollectionRunner.classified raised).code.value)))
      (.ok (finishFailure db' call.finishedAt target runId (CollectionRunner.classified raised)))
      (fun _ => ⟨collected.only, nofun⟩) fun after same => by
        obtain rfl := Except.ok.inj same
        obtain ⟨only, count, row⟩ := @finishFailure_only db' runId target call.finishedAt
          (CollectionRunner.classified raised)
        exact ⟨⟨collected.only.trans only, fun _ => ⟨count.trans collected.counted,
            fun there => row source' (collected.only.present there)⟩⟩,
          fun _ => ⟨collected.only.trans only, nofun⟩⟩
    generalize transact call.endFault db' _ = made at booked ⊢
    obtain ⟨⟨failed⟩ | ⟨⟩, after⟩ := made
    · exact .raised _ _ _ booked.1
    · obtain ⟨only, kept⟩ := booked
      dsimp only
      split
      · exact .raised _ _ _ only
      · exact .failed _ _ only (kept rfl).1 (Bool.eq_false_iff.2 concluded) (kept rfl).2

/-- A call executes no run: it is rejected, or the lock of its target is held. -/
theorem run_of_course_none {resumed : Option Uuid}
    (none : (runner.course db target resumed call).1 = none) :
    (∃ raised, (runner.run db target resumed attempt call).1 = .error raised) ∧
        ((runner.run db target resumed attempt call).2 = db ∨
          (runner.run db target resumed attempt call).2 =
            db.addRun (CollectionRunner.legacyRun target call.startedAt)) ∨
      runner.run db target resumed attempt call = (.ok ⟨resumed, .locked, Option.none⟩, db) := by
  have spec := @enter_spec db target runner call resumed
  unfold CollectionRunner.course at none
  unfold CollectionRunner.run
  generalize runner.enter db target resumed call = made at spec none ⊢
  obtain ⟨ended, after⟩ := made
  cases spec with
  | rejected raised => exact .inl ⟨⟨raised, rfl⟩, .inl rfl⟩
  | lost raised => exact .inl ⟨⟨raised, rfl⟩, .inr rfl⟩
  | locked => exact .inr rfl
  | resumed runId => exact absurd none nofun
  | opened => exact absurd none nofun

/-- The source of a run that has been entered is there. -/
theorem Entered.source {resumed : Option Uuid} {startedAt : Int}
    (entered : Entered target resumed startedAt db (.ok (some runId)) db') :
    (db'.source target.sourceId).isSome = true := by
  cases entered with
  | resumed _ source => exact source
  | opened source => exact source

/-- **A call executes its run.** -/
theorem run_of_course {resumed : Option Uuid}
    (executes : (runner.course db target resumed call).1 = some runId) : ∃ entered,
      Entered target resumed call.startedAt db (.ok (some runId)) entered ∧
      Reported runner runId attempt entered (runner.course db target resumed call).2
        (runner.run db target resumed attempt call).1
        (runner.run db target resumed attempt call).2 := by
  have spec := @enter_spec db target runner call resumed
  unfold CollectionRunner.course at executes ⊢
  unfold CollectionRunner.run
  generalize runner.enter db target resumed call = made at spec executes ⊢
  obtain ⟨raised | chosen, entered⟩ := made
  · exact absurd executes nofun
  · cases chosen with
    | none => exact absurd executes nofun
    | some chosen =>
        obtain rfl : chosen = runId := Option.some.inj executes
        refine ⟨entered, spec, ?_⟩
        have collected := @collect_spec chosen target runner call.finishedAt call.turns 0 entered
        dsimp only
        generalize runner.collect target chosen call.finishedAt 0 call.turns entered = ran
          at collected ⊢
        obtain ⟨raised | ⟨⟩, after⟩ := ran
        · exact settle_spec spec.source collected
        · exact .succeeded after collected.only (collected.clean rfl spec.source)

end Calls

/-! ### What an execution schedules -/

/-- The last attempt of a run that has been tried again ends in a retryable error. -/
def Exhausted (maxRetries : Nat) (record : ExecutionRecord) : Prop :=
  1 ≤ record.attempt ∧ maxRetries ≤ record.attempt ∧ ∃ raised, record.ended = some raised ∧
    (CollectionRunner.classified raised).code.retryable = true

instance (maxRetries : Nat) (record : ExecutionRecord) : Decidable (Exhausted maxRetries record) :=
  decidable_of_iff (1 ≤ record.attempt ∧ maxRetries ≤ record.attempt ∧
    record.ended.any (fun raised => (CollectionRunner.classified raised).code.retryable) = true)
    (and_congr_right' (and_congr_right' (by rw [Option.any_eq_true])))

/-- A run is to be tried again while the lock of its target is held. -/
def LockedOut (record : ExecutionRecord) : Prop :=
  record.resumed.isSome = true ∧ record.reported = .ok ⟨record.resumed, .locked, none⟩

instance (record : ExecutionRecord) : Decidable (LockedOut record) := instDecidableAnd

section Schedules

variable {settings : SchedulerSettings} {runner : CollectionRunner} {db : Database}
  {provider : String} {target : CollectionTarget} {claim : ProviderCadenceClaim}
  {script : ExecutionScript}

/-- The scheduler and the runner know the same retryable errors. -/
theorem scheduleStatus_value (code : CollectionErrorCode) :
    collectionScheduleStatus (some code.value) = .retry ↔ code.retryable = true := by
  cases code <;> decide

theorem collectionRunId_of_endToEnd {reported : Except RunError RunOutcome}
    {processing : Except RunError Processed} {outcome : EndToEndOutcome} {runId : Uuid}
    (ok : endToEnd reported processing = .ok outcome)
    (named : outcome.collectionRunId = some runId) :
    ∃ status delay, reported = .ok ⟨some runId, status, delay⟩ := by
  unfold endToEnd at ok
  split at ok
  · obtain rfl := Except.ok.inj ok
    exact absurd named nofun
  · exact absurd ok nofun
  · obtain ⟨processed, -, rfl⟩ := map_eq_ok.1 ok
    obtain rfl := Option.some.inj named
    exact ⟨_, _, rfl⟩
  · next other status delay _ =>
    obtain rfl := Except.ok.inj ok
    obtain rfl : other = some runId := named
    exact ⟨status, delay, rfl⟩

/-- A retry is decided on when the row of the run has a retryable error and an attempt. -/
theorem retry_of_cycleResult {outcome : EndToEndOutcome} {retry : ScheduledRetry}
    (decided : (cycleResult settings provider db outcome).2 = some retry) : ∃ run,
      outcome.collectionRunId = some retry.collectionRunId ∧
      db.run retry.collectionRunId = some run ∧
      collectionScheduleStatus run.errorCode = .retry ∧ run.retryCount = retry.attempt ∧
      1 ≤ retry.attempt := by
  unfold cycleResult retryDecision at decided
  split at decided
  · exact absurd decided nofun
  · dsimp only at decided
    split at decided
    · next retryable =>
      split at decided
      · exact absurd decided nofun
      · next runId named =>
        split at decided
        · exact absurd decided nofun
        · next counted =>
          obtain rfl := Option.some.inj decided
          cases found : db.run runId with
          | none => simp [collectionRetryState, named, found] at counted
          | some run =>
              have state : collectionRetryState db outcome = (run.errorCode, run.retryCount) := by
                simp only [collectionRetryState, named, Option.bind_some, found]
              rw [state] at retryable counted ⊢
              exact ⟨run, named, rfl, retryable, rfl, Nat.le_of_not_lt counted⟩
    · exact absurd decided nofun

/-- A retry is scheduled of the run that has been reported, by what its row has been left with. -/
theorem scheduled_spec {retry : ScheduledRetry}
    (scheduled : (executeOne settings runner db provider target claim script).2.scheduled =
      some retry) : ∃ status delay run,
    (executeOne settings runner db provider target claim script).2.reported =
      .ok ⟨some retry.collectionRunId, status, delay⟩ ∧
    (executeOne settings runner db provider target claim script).2.after.run
      retry.collectionRunId = some run ∧
    collectionScheduleStatus run.errorCode = .retry ∧ run.retryCount = retry.attempt ∧
    1 ≤ retry.attempt := by
  unfold executeOne at scheduled ⊢
  dsimp only at scheduled ⊢
  split at scheduled
  · next result decided ok =>
    obtain ⟨outcome, made, ok⟩ := bind_eq_ok.1 ok
    cases asked : script.queryFault with
    | some raised =>
        rw [asked] at ok
        exact absurd ok nofun
    | none =>
        rw [asked] at ok
        have same := congrArg Prod.snd (pure_eq_ok.1 ok)
        obtain ⟨run, named, found, retryable, counted, some⟩ :=
          retry_of_cycleResult (same.trans scheduled)
        obtain ⟨status, delay, reported⟩ := collectionRunId_of_endToEnd made named
        exact ⟨status, delay, run, reported, found, retryable, counted, some⟩
  · exact absurd scheduled nofun

/-- **What an execution does**, where its attempt is not the last one to end in a retryable error,
and the lock of a run that is to be tried again is free. -/
inductive Recorded (maxRetries : Nat) (db : Database) (claim : ProviderCadenceClaim)
    (record : ExecutionRecord) : Prop where
  | idle : record.entered = none → record.scheduled = none →
      (∀ runId, record.reported ≠ .ok ⟨some runId, .failed, none⟩) →
      (∀ id run, db.run id = some run → record.after.run id = some run) → record.after.Issued →
      Recorded maxRetries db claim record
  | ran runId : record.entered = some runId →
      (claim.collectionRunId = some runId ∨ claim.collectionRunId = none ∧ db.run runId = none) →
      (∀ id, id ≠ runId → record.after.run id = db.run id) →
      (record.after.run runId).isSome = true → record.after.Issued →
      (∀ retry, record.scheduled = some retry → retry.collectionRunId = runId ∧
        retry.attempt = claim.attempt + 1 ∧ claim.attempt < maxRetries ∧ ∃ delay,
          record.reported = .ok ⟨some runId, .retry, delay⟩) →
      (∀ other, record.reported = .ok ⟨some other, .failed, none⟩ → other = runId ∧
        record.scheduled = none ∧ ∃ run, record.after.run runId = some run ∧
          run.status.terminal = true) →
      Recorded maxRetries db claim record

/-- A run that is opened is a new one; the others are as they were. -/
theorem addRun_legacyRun {startedAt : Int} (issued : db.Issued) :
    (∀ id run, db.run id = some run →
      (db.addRun (CollectionRunner.legacyRun target startedAt)).run id = some run) ∧
    (∀ id, id ≠ db.fresh →
      (db.addRun (CollectionRunner.legacyRun target startedAt)).run id = db.run id) ∧
    (db.addRun (CollectionRunner.legacyRun target startedAt)).run db.fresh =
      some (CollectionRunner.legacyRun target startedAt db.fresh) ∧
    (db.addRun (CollectionRunner.legacyRun target startedAt)).Issued := by
  have grows : Grows db (db.addRun (CollectionRunner.legacyRun target startedAt)) :=
    .addRun fun _ => rfl
  refine ⟨fun id run found => ?_, fun id different => ?_, ?_, grows.issued issued⟩
  · show Table.find Run.id (db.runs ++ [_]) id = some run
    exact Table.find_append_of_some found
  · show Table.find Run.id (db.runs ++ [_]) id = Table.find Run.id db.runs id
    exact Table.find_append_ne (Ne.symm different)
  · exact @Table.find_append_fresh _ _ _ Run.id db.runs
      (CollectionRunner.legacyRun target startedAt db.fresh) (db.run_fresh issued)

/-- A call that has executed its run: the retry that is scheduled is the one it has reported. -/
theorem recorded_of_reported {record : ExecutionRecord} {runId : Uuid} {entered : Database}
    (enters : record.entered = some runId) (attempts : record.attempt = claim.attempt)
    (resumes : claim.collectionRunId = some runId ∨
      claim.collectionRunId = none ∧ db.run runId = none)
    (only : ∀ after, OnlyRun runId entered after → (∀ id, id ≠ runId →
      after.run id = db.run id) ∧ (after.run runId).isSome = true ∧ after.Issued)
    (there : (entered.run runId).isSome = true)
    (booked : claim.attempt = 0 → ∀ run, entered.run runId = some run → run.retryCount = 0)
    (reports : Reported runner runId claim.attempt entered record.ended record.reported
      record.after)
    (scheduled : ∀ retry, record.scheduled = some retry → ∃ status delay run,
      record.reported = .ok ⟨some retry.collectionRunId, status, delay⟩ ∧
      record.after.run retry.collectionRunId = some run ∧
      collectionScheduleStatus run.errorCode = .retry ∧ run.retryCount = retry.attempt ∧
      1 ≤ retry.attempt)
    (going : ¬ Exhausted runner.retryPolicy.maxRetries record) :
    Recorded runner.retryPolicy.maxRetries db claim record := by
  obtain ⟨provider, resumed, attempt, entered', ended, reported, after, scheduled'⟩ := record
  dsimp only at enters attempts reports scheduled
  subst enters attempts
  cases reports with
  | raised ended raised after frame =>
      obtain ⟨others, here, issued⟩ := only after frame
      refine .ran runId rfl resumes others here issued (fun retry same => ?_)
        fun other failed => absurd failed nofun
      obtain ⟨status, delay, run, reported, -⟩ := scheduled retry same
      exact absurd reported nofun
  | succeeded after frame clean =>
      obtain ⟨others, here, issued⟩ := only after frame
      refine .ran runId rfl resumes others here issued (fun retry same => ?_)
        fun other failed => absurd (congrArg RunOutcome.status (Except.ok.inj failed)) nofun
      obtain ⟨status, delay, run, reported, found, retryable, -⟩ := scheduled retry same
      have named := congrArg RunOutcome.collectionRunId (Except.ok.inj reported)
      obtain rfl := Option.some.inj named
      rw [clean run found] at retryable
      exact absurd retryable nofun
  | retry raised delay after frame left counts =>
      obtain ⟨others, here, issued⟩ := only after frame
      refine .ran runId rfl resumes others here issued (fun retry same => ?_)
        fun other failed => absurd (congrArg RunOutcome.status (Except.ok.inj failed)) nofun
      obtain ⟨status, delay', run, reported, found, -, counted, -⟩ := scheduled retry same
      have named := congrArg RunOutcome.collectionRunId (Except.ok.inj reported)
      obtain rfl : runId = retry.collectionRunId := Option.some.inj named
      exact ⟨rfl, counted.symm.trans (counts run found), left, some delay, rfl⟩
  | failed raised after frame counts concluded row =>
      obtain ⟨others, here, issued⟩ := only after frame
      obtain ⟨run, found, terminal, code⟩ := row there
      have none : scheduled' = none := by
        refine Option.eq_none_iff_forall_ne_some.2 fun retry same => ?_
        obtain ⟨status, delay, run', reported, found', retryable, counted, some⟩ :=
          scheduled retry same
        have named := congrArg RunOutcome.collectionRunId (Except.ok.inj reported)
        obtain rfl := Option.some.inj named
        obtain rfl := Option.some.inj (found.symm.trans found')
        rw [code] at retryable
        have again := (scheduleStatus_value _).1 retryable
        have last : runner.retryPolicy.maxRetries ≤ claim.attempt := by
          simpa [RetryPolicy.shouldRetry, again] using concluded
        refine going ⟨Nat.pos_of_ne_zero fun zero => ?_, last, raised, rfl, again⟩
        obtain ⟨before, held⟩ := Option.isSome_iff_exists.1 there
        have same : run.retryCount = before.retryCount := by
          have both := counts
          rw [SameCount, found, held] at both
          exact Option.some.inj both
        have nothing := booked zero before held
        omega
      refine .ran runId rfl resumes others here issued (fun retry same => ?_) fun other failed => ?_
      · exact absurd (none.symm.trans same) nofun
      · have named := congrArg RunOutcome.collectionRunId (Except.ok.inj failed)
        exact ⟨(Option.some.inj named).symm, none, run, found, terminal⟩

theorem executeOne_spec (issued : db.Issued)
    (resumed : ∀ runId, claim.collectionRunId = some runId → 1 ≤ claim.attempt ∧
      (db.run runId).isSome = true)
    (going : ¬ Exhausted runner.retryPolicy.maxRetries
      (executeOne settings runner db provider target claim script).2)
    (free : ¬ LockedOut (executeOne settings runner db provider target claim script).2) :
    Recorded runner.retryPolicy.maxRetries db claim
      (executeOne settings runner db provider target claim script).2 := by
  have unscheduled : (∀ status delay id,
      (executeOne settings runner db provider target claim script).2.reported =
        .ok ⟨some id, status, delay⟩ → False) →
      (executeOne settings runner db provider target claim script).2.scheduled = none := by
    intro never
    refine Option.eq_none_iff_forall_ne_some.2 fun retry scheduled => ?_
    obtain ⟨status, delay, -, reported, -⟩ := scheduled_spec scheduled
    exact never status delay _ reported
  obtain ⟨kept, others, opened, issues⟩ :=
    @addRun_legacyRun db target script.call.startedAt issued
  cases course : (runner.course db target claim.collectionRunId script.call).1 with
  | none =>
      rcases @run_of_course_none db target runner script.call claim.attempt _ course with
        ⟨⟨raised, reported⟩, after⟩ | locked
      · refine .idle course
          (unscheduled fun status delay id same => absurd (reported.symm.trans same) nofun)
          (fun runId failed => absurd (reported.symm.trans failed) nofun) (fun id run found => ?_) ?_
        · rcases after with same | same
          · exact (congrArg (Database.run · id) same).trans found
          · exact (congrArg (Database.run · id) same).trans (kept id run found)
        · show (runner.run db target claim.collectionRunId claim.attempt script.call).2.Issued
          rcases after with same | same
          · exact same.symm ▸ issued
          · exact same.symm ▸ issues
      · have reported : (executeOne settings runner db provider target claim script).2.reported =
            .ok ⟨claim.collectionRunId, .locked, none⟩ := congrArg Prod.fst locked
        refine .idle course (unscheduled fun status delay id same => ?_)
          (fun runId failed => absurd (congrArg RunOutcome.status
            (Except.ok.inj (reported.symm.trans failed))) nofun) (fun id run found => ?_) ?_
        · have resumes : claim.collectionRunId = some id :=
            congrArg RunOutcome.collectionRunId (Except.ok.inj (reported.symm.trans same))
          exact free ⟨Option.isSome_iff_exists.2 ⟨id, resumes⟩, reported⟩
        · exact (congrArg (fun ran => Database.run (Prod.snd ran) id) locked).trans found
        · show (runner.run db target claim.collectionRunId claim.attempt script.call).2.Issued
          rw [locked]
          exact issued
  | some runId =>
      obtain ⟨entered, opens, reports⟩ :=
        @run_of_course db runId target runner script.call claim.attempt _ course
      -- the run is there once the call has entered it, and no other has changed by then
      obtain ⟨resumes, same, there, holds, booked⟩ : (claim.collectionRunId = some runId ∨
          claim.collectionRunId = none ∧ db.run runId = none) ∧
          (∀ id, id ≠ runId → entered.run id = db.run id) ∧ (entered.run runId).isSome = true ∧
          entered.Issued ∧ (claim.attempt = 0 → ∀ run, entered.run runId = some run →
            run.retryCount = 0) := by
        cases opens with
        | resumed _ _ resumes =>
            obtain ⟨counted, there⟩ := resumed runId resumes
            exact ⟨.inl resumes, fun _ _ => rfl, there, issued, fun zero => by omega⟩
        | opened _ new =>
            refine ⟨.inr ⟨new, db.run_fresh issued⟩, others, by rw [opened]; rfl, issues,
              fun _ run found => ?_⟩
            obtain rfl := Option.some.inj (opened.symm.trans found)
            rfl
      exact recorded_of_reported course rfl resumes (fun after only =>
          ⟨fun id different => (only.others id different).trans (same id different),
            only.present there, only.grows.issued holds⟩)
        there booked reports (fun retry scheduled => scheduled_spec scheduled) going

end Schedules

/-! ### Retries that wait -/

/-- Where a retry may wait: under the key of its provider, or in what a cycle has prepared. -/
inductive Place where
  | stored (provider : String)
  | prepared (provider : String)
deriving DecidableEq

/-- The run of a context, with the attempts it counts. -/
def CadenceValue.token : CadenceValue → Option (Uuid × Int)
  | .context runId attempt => some (runId, attempt)
  | _ => none

/-- The run that an execution resumes. -/
def Executor.token : Executor → Option (Uuid × Int)
  | .execute _ claim => claim.collectionRunId.map fun runId => (runId, (claim.attempt : Int))
  | _ => none

/-- The retry that waits in a place. -/
def ProviderScheduler.token (state : ProviderScheduler) : Place → Option (Uuid × Int)
  | .stored provider => (state.cadence (.retryContext provider)).bind (·.value.token)
  | .prepared provider => (state.executors provider).token

/-- How often a run has been executed. -/
def executions (runId : Uuid) (log : List ExecutionRecord) : Nat :=
  log.countP fun record => record.entered = some runId

/-- The runner has reported that a run has failed. -/
def ExecutionRecord.Failed (record : ExecutionRecord) (runId : Uuid) : Prop :=
  record.reported = .ok ⟨some runId, .failed, none⟩

/-- A run has been executed, and no retry of it has been scheduled. -/
structure ExecutionRecord.Over (record : ExecutionRecord) (runId : Uuid) : Prop where
  entered : record.entered = some runId
  unscheduled : record.scheduled = none

/-- **Every context of a retry counts the executions of its run**, and a run that is over waits
nowhere. -/
structure Bounded (maxRetries : Nat) (state : ProviderScheduler) : Prop where
  issued : state.database.Issued
  waiting : ∀ place runId n, state.token place = some (runId, n) → 1 ≤ n ∧ n ≤ maxRetries ∧
    (executions runId state.log : Int) = n ∧ (state.database.run runId).isSome = true
  apart : ∀ place other runId n m, state.token place = some (runId, n) →
    state.token other = some (runId, m) → place = other
  first : ∀ provider target claim, state.executors provider = .execute target claim →
    claim.collectionRunId = none → claim.attempt = 0
  bounded : ∀ runId, executions runId state.log ≤ maxRetries + 1
  unopened : ∀ runId, state.database.run runId = none → executions runId state.log = 0
  settled : ∀ record ∈ state.log, ∀ runId, record.Over runId →
    (∃ run, record.after.run runId = some run ∧ (record.Failed runId → run.status.terminal = true) ∧
      state.database.run runId = some run) ∧ ∀ place n, state.token place ≠ some (runId, n)
  ended : state.log.Pairwise fun record later => ∀ runId, record.Over runId →
    later.entered ≠ some runId
  failed : ∀ record ∈ state.log, ∀ runId, record.Failed runId → record.Over runId
  scheduled : ∀ record ∈ state.log, ∀ retry, record.scheduled = some retry → ∃ delay,
    record.reported = .ok ⟨some retry.collectionRunId, .retry, delay⟩

section Invariant

variable {maxRetries : Nat} {state state' : ProviderScheduler} {settings : SchedulerSettings}
  {adapters : String → CollectionAdapter} {turn : ProviderTurn} {provider : String}

/-- Retries are moved, or dropped, and nothing is executed. -/
theorem Bounded.moved (bounded : Bounded maxRetries state)
    (database : state'.database = state.database) (log : state'.log = state.log)
    (origin : Place → Place)
    (comes : ∀ place token, state'.token place = some token →
      state.token (origin place) = some token)
    (apart : ∀ place other token token', state'.token place = some token →
      state'.token other = some token' → origin place = origin other → place = other)
    (first : ∀ provider target claim, state'.executors provider = .execute target claim →
      claim.collectionRunId = none → claim.attempt = 0) : Bounded maxRetries state' where
  issued := database ▸ bounded.issued
  waiting place runId n waits := by
    rw [database, log]
    exact bounded.waiting (origin place) runId n (comes place _ waits)
  apart place other runId n m waits waits' := apart place other _ _ waits waits'
    (bounded.apart _ _ runId n m (comes place _ waits) (comes other _ waits'))
  first := first
  bounded := log ▸ bounded.bounded
  unopened := by
    rw [database, log]
    exact bounded.unopened
  settled := by
    rw [database, log]
    intro record member runId concluded
    obtain ⟨kept, nowhere⟩ := bounded.settled record member runId concluded
    exact ⟨kept, fun place n waits => nowhere (origin place) n (comes place _ waits)⟩
  ended := log ▸ bounded.ended
  failed := log ▸ bounded.failed
  scheduled := log ▸ bounded.scheduled

/-- What a claim does to the retry of its provider: it waits on, it is dropped, or the claim takes it
over. -/
inductive Claims (store : CadenceStore) (provider : String) :
    ProviderCadenceClaim → CadenceStore → Prop where
  | kept claim after : claim.collectionRunId = none → claim.attempt = 0 →
      (∀ other, after (.retryContext other) = store (.retryContext other)) →
      Claims store provider claim after
  | dropped claim after : claim.collectionRunId = none → claim.attempt = 0 →
      (∀ other, other ≠ provider → after (.retryContext other) = store (.retryContext other)) →
      after (.retryContext provider) = none → Claims store provider claim after
  | taken runId n expires after :
      store (.retryContext provider) = some ⟨.context runId n, expires⟩ → 1 ≤ n →
      (∀ other, other ≠ provider → after (.retryContext other) = store (.retryContext other)) →
      after (.retryContext provider) = none →
      Claims store provider ⟨.claimed, some runId, n.toNat⟩ after

theorem claim_spec (store : CadenceStore) (now : Int) (provider : String) (seconds : Int) :
    Claims store provider (ProviderCadenceController.claim store now provider seconds).1
      (ProviderCadenceController.claim store now provider seconds).2 := by
  have cadence : ∀ other, (Expiring.setIfAbsent store now (.cadence provider) .word
      (seconds * second)).2 (.retryContext other) = store (.retryContext other) := by
    intro other
    have different : CadenceKey.retryContext other ≠ .cadence provider := by simp
    unfold Expiring.setIfAbsent
    split
    · rfl
    · exact Function.update_of_ne different (some ⟨.word, now + seconds * second⟩) store
  unfold ProviderCadenceController.claim
  split
  · exact .kept _ _ rfl rfl fun _ => rfl
  · dsimp only
    split
    · exact .kept _ _ rfl rfl cadence
    · split
      · exact .kept _ _ rfl rfl cadence
      · next present =>
        generalize (Expiring.setIfAbsent store now (.cadence provider) .word
          (seconds * second)).2 = after at cadence ⊢
        have others : ∀ other, other ≠ provider → Expiring.delete after (.retryContext provider)
            (.retryContext other) = store (.retryContext other) := by
          intro other different
          have keys : CadenceKey.retryContext other ≠ .retryContext provider := fun same =>
            different (CadenceKey.retryContext.inj same)
          exact (Function.update_of_ne keys _ _).trans (cadence other)
        have gone : Expiring.delete after (.retryContext provider) (.retryContext provider) =
            none := Function.update_self ..
        cases read : Expiring.get store now (.retryContext provider) with
        | none => exact absurd (by rw [read]; rfl) present
        | some value =>
            cases value with
            | word => exact .dropped _ _ rfl rfl others gone
            | unreadable => exact .dropped _ _ rfl rfl others gone
            | context runId n =>
                unfold ProviderCadenceController.contextClaim
                dsimp only
                split
                · exact .dropped _ _ rfl rfl others gone
                · next counted =>
                  obtain ⟨entry, held, live⟩ := Option.bind_eq_some_iff.1 read
                  have same : entry.value = .context runId n := by
                    split at live
                    · exact Option.some.inj live
                    · cases live
                  refine .taken runId n entry.expiresAt _ (held.trans ?_) (by omega) others gone
                  rw [← same]

namespace Claims

variable {store after : CadenceStore} {claim : ProviderCadenceClaim}

/-- What is under a key has been there before. -/
theorem stored (claims : Claims store provider claim after) {other : String}
    {token : Uuid × Int} (waits : (after (.retryContext other)).bind (·.value.token) = some token) :
    (store (.retryContext other)).bind (·.value.token) = some token := by
  cases claims with
  | kept _ _ _ _ same => rwa [same] at waits
  | dropped _ _ _ _ same gone | taken _ _ _ _ _ _ same gone =>
      by_cases here : other = provider
      · subst here
        rw [gone] at waits
        exact absurd waits nofun
      · rwa [same other here] at waits

/-- What a claim takes over has waited, and waits no more. -/
theorem concluded (claims : Claims store provider claim after) {runId : Uuid}
    (resumes : claim.collectionRunId = some runId) :
    (store (.retryContext provider)).bind (·.value.token) = some (runId, (claim.attempt : Int)) ∧
      after (.retryContext provider) = none := by
  cases claims with
  | kept _ _ none => exact absurd (none.symm.trans resumes) nofun
  | dropped _ _ none => exact absurd (none.symm.trans resumes) nofun
  | taken runId' n expires _ held counted _ gone =>
      obtain rfl := Option.some.inj resumes
      refine ⟨?_, gone⟩
      rw [held]
      show some (runId', n) = some (runId', (n.toNat : Int))
      rw [Int.toNat_of_nonneg (by omega)]

theorem first (claims : Claims store provider claim after) (new : claim.collectionRunId = none) :
    claim.attempt = 0 := by
  cases claims with
  | kept _ _ _ zero => exact zero
  | dropped _ _ _ zero => exact zero
  | taken => exact absurd new nofun

end Claims

/-- The retries after the executor of a provider has been prepared. -/
theorem token_update {executor : Executor} {database : Database} {store : CadenceStore} {now : Int}
    {log : List ExecutionRecord} {executors : String → Executor} {place : Place}
    {token : Uuid × Int}
    (waits : (⟨database, store, now, Function.update executors provider executor, log⟩ :
      ProviderScheduler).token place = some token) :
    place = .prepared provider ∧ executor.token = some token ∨
      (place ≠ .prepared provider ∧ (⟨database, store, now, executors, log⟩ :
        ProviderScheduler).token place = some token) := by
  cases place with
  | stored other => exact .inr ⟨nofun, waits⟩
  | prepared other =>
      by_cases here : other = provider
      · subst here
        exact .inl ⟨rfl, by simpa [ProviderScheduler.token] using waits⟩
      · refine .inr ⟨fun same => here (Place.prepared.inj same), ?_⟩
        simpa [ProviderScheduler.token, Function.update_of_ne here] using waits

theorem claimedExecutor_token {claim : ProviderCadenceClaim} {target : Option CollectionTarget}
    {token : Uuid × Int}
    (taken : (ProviderScheduler.claimedExecutor claim target).token = some token) :
    ∃ runId, claim.collectionRunId = some runId ∧ token = (runId, (claim.attempt : Int)) := by
  cases target with
  | none => exact absurd taken nofun
  | some target =>
      obtain ⟨runId, resumes, rfl⟩ := Option.map_eq_some_iff.1 taken
      exact ⟨runId, resumes, rfl⟩

/-- A provider that is prepared takes its retry over. -/
theorem prepare_bounded (bounded : Bounded maxRetries state) :
    Bounded maxRetries (ProviderScheduler.prepare settings turn provider state).2 := by
  unfold ProviderScheduler.prepare
  split
  · have claims := claim_spec state.cadence state.now provider (settings.cadenceSeconds provider)
    dsimp only
    generalize ProviderCadenceController.claim state.cadence state.now provider _ = ran
      at claims ⊢
    obtain ⟨claim, store⟩ := ran
    have kept : ∀ place token, (⟨state.database, store, state.now, state.executors, state.log⟩ :
        ProviderScheduler).token place = some token → state.token place = some token := by
      intro place token waits
      cases place with
      | stored other => exact claims.stored waits
      | prepared other => exact waits
    dsimp only at claims ⊢
    split
    · split
      · next chosen _ =>
        -- a retry that is prepared now has waited under the key, where nothing waits any more
        have concluded : ∀ token,
            (ProviderScheduler.claimedExecutor claim chosen).token = some token →
            state.token (.stored provider) = some token ∧ store (.retryContext provider) = none := by
          intro token taken
          obtain ⟨runId, resumes, rfl⟩ := claimedExecutor_token taken
          exact claims.concluded resumes
        have alone : ∀ place token token', (ProviderScheduler.claimedExecutor claim chosen).token =
            some token → place ≠ .prepared provider → (⟨state.database, store, state.now,
              state.executors, state.log⟩ : ProviderScheduler).token place = some token' →
            .stored provider ≠ place := by
          rintro place token token' taken - waits rfl
          have none := (concluded token taken).2
          simp only [ProviderScheduler.token, none] at waits
          exact absurd waits nofun
        refine bounded.moved rfl rfl
          (fun place => if place = .prepared provider then .stored provider else place)
          (fun place token waits => ?_) (fun place other token token' waits waits' same => ?_)
          fun other target other' prepared new => ?_
        · rcases token_update waits with ⟨rfl, taken⟩ | ⟨different, before⟩
          · rw [if_pos rfl]
            exact (concluded token taken).1
          · rw [if_neg different]
            exact kept place token before
        · rcases token_update waits with ⟨rfl, taken⟩ | ⟨different, before⟩
          · rcases token_update waits' with ⟨rfl, -⟩ | ⟨different', before'⟩
            · rfl
            · rw [if_pos rfl, if_neg different'] at same
              exact absurd same (alone other token token' taken different' before')
          · rcases token_update waits' with ⟨rfl, taken'⟩ | ⟨different', -⟩
            · rw [if_neg different, if_pos rfl] at same
              exact absurd same.symm (alone place token' token taken' different before)
            · rwa [if_neg different, if_neg different'] at same
        · by_cases here : other = provider
          · subst here
            have made := (Function.update_self ..).symm.trans prepared
            cases chosen with
            | none => exact absurd made nofun
            | some found =>
                obtain ⟨-, rfl⟩ := Executor.execute.inj made
                exact claims.first new
          · exact bounded.first other _ other'
              ((Function.update_of_ne here ..).symm.trans prepared) new
      · exact bounded.moved rfl rfl id kept (fun _ _ _ _ _ _ same => same) bounded.first
    · refine bounded.moved rfl rfl id (fun place token waits => ?_)
        (fun _ _ _ _ _ _ same => same) fun other target other' prepared new => ?_
      · rcases token_update waits with ⟨-, none⟩ | ⟨-, before⟩
        · exact absurd none nofun
        · exact kept place token before
      · by_cases here : other = provider
        · subst here
          exact absurd ((Function.update_self ..).symm.trans prepared) nofun
        · exact bounded.first other target other'
            ((Function.update_of_ne here ..).symm.trans prepared) new
  · exact bounded

theorem executions_append (runId : Uuid) (log : List ExecutionRecord) (record : ExecutionRecord) :
    executions runId (log ++ [record]) =
      executions runId log + if record.entered = some runId then 1 else 0 := by
  simp [executions, List.countP_append, List.countP_singleton]

/-- What the log of an execution adds to is known, if it has executed no run. -/
theorem Bounded.idle (bounded : Bounded maxRetries state) {record : ExecutionRecord}
    (entered : record.entered = none) (unscheduled : record.scheduled = none)
    (unfailed : ∀ runId, ¬ record.Failed runId)
    (kept : ∀ id run, state.database.run id = some run → state'.database.run id = some run)
    (issued : state'.database.Issued) (log : state'.log = state.log ++ [record])
    (tokens : ∀ place token, state'.token place = some token → state.token place = some token)
    (first : ∀ provider target claim, state'.executors provider = .execute target claim →
      claim.collectionRunId = none → claim.attempt = 0) : Bounded maxRetries state' := by
  have counted : ∀ runId, executions runId state'.log = executions runId state.log := by
    intro runId
    rw [log, executions_append, entered]
    rfl
  refine ⟨issued, fun place runId n waits => ?_, fun place other runId n m waits waits' => ?_, first,
    fun runId => (counted runId).trans_le (bounded.bounded runId), fun runId none => ?_,
    fun other member runId concluded => ?_, ?_, fun other member runId fails => ?_,
    fun other member retry scheduled => ?_⟩
  · obtain ⟨some, le, count, there⟩ := bounded.waiting place runId n (tokens place _ waits)
    obtain ⟨run, found⟩ := Option.isSome_iff_exists.1 there
    exact ⟨some, le, (counted runId).symm ▸ count,
      Option.isSome_iff_exists.2 ⟨run, kept runId run found⟩⟩
  · exact bounded.apart place other runId n m (tokens place _ waits) (tokens other _ waits')
  · rw [counted]
    refine bounded.unopened runId (Option.eq_none_iff_forall_ne_some.2 fun run found => ?_)
    exact absurd (none.symm.trans (kept runId run found)) nofun
  · rw [log] at member
    rcases List.mem_append.1 member with old | new
    · obtain ⟨⟨run, found, terminal, held⟩, nowhere⟩ := bounded.settled other old runId concluded
      exact ⟨⟨run, found, terminal, kept runId run held⟩,
        fun place n waits => nowhere place n (tokens place _ waits)⟩
    · obtain rfl := List.mem_singleton.1 new
      exact absurd (entered.symm.trans concluded.entered) nofun
  · rw [log]
    refine List.pairwise_append.2 ⟨bounded.ended, List.pairwise_singleton _ _, ?_⟩
    intro other _ later member runId _ same
    obtain rfl := List.mem_singleton.1 member
    exact absurd (entered.symm.trans same) nofun
  · rw [log] at member
    rcases List.mem_append.1 member with old | new
    · exact bounded.failed other old runId fails
    · obtain rfl := List.mem_singleton.1 new
      exact absurd fails (unfailed runId)
  · rw [log] at member
    rcases List.mem_append.1 member with old | new
    · exact bounded.scheduled other old retry scheduled
    · obtain rfl := List.mem_singleton.1 new
      exact absurd (unscheduled.symm.trans scheduled) nofun

/-- What the log of an execution adds to is known, if it has executed a run that no other place
holds. -/
theorem Bounded.ran (bounded : Bounded maxRetries state) {record : ExecutionRecord} {runId : Uuid}
    {attempt : Nat} (entered : record.entered = some runId)
    (count : executions runId state.log = attempt) (le : attempt ≤ maxRetries)
    (going : ∀ other ∈ state.log, ¬ other.Over runId)
    (others : ∀ id, id ≠ runId → state'.database.run id = state.database.run id)
    (there : (state'.database.run runId).isSome = true) (issued : state'.database.Issued)
    (after : state'.database = record.after) (log : state'.log = state.log ++ [record])
    (scheduled : ∀ retry, record.scheduled = some retry → retry.collectionRunId = runId ∧
      retry.attempt = attempt + 1 ∧ attempt < maxRetries ∧ ∃ delay,
        record.reported = .ok ⟨some runId, .retry, delay⟩)
    (failed : ∀ other, record.Failed other → other = runId ∧ record.scheduled = none ∧
      ∃ run, record.after.run runId = some run ∧ run.status.terminal = true)
    (tokens : ∀ place token, state'.token place = some token →
      place = .stored provider ∧ (∃ retry, record.scheduled = some retry ∧
        token = (retry.collectionRunId, (retry.attempt : Int))) ∨
      state.token place = some token ∧ token.1 ≠ runId)
    (first : ∀ provider target claim, state'.executors provider = .execute target claim →
      claim.collectionRunId = none → claim.attempt = 0) : Bounded maxRetries state' := by
  have counted : ∀ id, executions id state'.log =
      executions id state.log + if id = runId then 1 else 0 := by
    intro id
    rw [log, executions_append, entered]
    simp [eq_comm]
  have kept : ∀ id, id ≠ runId → executions id state'.log = executions id state.log := by
    intro id different
    rw [counted, if_neg different, Nat.add_zero]
  have again : executions runId state'.log = attempt + 1 := by rw [counted, if_pos rfl, count]
  refine ⟨issued, fun place id n waits => ?_, fun place other id n m waits waits' => ?_, first,
    fun id => ?_, fun id none => ?_, fun other member id concluded => ?_, ?_,
    fun other member id fails => ?_, fun other member retry waits => ?_⟩
  · rcases tokens place _ waits with ⟨-, retry, booked, same⟩ | ⟨before, different⟩
    · obtain ⟨rfl, counts, left, -⟩ := scheduled retry booked
      obtain ⟨rfl, rfl⟩ := Prod.mk.inj same
      refine ⟨by omega, by omega, ?_, there⟩
      rw [again, counts]
    · rw [kept id different, others id different]
      exact bounded.waiting place id n before
  · rcases tokens place _ waits with ⟨rfl, retry, booked, same⟩ | ⟨before, different⟩
    · obtain ⟨named, -⟩ := scheduled retry booked
      rcases tokens other _ waits' with ⟨rfl, -⟩ | ⟨-, different⟩
      · rfl
      · exact absurd ((congrArg Prod.fst same).trans named) different
    · rcases tokens other _ waits' with ⟨-, retry, booked, same⟩ | ⟨before', -⟩
      · obtain ⟨named, -⟩ := scheduled retry booked
        exact absurd ((congrArg Prod.fst same).trans named) different
      · exact bounded.apart place other id n m before before'
  · by_cases same : id = runId
    · rw [same, again]
      omega
    · rw [kept id same]
      exact bounded.bounded id
  · have different : id ≠ runId := by
      rintro rfl
      rw [none] at there
      exact absurd there Bool.false_ne_true
    rw [kept id different]
    exact bounded.unopened id ((others id different).symm.trans none)
  · rw [log] at member
    rcases List.mem_append.1 member with old | new
    · have different : id ≠ runId := by
        rintro rfl
        exact going other old concluded
      obtain ⟨⟨run, found, terminal, held⟩, nowhere⟩ := bounded.settled other old id concluded
      refine ⟨⟨run, found, terminal, (others id different).trans held⟩, fun place n waits => ?_⟩
      rcases tokens place _ waits with ⟨-, retry, booked, same⟩ | ⟨before, -⟩
      · obtain ⟨named, -⟩ := scheduled retry booked
        exact different ((congrArg Prod.fst same).trans named)
      · exact nowhere place n before
    · obtain rfl := List.mem_singleton.1 new
      obtain rfl := Option.some.inj (entered.symm.trans concluded.entered)
      obtain ⟨run, found⟩ := Option.isSome_iff_exists.1 there
      refine ⟨⟨run, after ▸ found, fun fails => ?_, found⟩, fun place n waits => ?_⟩
      · obtain ⟨-, -, run', found', terminal⟩ := failed _ fails
        obtain rfl := Option.some.inj ((after ▸ found).symm.trans found')
        exact terminal
      · rcases tokens place _ waits with ⟨-, retry, booked, -⟩ | ⟨-, different⟩
        · exact absurd (concluded.unscheduled.symm.trans booked) nofun
        · exact different rfl
  · rw [log]
    refine List.pairwise_append.2 ⟨bounded.ended, List.pairwise_singleton _ _, ?_⟩
    intro other old later member id concluded same
    obtain rfl := List.mem_singleton.1 member
    obtain rfl := Option.some.inj (entered.symm.trans same)
    exact going other old concluded
  · rw [log] at member
    rcases List.mem_append.1 member with old | new
    · exact bounded.failed other old id fails
    · obtain rfl := List.mem_singleton.1 new
      obtain ⟨rfl, unscheduled, -⟩ := failed id fails
      exact ⟨entered, unscheduled⟩
  · rw [log] at member
    rcases List.mem_append.1 member with old | new
    · exact bounded.scheduled other old retry waits
    · obtain rfl := List.mem_singleton.1 new
      obtain ⟨named, -, -, delay, reported⟩ := scheduled retry waits
      exact ⟨delay, named.symm ▸ reported⟩

/-- The retries after an execution: its own, and those of the other places. -/
theorem token_execute {database : Database} {now later : Int} {log : List ExecutionRecord}
    {scheduled : Option ScheduledRetry} {place : Place} {token : Uuid × Int}
    (waits : (⟨database,
      (match scheduled with
        | some retry => ProviderCadenceController.scheduleRetry state.cadence now
            settings.maxRetryAfterSeconds provider retry.delay retry.collectionRunId retry.attempt
        | none => state.cadence), later,
      Function.update state.executors provider .missing, log⟩ : ProviderScheduler).token place =
        some token) :
    place = .stored provider ∧ (∃ retry, scheduled = some retry ∧
        token = (retry.collectionRunId, (retry.attempt : Int))) ∨
      place ≠ .prepared provider ∧ state.token place = some token := by
  rcases token_update waits with ⟨-, none⟩ | ⟨different, before⟩
  · exact absurd none nofun
  · cases place with
    | prepared other => exact .inr ⟨different, before⟩
    | stored other =>
        cases scheduled with
        | none => exact .inr ⟨different, before⟩
        | some retry =>
            simp only [ProviderScheduler.token, ProviderCadenceController.scheduleRetry,
              Expiring.set, Expiring.delete] at before
            by_cases here : other = provider
            · subst here
              rw [Function.update_self] at before
              exact .inl ⟨rfl, retry, rfl, (Option.some.inj before).symm⟩
            · have keys : CadenceKey.retryContext other ≠ .retryContext provider := fun same =>
                here (CadenceKey.retryContext.inj same)
              rw [Function.update_of_ne keys, Function.update_of_ne (by nofun),
                Function.update_of_ne (by nofun)] at before
              exact .inr ⟨different, before⟩

/-- **An execution keeps the count.** -/
theorem execute_bounded (bounded : Bounded settings.maxRetries state)
    (good : ∀ record ∈ (ProviderScheduler.execute settings adapters turn provider state).log,
      ¬ Exhausted settings.maxRetries record ∧ ¬ LockedOut record) :
    Bounded settings.maxRetries
      (ProviderScheduler.execute settings adapters turn provider state) := by
  unfold ProviderScheduler.execute at good ⊢
  dsimp only at good ⊢
  split
  · next target claim prepared =>
    have waits : ∀ runId, claim.collectionRunId = some runId →
        state.token (.prepared provider) = some (runId, (claim.attempt : Int)) := by
      intro runId resumes
      rw [ProviderScheduler.token, prepared, Executor.token, resumes]
      rfl
    rw [prepared] at good
    obtain ⟨going, free⟩ := good _ (List.mem_append_right _ (List.mem_singleton_self _))
    have spec := @executeOne_spec settings (providerRunner settings adapters provider)
      state.database provider target claim turn.script bounded.issued
      (fun runId resumes => by
        obtain ⟨some, -, -, there⟩ := bounded.waiting _ _ _ (waits runId resumes)
        exact ⟨by omega, there⟩) going free
    have first : ∀ other target' claim', Function.update state.executors provider .missing other =
        .execute target' claim' → claim'.collectionRunId = none → claim'.attempt = 0 := by
      intro other target' claim' held new
      by_cases here : other = provider
      · subst here
        have impossible := (Function.update_self ..).symm.trans held
        cases impossible
      · exact bounded.first other target' claim' ((Function.update_of_ne here ..).symm.trans held)
          new
    generalize (executeOne settings (providerRunner settings adapters provider) state.database
      provider target claim turn.script).2 = record at spec ⊢
    cases spec with
    | idle entered unscheduled unfailed kept issued =>
        refine bounded.idle entered unscheduled unfailed kept issued rfl (fun place token held => ?_)
          first
        rcases token_execute held with ⟨-, retry, booked, -⟩ | ⟨-, before⟩
        · have impossible := unscheduled.symm.trans booked
          cases impossible
        · exact before
    | ran runId entered resumes others there issued scheduled failed =>
        have none : claim.collectionRunId = none ∧ state.database.run runId = none →
            ∀ place n, state.token place ≠ some (runId, n) := by
          rintro ⟨-, absent⟩ place n held
          obtain ⟨-, -, -, present⟩ := bounded.waiting place runId n held
          rw [absent] at present
          exact Bool.false_ne_true present
        obtain ⟨count, le⟩ : executions runId state.log = claim.attempt ∧
            claim.attempt ≤ settings.maxRetries := by
          rcases resumes with resumes | ⟨new, absent⟩
          · obtain ⟨-, le, count, -⟩ := bounded.waiting _ _ _ (waits runId resumes)
            exact ⟨by omega, by omega⟩
          · rw [bounded.unopened runId absent, bounded.first provider target claim prepared new]
            exact ⟨rfl, Nat.zero_le _⟩
        refine @Bounded.ran settings.maxRetries state _ provider bounded record runId claim.attempt
          entered count le (fun other member concluded => ?_) others there issued rfl rfl scheduled
          failed (fun place token held => ?_) first
        · obtain ⟨⟨run, -, -, found⟩, nowhere⟩ := bounded.settled other member runId concluded
          rcases resumes with resumes | ⟨-, absent⟩
          · exact nowhere _ _ (waits runId resumes)
          · have impossible := absent.symm.trans found
            cases impossible
        · rcases token_execute held with booked | ⟨different, before⟩
          · exact .inl booked
          · refine .inr ⟨before, ?_⟩
            rintro rfl
            rcases resumes with resumes | new
            · exact different (bounded.apart place _ token.1 token.2 _ before (waits _ resumes))
            · exact none new place token.2 before
  · exact bounded.moved rfl rfl id (fun _ _ waits => waits) (fun _ _ _ _ _ _ same => same)
      bounded.first

/-- The log only grows. -/
theorem execute_log : ∃ later, (ProviderScheduler.execute settings adapters turn provider state).log =
    state.log ++ later := by
  unfold ProviderScheduler.execute
  dsimp only
  split
  · exact ⟨_, rfl⟩
  · exact ⟨[], (List.append_nil _).symm⟩

theorem executeAll_log (turns : String → ProviderTurn) (providers : List String)
    (state : ProviderScheduler) : ∃ later,
    (ProviderScheduler.executeAll settings adapters turns providers state).log =
      state.log ++ later := by
  induction providers generalizing state with
  | nil => exact ⟨[], (List.append_nil _).symm⟩
  | cons provider providers ih =>
      obtain ⟨first, same⟩ := @execute_log state settings adapters (turns provider) provider
      unfold ProviderScheduler.executeAll
      dsimp only
      split
      · exact ⟨first, same⟩
      · obtain ⟨rest, same'⟩ :=
          ih (ProviderScheduler.execute settings adapters (turns provider) provider state)
        exact ⟨first ++ rest, by rw [same', same, List.append_assoc]⟩

theorem executeAll_bounded (turns : String → ProviderTurn) (providers : List String)
    (bounded : Bounded settings.maxRetries state)
    (good : ∀ record ∈ (ProviderScheduler.executeAll settings adapters turns providers state).log,
      ¬ Exhausted settings.maxRetries record ∧ ¬ LockedOut record) :
    Bounded settings.maxRetries
      (ProviderScheduler.executeAll settings adapters turns providers state) := by
  induction providers generalizing state with
  | nil => exact bounded
  | cons provider providers ih =>
      unfold ProviderScheduler.executeAll at good ⊢
      dsimp only at good ⊢
      split
      · next aborts =>
        rw [if_pos aborts] at good
        exact execute_bounded bounded good
      · next goes =>
        rw [if_neg goes] at good
        obtain ⟨rest, same⟩ := @executeAll_log settings adapters turns providers
          (ProviderScheduler.execute settings adapters (turns provider) provider state)
        refine ih (execute_bounded bounded fun record member => good record ?_) good
        rw [same]
        exact List.mem_append_left _ member

/-- Preparing providers executes nothing. -/
theorem prepareAll_bounded (turns : String → ProviderTurn) (providers : List String)
    (bounded : Bounded maxRetries state) :
    Bounded maxRetries (ProviderScheduler.prepareAll settings turns providers state).2 := by
  induction providers generalizing state with
  | nil => exact bounded
  | cons provider providers ih =>
      have first := @prepare_bounded maxRetries state settings (turns provider) provider bounded
      unfold ProviderScheduler.prepareAll
      generalize ProviderScheduler.prepare settings (turns provider) provider state = made
        at first ⊢
      obtain ⟨going, next⟩ := made
      cases going with
      | true => exact ih first
      | false => exact first

/-- Between two cycles nothing is prepared. -/
theorem rest_bounded (bounded : Bounded maxRetries state) (elapsed : Nat) :
    Bounded maxRetries (state.rest elapsed) := by
  refine bounded.moved rfl rfl id (fun place token waits => ?_) (fun _ _ _ _ _ _ same => same)
    fun _ _ _ prepared => absurd prepared nofun
  cases place with
  | stored other => exact waits
  | prepared other => exact absurd waits nofun

theorem prepare_log : (ProviderScheduler.prepare settings turn provider state).2.log = state.log := by
  unfold ProviderScheduler.prepare
  split
  · dsimp only
    split
    · split
      · rfl
      · rfl
    · rfl
  · rfl

theorem prepareAll_log (turns : String → ProviderTurn) (providers : List String)
    (state : ProviderScheduler) :
    (ProviderScheduler.prepareAll settings turns providers state).2.log = state.log := by
  induction providers generalizing state with
  | nil => rfl
  | cons provider providers ih =>
      have first := @prepare_log state settings (turns provider) provider
      unfold ProviderScheduler.prepareAll
      generalize ProviderScheduler.prepare settings (turns provider) provider state = made
        at first ⊢
      obtain ⟨going, next⟩ := made
      cases going with
      | true => exact (ih next).trans first
      | false => exact first

theorem cycle_log (elapsed : Nat) (turns : String → ProviderTurn) (state : ProviderScheduler) :
    ∃ later, (ProviderScheduler.cycle settings adapters elapsed turns state).log =
      state.log ++ later := by
  have prepared := @prepareAll_log settings turns providerOrder (state.rest elapsed)
  unfold ProviderScheduler.cycle
  generalize ProviderScheduler.prepareAll settings turns providerOrder (state.rest elapsed) = made
    at prepared ⊢
  obtain ⟨going, next⟩ := made
  cases going with
  | true =>
      obtain ⟨later, same⟩ := @executeAll_log settings adapters turns providerOrder next
      exact ⟨later, same.trans (congrArg (· ++ later) prepared)⟩
  | false => exact ⟨[], prepared.trans (List.append_nil _).symm⟩

theorem cycle_bounded (elapsed : Nat) (turns : String → ProviderTurn)
    (bounded : Bounded settings.maxRetries state)
    (good : ∀ record ∈ (ProviderScheduler.cycle settings adapters elapsed turns state).log,
      ¬ Exhausted settings.maxRetries record ∧ ¬ LockedOut record) :
    Bounded settings.maxRetries
      (ProviderScheduler.cycle settings adapters elapsed turns state) := by
  have prepared := @prepareAll_bounded settings.maxRetries _ settings turns providerOrder
    (rest_bounded bounded elapsed)
  unfold ProviderScheduler.cycle at good ⊢
  generalize ProviderScheduler.prepareAll settings turns providerOrder (state.rest elapsed) = made
    at prepared good ⊢
  obtain ⟨going, next⟩ := made
  cases going with
  | true => exact executeAll_bounded turns providerOrder prepared good
  | false => exact prepared

theorem cycles_log (script : List (Nat × (String → ProviderTurn))) (state : ProviderScheduler) :
    ∃ later, (ProviderScheduler.cycles settings adapters state script).log =
      state.log ++ later := by
  induction script generalizing state with
  | nil => exact ⟨[], (List.append_nil _).symm⟩
  | cons entry script ih =>
      obtain ⟨first, same⟩ := @cycle_log settings adapters entry.1 entry.2 state
      obtain ⟨rest, same'⟩ := ih (ProviderScheduler.cycle settings adapters entry.1 entry.2 state)
      exact ⟨first ++ rest, by
        rw [ProviderScheduler.cycles, same', same, List.append_assoc]⟩

theorem cycles_bounded (script : List (Nat × (String → ProviderTurn)))
    (bounded : Bounded settings.maxRetries state)
    (good : ∀ record ∈ (ProviderScheduler.cycles settings adapters state script).log,
      ¬ Exhausted settings.maxRetries record ∧ ¬ LockedOut record) :
    Bounded settings.maxRetries (ProviderScheduler.cycles settings adapters state script) := by
  induction script generalizing state with
  | nil => exact bounded
  | cons entry script ih =>
      obtain ⟨rest, same⟩ := @cycles_log settings adapters script
        (ProviderScheduler.cycle settings adapters entry.1 entry.2 state)
      refine ih (cycle_bounded entry.1 entry.2 bounded fun record member => good record ?_) good
      rw [ProviderScheduler.cycles, same]
      exact List.mem_append_left _ member

end Invariant

/-! ### Runs -/

/-- A scheduler that has executed nothing, while no retry waits. -/
structure Idle (state : ProviderScheduler) : Prop where
  issued : state.database.Issued
  unlogged : state.log = []
  unclaimed : ∀ provider, state.cadence (.retryContext provider) = none
  unprepared : ∀ provider, state.executors provider = .missing

theorem Idle.bounded {state : ProviderScheduler} (idle : Idle state) (maxRetries : Nat) :
    Bounded maxRetries state := by
  have nothing : ∀ place, state.token place = none := by
    intro place
    cases place with
    | stored provider => rw [ProviderScheduler.token, idle.unclaimed]; rfl
    | prepared provider => rw [ProviderScheduler.token, idle.unprepared]; rfl
  have never : ∀ runId, executions runId state.log = 0 := by
    intro runId
    rw [idle.unlogged]
    rfl
  refine ⟨idle.issued, fun place runId n waits => ?_, fun place _ runId n _ waits => ?_,
    fun provider _ _ prepared => ?_, fun runId => ?_, fun runId _ => never runId, ?_, ?_, ?_, ?_⟩
  · exact absurd ((nothing place).symm.trans waits) nofun
  · exact absurd ((nothing place).symm.trans waits) nofun
  · exact absurd ((idle.unprepared provider).symm.trans prepared) nofun
  · rw [never]
    exact Nat.zero_le _
  all_goals
    rw [idle.unlogged]
    simp

/-- **Retries are bounded** in every sequence of cycles in which no last attempt ends in a retryable
error, and no run that is to be tried again finds its lock held. A run is executed
`COLLECTION_MAX_RETRIES + 1` times at most; once it is over, as it is when it has failed, it is
terminal, and is neither executed nor written again; and the runs whose retry has been scheduled are
those of which the runner has reported one. -/
theorem retries_bounded {settings : SchedulerSettings} {adapters : String → CollectionAdapter}
    {first last : ProviderScheduler} (starts : Idle first)
    (script : List (Nat × (String → ProviderTurn)))
    (reached : ProviderScheduler.cycles settings adapters first script = last)
    (good : ∀ record ∈ last.log, ¬ Exhausted settings.maxRetries record ∧ ¬ LockedOut record) :
    (∀ runId, executions runId last.log ≤ settings.maxRetries + 1) ∧
    (∀ before record later runId, last.log = before ++ record :: later →
      record.entered = some runId → record.scheduled = none ∨ record.Failed runId →
      (∀ other ∈ later, other.entered ≠ some runId) ∧
      ∃ run, record.after.run runId = some run ∧ last.database.run runId = some run ∧
        (record.Failed runId → run.status.terminal = true)) ∧
    ∀ record ∈ last.log, ∀ retry, record.scheduled = some retry → ∃ delay,
      record.reported = .ok ⟨some retry.collectionRunId, .retry, delay⟩ := by
  subst reached
  have bounded := cycles_bounded script (starts.bounded settings.maxRetries) good
  refine ⟨bounded.bounded, fun before record later runId split entered concluded => ?_,
    bounded.scheduled⟩
  have member : record ∈ (ProviderScheduler.cycles settings adapters first script).log := by
    rw [split]
    exact List.mem_append_right _ List.mem_cons_self
  have ends : record.Over runId := by
    rcases concluded with unscheduled | failed
    · exact ⟨entered, unscheduled⟩
    · exact bounded.failed record member runId failed
  obtain ⟨⟨run, found, terminal, kept⟩, -⟩ := bounded.settled record member runId ends
  refine ⟨fun other inside => ?_, run, found, kept, terminal⟩
  have pairs := bounded.ended
  rw [split] at pairs
  have rest := (List.pairwise_append.1 pairs).2.1
  exact (List.pairwise_cons.1 rest).1 other inside runId ends

/-! ### An outage -/

def energySettings : SchedulerSettings := ⟨fun _ => 21600, 3, 5, 300, 900⟩

/-- A scheduler that is about to collect the energy data for the first time. -/
def energyScheduler : ProviderScheduler :=
  ⟨energyTables, fun _ => none, 0, fun _ => .missing, []⟩

theorem energyScheduler_idle : Idle energyScheduler :=
  ⟨⟨fun run member => ⟨0, Nat.one_pos, by rw [List.mem_singleton.1 member]; rfl⟩,
    List.nodup_singleton _⟩, rfl, fun _ => rfl, fun _ => rfl⟩

/-- The cycles of these calls, in which only the energy data are collected. -/
def energyCycles (calls : List Call) : List (Nat × (String → ProviderTurn)) :=
  calls.map fun call => (1000000000, fun provider =>
    ⟨provider == "eia", .ok (some energyTarget), 0, ⟨call, .ok ⟨true, 0, []⟩, none⟩, false⟩)

/-- A call whose adapter does not answer in time. -/
def outage : Call :=
  { energyCall (energyBatch []) with
    turns := [⟨none, .error (.raised ⟨.timeoutError, ""⟩), false, none, none⟩] }

/-- The scheduler after the cycles of these calls. -/
def afterCalls (calls : List Call) : ProviderScheduler :=
  ProviderScheduler.cycles energySettings (fun _ => energyRunner.adapter) energyScheduler
    (energyCycles calls)

/-- A run that is tried again after an outage, and succeeds then. -/
theorem retries_bounded_energy :
    let last := afterCalls [outage, energyCall (energyBatch ["2024-02"])]
    executions 1 last.log = 2 ∧ last.log.map (·.scheduled) = [some ⟨1, 1, 5 / 2⟩, none] ∧
      executions 1 last.log ≤ 3 + 1 ∧ ∀ record ∈ last.log, ∀ retry,
        record.scheduled = some retry → ∃ delay,
          record.reported = .ok ⟨some retry.collectionRunId, .retry, delay⟩ := by
  obtain ⟨often, -, reported⟩ := @retries_bounded energySettings (fun _ => energyRunner.adapter) _ _
    energyScheduler_idle (energyCycles [outage, energyCall (energyBatch ["2024-02"])]) rfl
    (by decide +kernel)
  exact ⟨by decide +kernel, by decide +kernel, often 1, reported⟩

/-- **An outage that goes on**: the run fails at its fourth execution, and it is executed, counted and
reported as failed again and again. -/
theorem run_tried_forever :
    let log := (afterCalls (List.replicate 6 outage)).log
    (∀ record ∈ log, record.entered = some 1) ∧
      log.map (·.attempt) = [0, 1, 2, 3, 3, 3] ∧
      log.map (fun record => (record.reported.toOption.map (·.status), record.scheduled.isSome)) =
        [(some .retry, true), (some .retry, true), (some .retry, true), (some .failed, true),
          (some .failed, true), (some .failed, true)] ∧
      log.map (fun record => (record.after.run 1).map fun run => (run.status, run.errorCount)) =
        [some (.running, 1), some (.running, 2), some (.running, 3), some (.failed, 4),
          some (.failed, 5), some (.failed, 6)] ∧
      energySettings.maxRetries + 1 < executions 1 log := by
  decide +kernel

end NewsCollect.Collection
