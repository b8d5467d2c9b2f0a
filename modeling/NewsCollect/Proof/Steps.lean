/-
**What every step keeps.**

Whatever the tasks of the control plane do, the identities of runs and the configurations of targets
stay, and what a task has been told about them stays true.

* `Executed`: what an operation has done.
* `Evolves`: the frame of every step of the system.
* `Known`: what a phase knows of the state.
* `known_preserved`: what is known stays so.
-/

import NewsCollect.Proof.Frames
import NewsCollect.Proof.Phases

namespace NewsCollect.Collection

open Calendar Interleaving Providers

/-! ### One operation -/

/-- **What an operation has done.** It has been performed, or its service has failed, or it is a
request that has ended, or a query that has found one of several rows. -/
inductive Executed (deployed : Deployment) (state : Control) (who : Nat) :
    (op : Op) → Result (Answer op) → Control → Prop where
  | performed (op : Op) (local' : ∀ runId request, op ≠ .fetch runId request) :
      Executed deployed state who op (perform deployed state who op).1
        (perform deployed state who op).2
  | failed (op : Op) (raised : PyError) (faulty : faultOf op = some raised) :
      Executed deployed state who op (.error raised) state
  | ended (runId : Uuid) (request : ProviderFetchRequest) (result : Result ProviderFetchResult)
      (may : mayEnd state who result = true) :
      Executed deployed state who (.fetch runId request) result (state.note (.fetched runId))
  | found (targetId : Uuid) (cursorType : String) (mode : RunMode) (cursor : Cursor)
      (member : cursor ∈ pageCursors state.database targetId cursorType mode) :
      Executed deployed state who (.readCursor targetId cursorType mode) (.ok (some cursor)) state

variable {deployed : Deployment} {state state' : Control} {who : Nat}

theorem executed_of_exec {op : Op} {choice : Choice} {reply : Result (Answer op)}
    (executed : exec deployed state who op choice = some (reply, state')) :
    Executed deployed state who op reply state' := by
  unfold exec at executed
  split at executed
  · next result runId request =>
    split at executed
    · next may =>
      obtain ⟨rfl, rfl⟩ := Prod.mk.inj (Option.some.inj executed)
      exact .ended runId request _ may
    · simp at executed
  · next index targetId cursorType mode =>
    obtain ⟨cursor, held, same⟩ := Option.map_eq_some_iff.1 executed
    obtain ⟨rfl, rfl⟩ := Prod.mk.inj same
    exact .found targetId cursorType mode cursor (List.mem_of_getElem? held)
  · simp at executed
  · next _ _ local' =>
    obtain ⟨same, rfl⟩ := Prod.mk.inj (Option.some.inj executed)
    subst same
    exact .performed _ fun runId request same => local' runId request same
  · obtain ⟨raised, faulty, same⟩ := Option.map_eq_some_iff.1 executed
    obtain ⟨rfl, rfl⟩ := Prod.mk.inj same
    exact .failed _ raised faulty
  · simp at executed

/-! ### The frame of a step -/

/-- **What every step keeps.** -/
structure Evolves (state state' : Control) : Prop where
  now_le : state.now ≤ state'.now
  grows : Grows state.database state'.database
  journal : state.journal <+: state'.journal

namespace Evolves

variable {first second third : Control}

theorem refl (state : Control) : Evolves state state :=
  ⟨Int.le_refl _, .refl _, List.prefix_refl _⟩

/-- The tables grow, and nothing else changes. -/
theorem of_grows {db : Database} (grows : Grows state.database db) :
    Evolves state { state with database := db } :=
  ⟨Int.le_refl _, grows, List.prefix_refl _⟩

theorem withRedis (redis : Redis) : Evolves state (state.withRedis redis) :=
  ⟨Int.le_refl _, .refl _, List.prefix_refl _⟩

theorem setRenewal (renewal : Option Renewal) : Evolves state (state.setRenewal who renewal) :=
  ⟨Int.le_refl _, .refl _, List.prefix_refl _⟩

theorem note {entry : Entry} (before : Evolves state state') :
    Evolves state (state'.note entry) :=
  ⟨before.now_le, before.grows, before.journal.trans (List.prefix_append _ _)⟩

/-- A transaction that grows the tables, if it returns. -/
theorem commit {α : Type} {result : Result (α × Database)}
    (grows : ∀ value db, result = .ok (value, db) → Grows state.database db) :
    Evolves state (state.commit result).2 := by
  cases result with
  | error raised => exact .refl _
  | ok pair => exact .of_grows (grows pair.1 pair.2 rfl)

theorem commitUnit {result : Result Database}
    (grows : ∀ db, result = .ok db → Grows state.database db) :
    Evolves state (state.commitUnit result).2 := by
  refine commit fun value db same => ?_
  cases result with
  | error raised => simp [Except.map] at same
  | ok held =>
      obtain ⟨-, rfl⟩ := Prod.mk.inj (Except.ok.inj same)
      exact grows held rfl

end Evolves

theorem perform_evolves (op : Op) : Evolves state (perform deployed state who op).2 := by
  cases op with
  | setIfAbsent | set | compareDelete => exact .withRedis _
  | spawnRenewal | stopRenewal => exact .setRenewal _
  | markCredentialMissing loaded =>
      refine .commitUnit fun db same => ?_
      obtain rfl := Except.ok.inj same
      exact .of_touches (markCredentialMissing_touches 0).1
  | startRun loaded dispatch mode =>
      unfold perform
      simp only
      split
      · next started db ok =>
        refine .note (.of_grows ?_)
        obtain ⟨target, -, -, -, ⟨run, -, -, rfl⟩ | ⟨-, -, rfl⟩⟩ := startRun_eq_ok ok
        · exact .refl _
        · exact .addRun fun _ => rfl
      · exact .refl _
  | resolvedRunConfig runId loaded cursor mode =>
      exact .commit fun value db ok => .of_touches (resolvedRunConfig_touches ok)
  | reserveRequest loaded runId =>
      refine .commit fun value db ok => ?_
      obtain ⟨run, -, touches, -⟩ := reserveRequest_eq_ok ok
      exact .of_touches touches
  | persistResult loaded dispatch runId mode page =>
      exact .commitUnit fun db ok => .of_touches (persistResult_run ok).1
  | finishError loaded dispatch runId code retryable retryAfter =>
      refine .commit fun value db same => ?_
      obtain ⟨-, rfl⟩ := Prod.mk.inj (Except.ok.inj same)
      exact .of_touches finishError_touches
  | finishLockLost loaded dispatch runId =>
      refine .commitUnit fun db same => ?_
      obtain rfl := Except.ok.inj same
      exact .of_touches finishLockLost_touches
  | mark due identity ttl =>
      unfold perform
      simp only
      split
      · exact .note (.withRedis _)
      · exact .refl _
  | enqueue dispatch => exact ⟨Int.le_refl _, .refl _, List.prefix_refl _⟩
  | load | «exists» | get | newToken | credential | now | fetch | readCursor | duePage | revision =>
      exact .refl _

theorem Executed.evolves {op : Op} {reply : Result (Answer op)}
    (executed : Executed deployed state who op reply state') : Evolves state state' := by
  cases executed with
  | performed => exact perform_evolves op
  | failed | found => exact .refl _
  | ended => exact .note (.refl _)

theorem advanceLegacy_grows {reader : Reader} {db db' : Database} {account : Uuid}
    {cursorType value : String} (advanced : advanceLegacy reader db account cursorType value =
      some db') : Grows db db' := by
  unfold advanceLegacy at advanced
  split at advanced
  · simp at advanced
  · split at advanced
    · obtain rfl := Option.some.inj advanced
      exact .of_touches (@Touches.addCursor 0 _ _)
    · split at advanced
      · obtain rfl := Option.some.inj advanced
        exact .of_touches (@Touches.setCursor 0 _ _ _)
      · simp at advanced

theorem happen_evolves {happening : Happening}
    (happened : happen deployed state happening = some state') : Evolves state state' := by
  cases happening with
  | tick elapsed =>
      obtain rfl := Option.some.inj happened
      exact ⟨by simp, .refl _, List.prefix_refl _⟩
  | lose key =>
      obtain rfl := Option.some.inj happened
      exact .withRedis _
  | renew who =>
      unfold happen at happened
      simp only at happened
      split at happened
      · split at happened
        · simp at happened
        · obtain rfl := Option.some.inj happened
          unfold renewOnce
          simp only
          split
          · exact .withRedis _
          · exact .setRenewal _
      · simp at happened
  | recover staleBefore delay =>
      obtain rfl := Option.some.inj happened
      exact .of_grows (recoverStaleTargetRuns_grows ..)
  | recoverLegacy staleAfter =>
      obtain rfl := Option.some.inj happened
      exact .of_grows (recoverStaleRuns_grows ..)
  | revise targetId expected values =>
      unfold happen at happened
      simp only at happened
      split at happened
      · next next db ok =>
        obtain rfl := Option.some.inj happened
        exact .of_grows (revise_grows ok)
      · simp at happened
  | advanceLegacy account cursorType value =>
      obtain ⟨db, advanced, rfl⟩ := Option.map_eq_some_iff.1 happened
      exact .of_grows (advanceLegacy_grows advanced)

/-- The frame of a step of the system. -/
theorem stepped_evolves {phases phases' : ℕ → Option Phase}
    {move : Move signature Choice Job Happening}
    (stepped : (discipline deployed).Stepped state phases move state' phases') :
    Evolves state state' := by
  cases stepped with
  | work who op choice bound allowed executed => exact (executed_of_exec executed).evolves
  | crash who bound => exact .setRenewal none
  | start who job free accepted =>
      obtain rfl := Option.some.inj accepted
      cases job with
      | execute dispatch => exact ⟨Int.le_refl _, .refl _, List.prefix_refl _⟩
      | schedule => exact .refl _
  | env happening happened => exact happen_evolves happened

/-! ### What a phase knows -/

/-- A worker that has the lock is executing a dispatch that names itself. -/
structure Resident (who : Nat) (execution : Execution) : Prop where
  owner_eq : execution.owner = who
  parsed : RunMode.parse execution.dispatch.runMode = some execution.mode
  named : execution.dispatch.dispatchId = ⟨execution.dispatch.targetId,
    execution.dispatch.configRevision, execution.dispatch.scheduledSlot, execution.mode.value⟩

/-- A target that has been loaded for an execution is the stored one, under its contract. -/
structure LoadedFor (deployed : Deployment) (db : Database) (execution : Execution)
    (loaded : LoadedTarget) : Prop where
  id_eq : loaded.target.id = execution.dispatch.targetId
  revision_eq : loaded.target.configRevision = execution.dispatch.configRevision
  stored : ∃ target, db.target loaded.target.id = some target ∧ loaded.target.Succeeds target
  source : (db.source loaded.target.sourceId).map Source.configured = some loaded.source.configured
  resolved : deployed.registry.resolve loaded.source.accessMethod loaded.target.operationKey
    loaded.target.operationConfigVersion loaded.target.providerContractVersion =
      .ok loaded.contract
  valid : loaded.contract.validate loaded.target.operationConfig loaded.target.batchLimit
    loaded.target.maxRequestsPerRun loaded.target.maxPagesPerRun = .ok loaded.config

/-- The run of a tenure is a run of its target, in its mode. -/
def Tenure.Of (db : Database) (tenure : Tenure) : Prop :=
  ∃ run, db.run tenure.runId = some run ∧
    run.targetId = some tenure.execution.dispatch.targetId ∧ run.runMode = tenure.execution.mode

/-- **What a phase knows of the state.** -/
def Known (deployed : Deployment) (state : Control) (who : Nat) : Phase → Prop
  | .scheduling clock page _ =>
      (∀ now, clock = some now → now ≤ state.now) ∧ ∀ due ∈ page, due.effectiveDueAt ≤ state.now
  | .arriving dispatch token =>
      (∃ mode, RunMode.parse dispatch.runMode = some mode ∧ dispatch.dispatchId =
        ⟨dispatch.targetId, dispatch.configRevision, dispatch.scheduledSlot, mode.value⟩) ∧
        ∀ owner, token = some owner → owner = who
  | .locked execution loaded =>
      Resident who execution ∧
        ∀ target, loaded = some target → LoadedFor deployed state.database execution target
  | .collecting work =>
      Resident who work.execution ∧ LoadedFor deployed state.database work.execution work.loaded ∧
        work.toTenure.Of state.database
  | .leaving execution => Resident who execution
  | .releasing .. | .gone => True

/-- Everything that is known, of every task. -/
structure Sound (deployed : Deployment) (state : Control) (phases : ℕ → Option Phase) : Prop where
  issued : state.database.Issued
  known : ∀ who phase, phases who = some phase → Known deployed state who phase

section Known

theorem LoadedFor.mono {execution : Execution} {loaded : LoadedTarget}
    (known : LoadedFor deployed state.database execution loaded) (evolves : Evolves state state') :
    LoadedFor deployed state'.database execution loaded :=
  { known with
    stored := by
      obtain ⟨target, found, succeeds⟩ := known.stored
      obtain ⟨target', found', succeeds'⟩ := evolves.grows.succeeds _ target found
      exact ⟨target', found', succeeds.trans succeeds'⟩
    source := (evolves.grows.sources_eq _).trans known.source }

theorem Tenure.Of.mono {tenure : Tenure} (known : tenure.Of state.database)
    (evolves : Evolves state state') : tenure.Of state'.database := by
  obtain ⟨run, found, target, mode⟩ := known
  obtain ⟨run', found', same⟩ := evolves.grows.identity_kept _ run found
  exact ⟨run', found', (congrArg RunIdentity.targetId same).trans target,
    (congrArg RunIdentity.runMode same).trans mode⟩

/-- **What is known stays so.** -/
theorem Known.mono {phase : Phase} (known : Known deployed state who phase)
    (evolves : Evolves state state') : Known deployed state' who phase := by
  cases phase with
  | scheduling clock page claimed =>
      exact ⟨fun now told => (known.1 now told).trans evolves.now_le,
        fun due member => (known.2 due member).trans evolves.now_le⟩
  | arriving => exact known
  | locked execution loaded =>
      exact ⟨known.1, fun target same => (known.2 target same).mono evolves⟩
  | collecting work => exact ⟨known.1, known.2.1.mono evolves, known.2.2.mono evolves⟩
  | leaving => exact known
  | releasing | gone => exact trivial

/-- A job starts with nothing to know but its dispatch. -/
theorem known_initial (job : Job) : Known deployed state who job.phase := by
  cases job with
  | execute dispatch =>
      unfold Job.phase
      simp only
      split
      · next mode parsed =>
        split
        · exact trivial
        · next named =>
          exact ⟨⟨mode, parsed, not_not.1 named⟩, by simp⟩
      · exact trivial
  | schedule => exact ⟨by simp, by simp⟩

theorem loadForExecution_loadedFor {execution : Execution} {loaded : LoadedTarget}
    (ok : loadForExecution deployed.registry state.database execution.dispatch.targetId
      execution.dispatch.configRevision = .ok loaded) :
    LoadedFor deployed state.database execution loaded := by
  obtain ⟨found, revision, source, resolved, valid⟩ := loadForExecution_eq_ok ok
  have same := loadForExecution_id ok
  exact ⟨same, revision, ⟨loaded.target, by rw [same, found], .refl _⟩, by rw [source]; rfl,
    resolved, valid⟩

/-- The due targets of a page are due. -/
theorem duePage_due {db : Database} {now : Int} {limit : Nat} {after : Option DueTarget}
    {due : DueTarget} (member : due ∈ duePage db now limit after) : due.effectiveDueAt ≤ now := by
  have inside := List.mem_of_mem_take member
  rw [List.mem_insertionSort] at inside
  obtain ⟨target, found, rfl⟩ := List.mem_map.1 (List.mem_filter.1 inside).1
  have := (List.mem_filter.1 found).2
  simp only [Bool.and_eq_true, decide_eq_true_eq] at this
  exact this.1.2

theorem known_raised {phase : Phase} (known : Known deployed state who phase) (op : Op)
    (raised : PyError) : Known deployed state who (phase.raised op raised) := by
  cases phase with
  | scheduling clock page claimed =>
      unfold Phase.raised
      simp only
      split
      · exact trivial
      · split
        · exact known
        · exact trivial
      · split
        · exact known
        · exact trivial
      · exact trivial
  | locked execution loaded =>
      unfold Phase.raised
      simp only
      split
      · split
        · exact known
        · exact known.1
      · exact known.1
  | collecting work =>
      unfold Phase.raised
      simp only
      split
      · exact known
      · exact known.1
      · exact known
  | leaving => exact known
  | releasing | arriving | gone => exact trivial

/-- An answer that is not that of a request or of a query among rows is the operation's own. -/
theorem Executed.perform_eq {op : Op} {value : Answer op}
    (executed : Executed deployed state who op (.ok value) state')
    (unfetched : ∀ runId request, op ≠ .fetch runId request)
    (unread : ∀ targetId cursorType mode, op ≠ .readCursor targetId cursorType mode) :
    perform deployed state who op = (.ok value, state') := by
  generalize same : (.ok value : Result (Answer op)) = reply at executed
  cases executed with
  | performed => rfl
  | failed => simp at same
  | ended runId request => exact absurd rfl (unfetched runId request)
  | found targetId cursorType mode => exact absurd rfl (unread targetId cursorType mode)

variable {op : Op} {value : Answer op}

theorem known_scheduling {clock : Option Int} {page : List DueTarget}
    {claimed : List TargetDispatch}
    (known : Known deployed state' who (.scheduling clock page claimed))
    (sound : ∀ now, clock = some now → now ≤ state.now)
    (allowed : scheduling.allowed clock page claimed op)
    (executed : Executed deployed state who op (.ok value) state') :
    Known deployed state' who (scheduling.answered clock page claimed op value) := by
  have later := executed.evolves.now_le
  cases op with
  | now =>
      obtain ⟨same, -⟩ := Prod.mk.inj (executed.perform_eq (by simp) (by simp))
      obtain rfl : state.now = value := Except.ok.inj same
      refine ⟨fun now told => ?_, known.2⟩
      obtain rfl := Option.some.inj told
      exact later
  | duePage now limit after =>
      obtain ⟨same, -⟩ := Prod.mk.inj (executed.perform_eq (by simp) (by simp))
      obtain rfl : duePage state.database now limit after = value := Except.ok.inj same
      exact ⟨known.1, fun due member =>
        ((duePage_due member).trans (sound now allowed)).trans later⟩
  | mark | enqueue | load | revision => exact known
  | _ => exact False.elim allowed

theorem known_arriving {dispatch : TargetDispatch} {token : Option Nat}
    (known : Known deployed state' who (.arriving dispatch token))
    (allowed : arriving.allowed dispatch token op)
    (executed : Executed deployed state who op (.ok value) state') :
    Known deployed state' who (arriving.answered dispatch token op value) := by
  cases op with
  | load => exact known
  | «exists» key =>
      show Known deployed state' who (if value = true then .gone else .arriving dispatch token)
      split
      · exact trivial
      · exact known
  | newToken =>
      obtain ⟨same, -⟩ := Prod.mk.inj (executed.perform_eq (by simp) (by simp))
      obtain rfl : who = value := Except.ok.inj same
      exact ⟨known.1, fun owner told => (Option.some.inj told).symm⟩
  | setIfAbsent key written ttl =>
      cases key with
      | targetLock target mode =>
          cases written with
          | owner owner =>
              obtain ⟨-, parsed, told⟩ := allowed
              obtain ⟨⟨mode', parsed', named⟩, token⟩ := known
              obtain rfl := Option.some.inj (parsed.symm.trans parsed')
              show Known deployed state' who
                (if value = true then .locked ⟨dispatch, mode, owner⟩ none else .gone)
              split
              · exact ⟨⟨token owner told, parsed, named⟩, by simp⟩
              · exact trivial
          | _ => exact False.elim allowed
      | _ => exact False.elim allowed
  | _ => exact False.elim allowed

/-- The run that has been started is a run of the target, in the mode. -/
theorem startRun_of {now : Int} {loaded : LoadedTarget} {dispatch : TargetDispatch}
    {mode : RunMode} {db db' : Database} {started : Uuid × Option Cursor} (issued : db.Issued)
    (ok : startRun db now loaded dispatch mode = .ok (started, db')) :
    ∃ run, db'.run started.1 = some run ∧ run.targetId = some loaded.target.id ∧
      run.runMode = mode ∧ run.status = .running := by
  obtain ⟨target, found, -, -, ⟨run, held, same, rfl⟩ | ⟨-, same, rfl⟩⟩ := startRun_eq_ok ok
  · have running := List.find?_some held
    simp only [Bool.decide_and, Bool.and_eq_true, decide_eq_true_eq] at running
    refine ⟨run, ?_, running.1.trans (congrArg some (Database.target_id _ found)), running.2.1, running.2.2⟩
    rw [same]
    exact Table.find_of_mem Run.id issued.distinct (List.mem_of_find?_eq_some held)
  · refine ⟨newRun target dispatch mode now db.fresh, ?_, ?_, rfl, rfl⟩
    · rw [same]
      exact Table.find_append_fresh (Database.run_fresh issued)
    · rw [← Database.target_id _ found]
      rfl

theorem known_locked {execution : Execution} {loaded : Option LoadedTarget}
    (known : Known deployed state' who (.locked execution loaded)) (issued : state.database.Issued)
    (allowed : locked.allowed execution loaded op)
    (executed : Executed deployed state who op (.ok value) state') :
    Known deployed state' who (locked.answered execution loaded op value) := by
  cases op with
  | spawnRenewal | credential => exact known
  | markCredentialMissing => exact known.1
  | load targetId revision =>
      obtain ⟨same, rfl⟩ := Prod.mk.inj (executed.perform_eq (by simp) (by simp))
      obtain ⟨rfl, rfl⟩ := allowed
      refine ⟨known.1, fun target told => ?_⟩
      obtain rfl := Option.some.inj told
      exact loadForExecution_loadedFor same
  | startRun target dispatch mode =>
      obtain ⟨held, rfl, rfl⟩ := allowed
      have loadedFor := known.2 target held
      obtain ⟨runId, cursor⟩ := value
      have done := executed.perform_eq (by simp) (by simp)
      unfold perform at done
      simp only at done
      split at done
      · next started db ok =>
        obtain ⟨same, rfl⟩ := Prod.mk.inj done
        obtain rfl : started = (runId, cursor) := Except.ok.inj same
        obtain ⟨run, found, target', mode, -⟩ := startRun_of issued ok
        exact ⟨known.1, loadedFor, run, found, target'.trans (congrArg some loadedFor.id_eq), mode⟩
      · simp at done
  | _ => exact False.elim allowed

theorem known_collecting {rules : Rules} {work : Collecting}
    (known : Known deployed state' who (.collecting work))
    (allowed : collecting.allowed rules work op) :
    Known deployed state' who (collecting.answered work op value) := by
  cases op with
  | now | set | load | get => exact known
  | stopRenewal | finishError | finishLockLost => exact known.1
  | resolvedRunConfig | fetch | readCursor => exact known
  | reserveRequest =>
      cases value with
      | exhausted => exact known.1
      | reserved => exact known
  | persistResult loaded dispatch runId mode page =>
      show Known deployed state' who (if page.final = true then .leaving work.execution
        else .collecting { work with source := page.result.nextCursor, stage := .turned })
      split
      · exact known.1
      · exact known
  | _ => exact False.elim allowed

/-- **What the phase after a reply knows.** -/
theorem known_next {phase : Phase} {reply : Result (Answer op)}
    (known : Known deployed state who phase) (issued : state.database.Issued)
    (allowed : phase.allowed deployed.rules op)
    (executed : Executed deployed state who op reply state') :
    Known deployed state' who (phase.next op reply) := by
  have kept := known.mono executed.evolves
  cases reply with
  | error raised => exact known_raised kept op raised
  | ok value =>
      cases phase with
      | scheduling clock page claimed => exact known_scheduling kept known.1 allowed executed
      | arriving dispatch token => exact known_arriving kept allowed executed
      | locked execution loaded => exact known_locked kept issued allowed executed
      | collecting work => exact known_collecting kept allowed
      | leaving => exact kept
      | releasing | gone => exact trivial

end Known

/-- **What is known is preserved by every step.** -/
theorem sound_preserved {phases phases' : ℕ → Option Phase}
    {move : Move signature Choice Job Happening}
    (stepped : (discipline deployed).Stepped state phases move state' phases')
    (sound : Sound deployed state phases) : Sound deployed state' phases' := by
  have evolves := stepped_evolves stepped
  have others : ∀ who phase, phases who = some phase → Known deployed state' who phase :=
    fun who phase held => (sound.known who phase held).mono evolves
  refine ⟨evolves.grows.issued sound.issued, fun other phase held => ?_⟩
  cases stepped with
  | work who op choice bound allowed executed =>
      by_cases same : other = who
      · subst same
        rw [Function.update_self] at held
        obtain rfl := Option.some.inj held
        exact known_next (sound.known _ _ bound) sound.issued allowed (executed_of_exec executed)
      · rw [Function.update_of_ne same] at held
        exact others other phase held
  | crash who bound =>
      by_cases same : other = who
      · subst same
        rw [Function.update_self] at held
        simp at held
      · rw [Function.update_of_ne same] at held
        exact others other phase held
  | start who job free accepted =>
      by_cases same : other = who
      · subst same
        rw [Function.update_self] at held
        obtain rfl := Option.some.inj held
        exact known_initial job
      · rw [Function.update_of_ne same] at held
        exact others other phase held
  | env => exact others other phase held

end NewsCollect.Collection
