/-
**The budgets of a run.**

A request is counted before it is made and a page when it is stored, in the row of the run, so the
counts outlive the worker. While the executions of a target are serialised by its lock, no run
exceeds the budgets of its target.

* `pagesLeft`: an execution stores so many pages at most, the last one of them as the final one.
* `Serial`: a worker that collects a run does so while it holds the lock.
* `Spent.Within`: the counts of a run are within the budgets of its target.
* `budgets_kept`: they are, in every serial history; every request has its own count; and a run
  whose budget is used up is partial, makes no further request and keeps its continuation.
-/

import NewsCollect.Proof.Absorbing
import NewsCollect.Proof.CursorRows
import NewsCollect.Proof.Unrevised

namespace NewsCollect.Collection

open Calendar Interleaving Providers

/-! ### The pages of an execution -/

/-- So many pages may be stored, and the last of them only as the final one. -/
def pagesLeft : Protocol signature Nat where
  allowed left op :=
    match op with
    | .persistResult _ _ _ _ page => 0 < left ∧ (left = 1 → page.final = true)
    | _ => True
  next left op _ :=
    match op with
    | .persistResult .. => left - 1
    | _ => left

/-- A program that stores no more pages than are left. -/
abbrev Spares {α : Type} (left : Nat) (program : Procedure α) : Prop :=
  pagesLeft.FollowsE left program fun _ _ => True

section Pages

variable {rules : Rules} {execution : Execution} {loaded : LoadedTarget} {runId : Uuid}

theorem deadlineExceeded_spares (left : Nat) :
    Spares left (deadlineExceeded execution loaded runId) :=
  Protocol.followsE_request_bind trivial (fun _ => Protocol.followsE_pure trivial) fun _ => trivial

theorem lockLost_spares (left : Nat) : Spares left (lockLost execution loaded runId) :=
  Protocol.followsE_request_bind trivial (fun _ => Protocol.followsE_pure trivial) fun _ => trivial

theorem endWithError_spares (left : Nat) {code : String} {retryable : Bool}
    {retryAfter : Option (Nat × Nat)} :
    Spares left (endWithError execution loaded runId code retryable retryAfter) :=
  Protocol.followsE_request_bind trivial (fun _ => Protocol.followsE_pure trivial) fun _ => trivial

theorem adapterError_spares (left : Nat) (error : ProviderAdapterError) :
    Spares left (adapterError execution loaded runId error) := by
  unfold adapterError
  split
  · exact Protocol.followsE_request_bind trivial (fun _ => endWithError_spares left)
      fun _ => trivial
  · exact endWithError_spares left

/-- Once a page has been stored that is not the last one, there is one page less to store. -/
def OneLess (left phase : Nat) : Result (Option TargetRunOutcome) → Prop
  | .ok none => phase = left
  | _ => True

theorem storePage_pages {left : Nat} {cursor : Option Cursor} {request : ProviderFetchRequest}
    {result : ProviderFetchResult} :
    pagesLeft.FollowsE (left + 1)
      (storePage rules execution loaded runId cursor request (left == 0) result) (OneLess left) := by
  refine Protocol.followsE_bind (Protocol.followsE_compute ?_)
  split
  · refine Protocol.followsE_request_bind trivial (fun owner => ?_) fun _ => trivial
    refine Protocol.followsE_bind (Protocol.followsE_compute ?_)
    split
    · refine Protocol.followsE_bind (Protocol.followsE_compute ?_)
      split
      · refine Protocol.followsE_request_bind ⟨Nat.succ_pos left, fun last => ?_⟩ (fun _ => ?_)
          fun _ => trivial
        · simp [Nat.succ.inj last]
        · refine Protocol.followsE_pure ?_
          show OneLess left left _
          split
          · trivial
          · rfl
      · trivial
    · trivial
  · trivial

/-- **The loop over the pages** stores so many at most. -/
theorem executePages_spares {left : Nat} {cursor : Option Cursor} {request : ProviderFetchRequest} :
    Spares left (executePages rules execution loaded runId left cursor request) := by
  induction left generalizing cursor request with
  | zero => exact Protocol.followsE_throw trivial
  | succ left ih =>
      refine Protocol.followsE_request_bind trivial (fun _ => ?_) fun _ => trivial
      refine Protocol.followsE_request_bind trivial ?_ fun _ => trivial
      rintro (_ | deadline)
      · exact Protocol.followsE_pure trivial
      · refine Protocol.followsE_request_bind trivial (fun now => ?_) fun _ => trivial
        split
        · exact deadlineExceeded_spares (left + 1)
        · refine Protocol.followsE_bind (Protocol.followsE_attempt ?_)
          refine Protocol.followsE_request trivial ?_
          rintro (raised | result)
          · show Spares (left + 1) _
            simp only
            split
            · exact lockLost_spares (left + 1)
            · split
              · exact deadlineExceeded_spares (left + 1)
              · exact Protocol.followsE_throw trivial
          · show Spares (left + 1) _
            simp only
            split
            · exact adapterError_spares (left + 1) _
            · refine Protocol.followsE_bind (Protocol.followsE_mono storePage_pages ?_)
              rintro phase (raised | (_ | outcome)) stored
              · trivial
              · obtain rfl : phase = left := stored
                exact Protocol.followsE_request_bind trivial (fun _ => ih) fun _ => trivial
              · exact Protocol.followsE_pure trivial

/-- **An execution stores as many pages as its budgets allow**, at most, and the last of these as the
final one. -/
theorem collect_spares {cursor : Option Cursor}
    (bounded : loaded.contract.paginationCapability = .boundedWindowV1) :
    Spares (min loaded.target.maxPagesPerRun loaded.target.maxRequestsPerRun).toNat
      (collect rules execution loaded runId cursor) := by
  unfold collect
  rw [if_pos bounded]
  refine Protocol.followsE_request_bind trivial (fun bound => ?_) fun _ => trivial
  refine Protocol.followsE_bind (Protocol.followsE_bind (Protocol.followsE_compute ?_))
  split
  · refine Protocol.followsE_request_bind trivial (fun now => Protocol.followsE_compute ?_)
      fun _ => trivial
    split
    · exact executePages_spares
    · trivial
  · trivial

end Pages

/-! ### What a run has spent -/

/-- The counts of a run. -/
structure Spent where
  requestCount : Nat
  pageCount : Nat
  retryCount : Nat
  fetchedCount : Nat
  newCount : Nat
  duplicateCount : Nat
deriving DecidableEq

def RunLedger.spent (ledger : RunLedger) : Spent :=
  ⟨ledger.requestCount, ledger.pageCount, ledger.retryCount, ledger.fetchedCount, ledger.newCount,
    ledger.duplicateCount⟩

def Run.spent (run : Run) : Spent := run.ledger.spent

/-- The requests that have been made for a run. -/
def Control.fetches (state : Control) (runId : Uuid) : Nat := state.journal.count (.fetched runId)

/-- **The counts are within the budgets of the target.** -/
structure Spent.Within (spent : Spent) (target : Target) (fetches : Nat) : Prop where
  pages_le : spent.pageCount ≤ spent.requestCount
  requests_le : (spent.requestCount : Int) ≤ target.maxRequestsPerRun
  pages_bounded : (spent.pageCount : Int) ≤ target.maxPagesPerRun
  retries_le : spent.retryCount ≤ 3
  counted : spent.fetchedCount = spent.newCount + spent.duplicateCount
  fetches_le : fetches ≤ spent.requestCount

/-- The operation of the target fetches page after page. -/
def Target.Paged (registry : OperationRegistry) (db : Database) (target : Target) : Prop :=
  ∃ source contract, db.source target.sourceId = some source ∧
    registry.resolve source.accessMethod target.operationKey target.operationConfigVersion
      target.providerContractVersion = .ok contract ∧
    contract.paginationCapability = .boundedWindowV1

/-- A worker has counted the request it is about to make, or the one whose page it is about to
store. -/
structure Collecting.Covered (work : Collecting) (spent : Spent) (fetches : Nat) : Prop where
  reserved : work.stage = .reserved → spent.pageCount < spent.requestCount ∧
    (spent.pageCount : Int) < work.loaded.target.maxPagesPerRun ∧ fetches < spent.requestCount
  fetched : ∀ result, work.stage = .fetched result → spent.pageCount < spent.requestCount ∧
    (spent.pageCount : Int) < work.loaded.target.maxPagesPerRun

/-- **Serial histories**: a worker that collects a run acts while it holds the lock of the target.
No target is revised, and the older pass over all runs does not happen. -/
def Serial (state : Control) (phases : ℕ → Option Phase) :
    Move signature Choice Job Happening → Prop
  | .work who _ _ => ∀ work, phases who = some (.collecting work) → work.execution.Holds state
  | .env (.recoverLegacy _) => False
  | .env (.revise ..) => False
  | _ => True

/-- **Every run is within its budgets, and every worker with a lock has counted its request.** -/
structure Budgeted (registry : OperationRegistry) (state : Control)
    (phases : ℕ → Option Phase) : Prop where
  within : ∀ runId run target, state.database.run runId = some run →
    run.targetId = some target.id → state.database.target target.id = some target →
    target.Paged registry state.database → run.spent.Within target (state.fetches runId)
  covered : ∀ who work run, phases who = some (.collecting work) → work.execution.Holds state →
    work.bounded → state.database.run work.runId = some run →
    work.Covered run.spent (state.fetches work.runId)
  fetched : ∀ runId, 0 < state.fetches runId → ∃ run, state.database.run runId = some run

variable {deployed : Deployment} {state state' : Control} {who : Nat}
  {phases phases' : ℕ → Option Phase} {move : Move signature Choice Job Happening}

theorem Serial.orderly (serial : Serial state phases move) : Orderly state phases move := by
  cases move with
  | work who op choice => exact fun _ work told => .inl (serial work told)
  | env happening =>
      cases happening with
      | recoverLegacy => exact serial
      | _ => exact trivial
  | _ => exact trivial

theorem Serial.unrevising (serial : Serial state phases move) : Unrevising move := by
  cases move with
  | env happening =>
      cases happening with
      | revise => exact serial
      | _ => exact trivial
  | _ => exact trivial

/-! ### What a step does to the counts -/

/-- An operation makes a request, or leaves the number of requests as it is. -/
theorem Executed.fetches {op : Op} {reply : Result (Answer op)}
    (executed : Executed deployed state who op reply state') (runId : Uuid) :
    (∃ request, op = .fetch runId request) ∧ state'.fetches runId = state.fetches runId + 1 ∨
      (∀ request, op ≠ .fetch runId request) ∧ state'.fetches runId = state.fetches runId := by
  have noted : ∀ entry : Entry, entry ≠ .fetched runId →
      (state.note entry).fetches runId = state.fetches runId := by
    intro entry different
    simp [Control.note, Control.fetches, List.count_append, different]
  cases executed with
  | ended fetchedId request result may =>
      by_cases same : fetchedId = runId
      · subst same
        refine .inl ⟨⟨request, rfl⟩, ?_⟩
        simp [Control.note, Control.fetches, List.count_append]
      · refine .inr ⟨fun other told => same ?_, noted _ ?_⟩
        · simp only [Op.fetch.injEq] at told
          exact told.1
        · simpa using same
  | failed _ raised faulty =>
      refine .inr ⟨fun request told => ?_, rfl⟩
      subst told
      simp [faultOf] at faulty
  | found => exact .inr ⟨by simp, rfl⟩
  | performed _ local' =>
      refine .inr ⟨local' runId, ?_⟩
      have committed : ∀ {α : Type} (result : Result (α × Database)),
          (state.commit result).2.fetches runId = state.fetches runId := by
        intro α result
        cases result with
        | error => rfl
        | ok => rfl
      cases op with
      | startRun loaded dispatch mode =>
          unfold perform
          simp only
          split
          · next started db ok =>
            show ({ state with database := db }.note _).fetches runId = _
            simp [Control.note, Control.fetches, List.count_append]
          · rfl
      | mark due identity ttl =>
          unfold perform
          simp only
          split
          · simp [Control.note, Control.withRedis, Control.fetches, List.count_append]
          · rfl
      | resolvedRunConfig | reserveRequest | persistResult | finishError | finishLockLost |
        markCredentialMissing => exact committed _
      | _ => rfl

/-- A run that is there after an operation was there before, or has just been started. -/
theorem Executed.run_before {op : Op} {reply : Result (Answer op)}
    (executed : Executed deployed state who op reply state') {runId : Uuid} {run' : Run}
    (found : state'.database.run runId = some run') :
    (∃ run, state.database.run runId = some run ∧ run'.identity = run.identity) ∨
      ∃ loaded dispatch mode target, op = .startRun loaded dispatch mode ∧
        state.database.target loaded.target.id = some target ∧
        target.configRevision = dispatch.configRevision ∧
        run' = newRun target dispatch mode state.now runId ∧
        runId = state.database.fresh := by
  have of_touches : ∀ {id : Uuid} {db : Database}, Touches id state.database db →
      db.run runId = some run' →
      ∃ run, state.database.run runId = some run ∧ run'.identity = run.identity := by
    intro id db touches held
    have same := touches.identity_eq runId
    rw [held] at same
    obtain ⟨run, before, identical⟩ := Option.map_eq_some_iff.1 same.symm
    exact ⟨run, before, identical.symm⟩
  have committed : ∀ {α : Type} (result : Result (α × Database)),
      (∀ value db, result = .ok (value, db) → ∃ id, Touches id state.database db) →
      (state.commit result).2.database.run runId = some run' →
      ∃ run, state.database.run runId = some run ∧ run'.identity = run.identity := by
    intro α result touches held
    cases result with
    | error => exact ⟨run', held, rfl⟩
    | ok pair =>
        obtain ⟨id, touched⟩ := touches pair.1 pair.2 rfl
        exact of_touches touched held
  have committedUnit : ∀ (result : Result Database),
      (∀ db, result = .ok db → ∃ id, Touches id state.database db) →
      (state.commitUnit result).2.database.run runId = some run' →
      ∃ run, state.database.run runId = some run ∧ run'.identity = run.identity := by
    intro result touches held
    refine committed _ (fun value db same => ?_) held
    cases result with
    | error => simp [Except.map] at same
    | ok written =>
        obtain ⟨-, rfl⟩ := Prod.mk.inj (Except.ok.inj same)
        exact touches written rfl
  cases executed with
  | failed | ended | found => exact .inl ⟨run', found, rfl⟩
  | performed =>
      cases op with
      | startRun loaded dispatch mode =>
          unfold perform at found
          simp only at found
          split at found
          · next started db ok =>
            obtain ⟨target, held, revision, -, ⟨run, -, -, rfl⟩ | ⟨-, -, rfl⟩⟩ := startRun_eq_ok ok
            · exact .inl ⟨run', found, rfl⟩
            · have added : Table.find Run.id (state.database.runs ++
                  [newRun target dispatch mode state.now state.database.fresh]) runId = some run' :=
                found
              by_cases same : runId = state.database.fresh
              · subst same
                rw [Table.find_append] at added
                cases before : Table.find Run.id state.database.runs state.database.fresh with
                | some run =>
                    rw [before] at added
                    exact .inl ⟨run', before.trans added, rfl⟩
                | none =>
                    rw [before] at added
                    refine .inr ⟨loaded, dispatch, mode, target, rfl, held, revision, ?_, rfl⟩
                    simpa [newRun] using added.symm
              · have other : (newRun target dispatch mode state.now state.database.fresh).id ≠ runId :=
                  fun named => same named.symm
                rw [Table.find_append_ne other] at added
                exact .inl ⟨run', added, rfl⟩
          · exact .inl ⟨run', found, rfl⟩
      | resolvedRunConfig boundId loaded cursor mode =>
          exact .inl (committed _ (fun value db ok => ⟨boundId, resolvedRunConfig_touches ok⟩) found)
      | reserveRequest loaded reservedId =>
          refine .inl (committed _ (fun value db ok => ⟨reservedId, ?_⟩) found)
          obtain ⟨run, -, touches, -⟩ := reserveRequest_eq_ok ok
          exact touches
      | persistResult loaded dispatch storedId mode page =>
          exact .inl (committedUnit _ (fun db ok => ⟨storedId, (persistResult_run ok).1⟩) found)
      | finishError loaded dispatch endedId code retryable retryAfter =>
          refine .inl (committed _ (fun value db ok => ⟨endedId, ?_⟩) found)
          have written := congrArg Prod.snd (Except.ok.inj ok)
          simp only at written
          rw [← written]
          exact finishError_touches
      | finishLockLost loaded dispatch endedId =>
          refine .inl (committedUnit _ (fun db ok => ⟨endedId, ?_⟩) found)
          rw [← Except.ok.inj ok]
          exact finishLockLost_touches
      | markCredentialMissing loaded =>
          refine .inl (committedUnit _ (fun db ok => ⟨runId, ?_⟩) found)
          rw [← Except.ok.inj ok]
          exact (markCredentialMissing_touches runId).1
      | mark due identity ttl =>
          unfold perform at found
          simp only at found
          split at found
          · exact .inl ⟨run', found, rfl⟩
          · exact .inl ⟨run', found, rfl⟩
      | _ => exact .inl ⟨run', found, rfl⟩

/-! ### The page, the error and the lost lock -/

/-- A page of many counts once. -/
theorem settledRun_spent {page : PageWrite} (paged : page.pageMode = true)
    (counts : DownstreamCounts) (now : Int) (run : Run) :
    (settledRun page counts now run).spent =
      { run.spent with
        pageCount := run.pageCount + 1
        fetchedCount := run.fetchedCount + counts.fetched
        newCount := run.newCount + counts.new
        duplicateCount := run.duplicateCount + counts.duplicates } := by
  have counted : (countedRun page counts now run).spent =
      { run.spent with
        pageCount := run.pageCount + 1
        fetchedCount := run.fetchedCount + counts.fetched
        newCount := run.newCount + counts.new
        duplicateCount := run.duplicateCount + counts.duplicates } := by
    simp [countedRun, Run.spent, Run.ledger, RunLedger.spent, paged]
  unfold settledRun
  split
  · exact counted
  · split
    · exact counted
    · exact counted

/-- The run of a worker that has lost its lock spends nothing. -/
theorem finishLockLost_run {db : Database} {now : Int} {loaded : LoadedTarget}
    {dispatch : TargetDispatch} {runId : Uuid} {run : Run} (found : db.run runId = some run) :
    ∃ run', (finishLockLost db now loaded dispatch runId).run runId = some run' ∧
      run'.spent = run.spent := by
  unfold finishLockLost
  rw [found]
  split
  · split
    · rw [Database.run_setRun_same _ (lostRun now) fun _ => rfl, found]
      exact ⟨_, rfl, rfl⟩
    · rw [Database.run_setTarget, Database.run_setRun_same _ (lostRun now) fun _ => rfl, found]
      exact ⟨_, rfl, rfl⟩
  · exact ⟨run, found, rfl⟩

/-- An error of a run counts as a retry, if it is retried. -/
theorem finishError_run {db : Database} {now : Int} {loaded : LoadedTarget}
    {dispatch : TargetDispatch} {runId : Uuid} {code : String} {retryable : Bool}
    {retryAfter : Option (Nat × Nat)} {run : Run} (found : db.run runId = some run) :
    ∃ run', (finishError db now loaded dispatch runId code retryable retryAfter).2.run runId =
        some run' ∧ (run'.spent = run.spent ∨ run.retryCount < 3 ∧
          run'.spent = { run.spent with retryCount := run.retryCount + 1 }) := by
  obtain ⟨same, -⟩ | ⟨run', target, found', -, ⟨-, same⟩ | ⟨retry, retried, same⟩⟩ :=
    finishError_cases db now loaded dispatch runId code retryable retryAfter
  · rw [same]
    exact ⟨run, found, .inl rfl⟩
  · rw [same, Database.run_setRun_same _ (failedRun now "stale_target_revision") fun _ => rfl, found]
    exact ⟨_, rfl, .inl rfl⟩
  · obtain rfl := Option.some.inj (found.symm.trans found')
    rw [same, Database.run_setTarget, Database.run_setRun_same _ (erroredRun now code retry)
      fun _ => rfl, found]
    refine ⟨_, rfl, ?_⟩
    cases retry with
    | true =>
        have both := (Bool.and_eq_true _ _).mp retried.symm
        exact .inr ⟨of_decide_eq_true both.2, rfl⟩
    | false => exact .inl rfl

/-! ### One operation -/

/-- A worker whose target fetches page after page does so. -/
theorem LoadedFor.paged {execution : Execution} {loaded : LoadedTarget} {db : Database}
    {target : Target} (known : LoadedFor deployed db execution loaded)
    (current : (db.target loaded.target.id).map Target.configured = some loaded.target.configured)
    (found : db.target loaded.target.id = some target)
    (paged : target.Paged deployed.registry db) :
    loaded.contract.paginationCapability = .boundedWindowV1 := by
  obtain ⟨source, contract, held, resolved, capable⟩ := paged
  rw [found] at current
  have same : target.configured = loaded.target.configured := Option.some.inj current
  have sourceId : target.configured.sourceId = loaded.target.configured.sourceId :=
    congrArg Target.sourceId same
  have key : target.configured.operationKey = loaded.target.configured.operationKey :=
    congrArg Target.operationKey same
  have config : target.configured.operationConfigVersion =
      loaded.target.configured.operationConfigVersion := congrArg Target.operationConfigVersion same
  have version : target.configured.providerContractVersion =
      loaded.target.configured.providerContractVersion :=
    congrArg Target.providerContractVersion same
  have stored := known.source
  rw [show loaded.target.sourceId = target.sourceId from sourceId.symm, held] at stored
  have method : source.configured.accessMethod = loaded.source.configured.accessMethod :=
    congrArg Source.accessMethod (Option.some.inj stored)
  rw [show source.accessMethod = loaded.source.accessMethod from method,
    show target.operationKey = loaded.target.operationKey from key,
    show target.operationConfigVersion = loaded.target.operationConfigVersion from config,
    show target.providerContractVersion = loaded.target.providerContractVersion from version,
    known.resolved] at resolved
  rw [Except.ok.inj resolved]
  exact capable

/-- The budgets of what has been loaded are those of the target, and leave room for a page. -/
theorem LoadedFor.budgets {execution : Execution} {loaded : LoadedTarget} {db : Database}
    {target : Target} (known : LoadedFor deployed db execution loaded)
    (current : (db.target loaded.target.id).map Target.configured = some loaded.target.configured)
    (found : db.target loaded.target.id = some target) :
    target.maxRequestsPerRun = loaded.target.maxRequestsPerRun ∧
      target.maxPagesPerRun = loaded.target.maxPagesPerRun ∧
      1 ≤ loaded.target.maxRequestsPerRun ∧ 1 ≤ loaded.target.maxPagesPerRun := by
  rw [found] at current
  have same : target.configured = loaded.target.configured := Option.some.inj current
  have requests : target.configured.maxRequestsPerRun =
      loaded.target.configured.maxRequestsPerRun := congrArg Target.maxRequestsPerRun same
  have pages : target.configured.maxPagesPerRun = loaded.target.configured.maxPagesPerRun :=
    congrArg Target.maxPagesPerRun same
  obtain ⟨valid, -⟩ := check_eq_ok.1 known.valid
  simp only [require_eq_ok, Bool.and_eq_true, decide_eq_true_eq] at valid
  exact ⟨requests, pages, valid.1.1.1.2, valid.1.2⟩

/-- **A transaction of a covered worker stays within the budgets.** -/
theorem Spent.Within.settled {op : Op} {reply : Result (Answer op)} {work : Collecting}
    {run run' : Run} {target : Target} {fetches : Nat} (within : run.spent.Within target fetches)
    (executed : Executed deployed state who op reply state')
    (allowed : collecting.allowed deployed.rules work op) (settles : op.settles = true)
    (bounded : work.bounded) (covered : work.Covered run.spent fetches)
    (requests : target.maxRequestsPerRun = work.loaded.target.maxRequestsPerRun)
    (pages : target.maxPagesPerRun = work.loaded.target.maxPagesPerRun)
    (found : state.database.run work.runId = some run)
    (found' : state'.database.run work.runId = some run') :
    run'.spent.Within target fetches := by
  have unchanged : run'.spent = run.spent → run'.spent.Within target fetches := fun same =>
    same ▸ within
  cases reply with
  | error raised =>
      rw [executed.database_of_error, found] at found'
      obtain rfl := Option.some.inj found'
      exact within
  | ok value =>
      cases op with
      | reserveRequest loaded runId =>
          obtain ⟨-, -, -, rfl, rfl⟩ := allowed
          obtain ⟨db, ok, rfl⟩ := commit_eq_ok (executed.perform_eq (by simp) (by simp))
          obtain ⟨held, before, -, -, ⟨-, after, -⟩ | ⟨-, after, left, room⟩⟩ := reserveRequest_eq_ok ok
          · obtain rfl := Option.some.inj (found.symm.trans before)
            obtain rfl := Option.some.inj (found'.symm.trans after)
            exact within
          · obtain rfl := Option.some.inj (found.symm.trans before)
            obtain rfl := Option.some.inj (found'.symm.trans after)
            exact
              { within with
                pages_le := Nat.le_succ_of_le within.pages_le
                requests_le := by
                  show ((run.requestCount + 1 : Nat) : Int) ≤ _
                  omega
                fetches_le := Nat.le_succ_of_le within.fetches_le }
      | persistResult loaded dispatch runId mode page =>
          obtain ⟨rfl, -, rfl, -, storable⟩ := allowed
          obtain ⟨db, ok, rfl⟩ := commitUnit_eq_ok (executed.perform_eq (by simp) (by simp))
          obtain ⟨-, held, counts, before, counted, after⟩ := persistResult_run ok
          obtain rfl := Option.some.inj (found.symm.trans before)
          obtain rfl := Option.some.inj (found'.symm.trans after)
          obtain ⟨result, fetched, -⟩ := storable.fetched
          obtain ⟨less, room⟩ := covered.fetched result fetched
          rw [settledRun_spent (storable.paged.2 bounded)]
          exact
            { within with
              pages_le := less
              pages_bounded := by
                show ((run.pageCount + 1 : Nat) : Int) ≤ _
                have : (run.pageCount : Int) < work.loaded.target.maxPagesPerRun := room
                omega
              counted := by
                have total : run.fetchedCount = run.newCount + run.duplicateCount := within.counted
                show run.fetchedCount + counts.fetched = run.newCount + counts.new +
                  (run.duplicateCount + counts.duplicates)
                omega }
      | finishError loaded dispatch runId code retryable retryAfter =>
          obtain ⟨-, -, rfl⟩ := allowed
          have done : state.commit (.ok (finishError state.database state.now loaded dispatch
              work.runId code retryable retryAfter)) = (.ok value, state') :=
            executed.perform_eq (by simp) (by simp)
          obtain ⟨db, ok, rfl⟩ := commit_eq_ok done
          have written : (finishError state.database state.now loaded dispatch work.runId code
              retryable retryAfter).2 = db := congrArg Prod.snd (Except.ok.inj ok)
          obtain ⟨ended, after, spent⟩ := @finishError_run state.database state.now loaded dispatch
            work.runId code retryable retryAfter run found
          rw [written] at after
          obtain rfl := Option.some.inj (found'.symm.trans after)
          rcases spent with same | ⟨few, same⟩
          · exact unchanged same
          · rw [same]
            exact { within with retries_le := few }
      | finishLockLost loaded dispatch runId =>
          obtain ⟨-, -, rfl⟩ := allowed
          obtain ⟨db, ok, rfl⟩ := commitUnit_eq_ok (executed.perform_eq (by simp) (by simp))
          obtain rfl := Except.ok.inj ok
          obtain ⟨ended, after, same⟩ := @finishLockLost_run state.database state.now loaded dispatch
            work.runId run found
          obtain rfl := Option.some.inj (found'.symm.trans after)
          exact unchanged same
      | _ => simp [Op.settles] at settles

/-- Between two pages there is nothing to cover. -/
theorem covered_resting {work : Collecting} {spent : Spent} {fetches : Nat}
    (resting : work.stage = .idle ∨ work.stage = .turned) : work.Covered spent fetches := by
  rcases resting with idle | turned
  · exact ⟨fun same => by simp [idle] at same, fun _ same => by simp [idle] at same⟩
  · exact ⟨fun same => by simp [turned] at same, fun _ same => by simp [turned] at same⟩

/-- **A worker with a lock is covered after its operation**, if it was before. -/
theorem covered_next {op : Op} {reply : Result (Answer op)} {work work' : Collecting}
    {run run' : Run} {target : Target} (executed : Executed deployed state who op reply state')
    (allowed : collecting.allowed deployed.rules work op) (bounded : work.bounded)
    (within : run.spent.Within target (state.fetches work.runId))
    (covered : work.Covered run.spent (state.fetches work.runId))
    (found : state.database.run work.runId = some run)
    (found' : state'.database.run work.runId = some run')
    (next : (Phase.collecting work).next op reply = .collecting work') :
    work'.Covered run'.spent (state'.fetches work.runId) := by
  have unmade : (∀ request, op ≠ .fetch work.runId request) →
      state'.fetches work.runId = state.fetches work.runId := by
    intro other
    obtain ⟨⟨request, same⟩, -⟩ | ⟨-, same⟩ := executed.fetches work.runId
    · exact absurd same (other request)
    · exact same
  have kept : op.settles = false → run'.spent = run.spent := by
    intro passive
    obtain ⟨⟨run'', after, same⟩, -⟩ := executed.keeps passive work.runId run found
    obtain rfl := Option.some.inj (found'.symm.trans after)
    exact congrArg RunLedger.spent same
  cases reply with
  | error raised =>
      rw [executed.database_of_error, found] at found'
      obtain rfl := Option.some.inj found'
      cases op with
      | stopRenewal => simp [Phase.next, Phase.raised] at next
      | fetch runId request =>
          obtain rfl := Phase.collecting.inj next
          exact covered_resting (.inl rfl)
      | _ =>
          obtain rfl := Phase.collecting.inj next
          rw [unmade (by simp)]
          exact covered
  | ok value =>
      cases op with
      | finishError | finishLockLost | stopRenewal =>
          simp [Phase.next, Phase.answered, collecting.answered] at next
      | fetch runId request =>
          obtain rfl := Phase.collecting.inj next
          obtain ⟨less, room, -⟩ := covered.reserved (allowed.2.2 bounded).1
          rw [kept rfl]
          exact ⟨fun same => by simp at same, fun _ _ => ⟨less, room⟩⟩
      | reserveRequest loaded runId =>
          obtain ⟨-, -, -, rfl, rfl⟩ := allowed
          obtain ⟨db, ok, rfl⟩ := commit_eq_ok (executed.perform_eq (by simp) (by simp))
          obtain ⟨held, before, -, -, ⟨rfl, -⟩ | ⟨⟨deadline, rfl⟩, after, left, room⟩⟩ :=
            reserveRequest_eq_ok ok
          · simp [Phase.next, Phase.answered, collecting.answered] at next
          · obtain rfl := Phase.collecting.inj next
            obtain rfl := Option.some.inj (found.symm.trans before)
            obtain rfl := Option.some.inj (found'.symm.trans after)
            rw [unmade (by simp)]
            exact ⟨fun _ => ⟨Nat.lt_succ_of_le within.pages_le, room,
              Nat.lt_succ_of_le within.fetches_le⟩, fun _ same => by simp at same⟩
      | persistResult loaded dispatch runId mode page =>
          unfold Phase.next Phase.answered collecting.answered at next
          simp only at next
          split at next
          · simp at next
          · obtain rfl := Phase.collecting.inj next
            exact covered_resting (.inr rfl)
      | readCursor =>
          obtain rfl := Phase.collecting.inj next
          exact covered_resting (.inl rfl)
      | resolvedRunConfig | now | set | load | get =>
          obtain rfl := Phase.collecting.inj next
          rw [kept rfl, unmade (by simp)]
          exact ⟨covered.reserved, covered.fetched⟩
      | _ => exact False.elim allowed

/-- The rows of a step, from what has been found after it: a run was there, and has spent what it
had unless the step is a transaction on it, or it is new. -/
theorem Executed.spent {op : Op} {reply : Result (Answer op)}
    (executed : Executed deployed state who op reply state') {phase : Phase}
    (allowed : phase.allowed deployed.rules op) {runId : Uuid} {run' : Run}
    (found : state'.database.run runId = some run') :
    (∃ run, state.database.run runId = some run ∧ run'.targetId = run.targetId ∧
        (run'.spent = run.spent ∨ op.settles = true ∧ ∃ work, phase = .collecting work ∧
          work.runId = runId)) ∨
      ∃ loaded dispatch mode target, op = .startRun loaded dispatch mode ∧
        state.database.target loaded.target.id = some target ∧
        run' = newRun target dispatch mode state.now runId ∧ runId = state.database.fresh := by
  obtain ⟨run, before, identical⟩ | ⟨loaded, dispatch, mode, target, rfl, held, -, new, fresh⟩ :=
    executed.run_before found
  · refine .inl ⟨run, before, congrArg RunIdentity.targetId identical, ?_⟩
    by_cases settles : op.settles = true
    · obtain ⟨work, rfl, mine⟩ := collecting_of_settles allowed settles
      by_cases same : runId = work.runId
      · exact .inr ⟨settles, work, rfl, same.symm⟩
      · have kept := (executed.touches mine settles).run_ne _ same
        rw [kept, before] at found
        rw [Option.some.inj found]
        exact .inl rfl
    · obtain ⟨⟨run'', after, same⟩, -⟩ := executed.keeps (by simpa using settles) runId run before
      obtain rfl := Option.some.inj (found.symm.trans after)
      exact .inl (congrArg RunLedger.spent same)
  · exact .inr ⟨loaded, dispatch, mode, target, rfl, held, new, fresh⟩

/-! ### One step -/

/-- Whether a target fetches page after page does not change. -/
theorem Target.Paged.of_configured {registry : OperationRegistry} {db db' : Database}
    {target target' : Target} (paged : target'.Paged registry db')
    (same : target'.configured = target.configured)
    (sources : ∀ id, (db'.source id).map Source.configured = (db.source id).map Source.configured) :
    target.Paged registry db := by
  obtain ⟨source', contract, held, resolved, capable⟩ := paged
  have sourceId : target'.configured.sourceId = target.configured.sourceId :=
    congrArg Target.sourceId same
  have key : target'.configured.operationKey = target.configured.operationKey :=
    congrArg Target.operationKey same
  have config : target'.configured.operationConfigVersion =
      target.configured.operationConfigVersion := congrArg Target.operationConfigVersion same
  have version : target'.configured.providerContractVersion =
      target.configured.providerContractVersion := congrArg Target.providerContractVersion same
  have kept := sources target'.sourceId
  rw [held] at kept
  obtain ⟨source, before, alike⟩ := Option.map_eq_some_iff.1 kept.symm
  have method : source.configured.accessMethod = source'.configured.accessMethod :=
    congrArg Source.accessMethod alike
  refine ⟨source, contract, ?_, ?_, capable⟩
  · rw [show target.sourceId = target'.sourceId from sourceId.symm]
    exact before
  · rw [show source.accessMethod = source'.accessMethod from method,
      show target.operationKey = target'.operationKey from key.symm,
      show target.operationConfigVersion = target'.operationConfigVersion from config.symm,
      show target.providerContractVersion = target'.providerContractVersion from version.symm]
    exact resolved

/-- The target of a worker that fetches page after page does so. -/
theorem LoadedFor.isPaged {execution : Execution} {loaded : LoadedTarget} {db : Database}
    {target : Target} (known : LoadedFor deployed db execution loaded)
    (current : (db.target loaded.target.id).map Target.configured = some loaded.target.configured)
    (found : db.target loaded.target.id = some target)
    (bounded : loaded.contract.paginationCapability = .boundedWindowV1) :
    target.Paged deployed.registry db := by
  have same : loaded.target.configured = target.configured := by
    rw [found] at current
    exact (Option.some.inj current).symm
  obtain ⟨source, held, alike⟩ := Option.map_eq_some_iff.1 known.source
  have method : source.configured.accessMethod = loaded.source.configured.accessMethod :=
    congrArg Source.accessMethod alike
  refine Target.Paged.of_configured ⟨source, loaded.contract, held, ?_, bounded⟩ same fun _ => rfl
  rw [show source.accessMethod = loaded.source.accessMethod from method]
  exact known.resolved

/-- The budgets of two states of a target are the same, if it has not been revised. -/
theorem Spent.Within.of_configured {spent : Spent} {target target' : Target} {fetches : Nat}
    (within : spent.Within target fetches) (same : target'.configured = target.configured) :
    spent.Within target' fetches := by
  have requests : target'.configured.maxRequestsPerRun = target.configured.maxRequestsPerRun :=
    congrArg Target.maxRequestsPerRun same
  have pages : target'.configured.maxPagesPerRun = target.configured.maxPagesPerRun :=
    congrArg Target.maxPagesPerRun same
  exact
    { within with
      requests_le := by
        rw [show target'.maxRequestsPerRun = target.maxRequestsPerRun from requests]
        exact within.requests_le
      pages_bounded := by
        rw [show target'.maxPagesPerRun = target.maxPagesPerRun from pages]
        exact within.pages_bounded }

/-- What holds of a worker in a serial history. -/
structure Serialised (deployed : Deployment) (state : Control) (phases : ℕ → Option Phase) :
    Prop where
  sound : Sound deployed state phases
  current : Current state phases
  tended : Tended state phases
  budgeted : Budgeted deployed.registry state phases

/-- The run of a worker, and its target. -/
theorem Serialised.tenure {work : Collecting} (serialised : Serialised deployed state phases)
    (told : phases who = some (.collecting work)) :
    ∃ run target, state.database.run work.runId = some run ∧ run.targetId = some target.id ∧
      state.database.target target.id = some target ∧ target.id = work.loaded.target.id := by
  obtain ⟨-, loaded, run, found, targeted, -⟩ := serialised.sound.known _ _ told
  obtain ⟨target, held, succeeds⟩ := loaded.stored
  have named := Database.target_id _ held
  refine ⟨run, target, found, ?_, ?_, named⟩
  · rw [targeted, named, loaded.id_eq]
  · rw [named]
    exact held

/-- Only a worker that collects a run makes requests. -/
theorem collecting_of_fetch {rules : Rules} {phase : Phase} {runId : Uuid}
    {request : ProviderFetchRequest} (allowed : phase.allowed rules (.fetch runId request)) :
    ∃ work, phase = .collecting work ∧ collecting.allowed rules work (.fetch runId request) := by
  cases phase with
  | collecting work => exact ⟨work, rfl, allowed⟩
  | releasing => simp [Phase.allowed] at allowed
  | _ => exact False.elim allowed

/-- Only a worker with a lock and without a run starts one. -/
theorem locked_of_startRun {rules : Rules} {phase : Phase} {target : LoadedTarget}
    {dispatch : TargetDispatch} {mode : RunMode}
    (allowed : phase.allowed rules (.startRun target dispatch mode)) :
    ∃ execution loaded, phase = .locked execution loaded ∧
      locked.allowed execution loaded (.startRun target dispatch mode) := by
  cases phase with
  | locked execution loaded => exact ⟨execution, loaded, rfl, allowed⟩
  | releasing => simp [Phase.allowed] at allowed
  | _ => exact False.elim allowed

/-- What a worker with a lock has, if the target of its run fetches page after page. -/
theorem Serialised.own {work : Collecting} (serialised : Serialised deployed state phases)
    (told : phases who = some (.collecting work)) (holds : work.execution.Holds state) {run : Run}
    {target : Target} (found : state.database.run work.runId = some run)
    (named : run.targetId = some target.id) (held : state.database.target target.id = some target)
    (paged : target.Paged deployed.registry state.database) :
    work.bounded ∧ target.maxRequestsPerRun = work.loaded.target.maxRequestsPerRun ∧
      target.maxPagesPerRun = work.loaded.target.maxPagesPerRun ∧
      work.Covered run.spent (state.fetches work.runId) := by
  obtain ⟨run₂, target₂, found₂, named₂, held₂, same⟩ := serialised.tenure told
  obtain rfl := Option.some.inj (found.symm.trans found₂)
  have id_eq : target.id = target₂.id := Option.some.inj (named.symm.trans named₂)
  rw [id_eq, held₂] at held
  obtain rfl := Option.some.inj held
  rw [same] at held₂
  have known := (serialised.sound.known _ _ told).2.1
  have current := serialised.current _ _ work.loaded told rfl
  have bounded : work.bounded := known.paged current held₂ paged
  obtain ⟨requests, pages, -, -⟩ := known.budgets current held₂
  exact ⟨bounded, requests, pages, serialised.budgeted.covered _ _ _ told holds bounded found⟩

/-- **One operation keeps every run within its budgets.** -/
theorem within_work {phase : Phase} {op : Op} {reply : Result (Answer op)}
    (serialised : Serialised deployed state phases) (bound : phases who = some phase)
    (allowed : phase.allowed deployed.rules op)
    (executed : Executed deployed state who op reply state')
    (serial : ∀ work, phases who = some (.collecting work) → work.execution.Holds state)
    {runId : Uuid} {run' : Run} {target' : Target}
    (found' : state'.database.run runId = some run') (named : run'.targetId = some target'.id)
    (held' : state'.database.target target'.id = some target')
    (paged : target'.Paged deployed.registry state'.database) :
    run'.spent.Within target' (state'.fetches runId) := by
  have retained := executed.retains target'.id
  rw [held'] at retained
  obtain ⟨target, held, same⟩ := Option.map_eq_some_iff.1 retained.symm
  have pagedBefore := paged.of_configured same.symm executed.evolves.grows.sources_eq
  have id_eq : target.id = target'.id := Database.target_id _ held
  rw [← id_eq] at held
  refine Spent.Within.of_configured ?_ same.symm
  rcases executed.spent allowed found' with ⟨run, found, targeted, spent⟩ |
    ⟨loaded, dispatch, mode, started, rfl, stored, rfl, rfl⟩
  · have namedBefore : run.targetId = some target.id := by rw [← targeted, named, id_eq]
    have within := serialised.budgeted.within runId run target found namedBefore held pagedBefore
    obtain ⟨⟨request, rfl⟩, more⟩ | ⟨-, unmade⟩ := executed.fetches runId
    · -- the request of this worker has been counted
      obtain ⟨work, rfl, mine⟩ := collecting_of_fetch allowed
      obtain ⟨rfl, -, staged⟩ := mine
      obtain ⟨bounded, -, -, covered⟩ :=
        serialised.own bound (serial work bound) found namedBefore held pagedBefore
      have kept : run'.spent = run.spent := by
        rcases spent with kept | ⟨settles, -⟩
        · exact kept
        · simp [Op.settles] at settles
      rw [kept, more]
      exact { within with fetches_le := (covered.reserved (staged bounded).1).2.2 }
    · rw [unmade]
      rcases spent with kept | ⟨settles, work, rfl, rfl⟩
      · rw [kept]
        exact within
      · obtain ⟨bounded, requests, pages, covered⟩ :=
          serialised.own bound (serial work bound) found namedBefore held pagedBefore
        exact within.settled executed allowed settles bounded covered requests pages found found'
  · have free := Database.run_fresh serialised.sound.issued
    have none : state.fetches state.database.fresh = 0 := by
      by_contra some
      obtain ⟨run, found⟩ := serialised.budgeted.fetched _ (Nat.pos_of_ne_zero some)
      rw [free] at found
      simp at found
    obtain ⟨⟨request, same⟩, -⟩ | ⟨-, unmade⟩ := executed.fetches state.database.fresh
    · simp at same
    · rw [unmade, none]
      obtain ⟨execution, before, rfl, given⟩ := locked_of_startRun allowed
      have known := (serialised.sound.known _ _ bound).2 loaded given.1
      have current := serialised.current _ _ loaded bound given.1
      have id_eq' : started.id = target.id := (Option.some.inj named).trans id_eq.symm
      have startedId := Database.target_id _ stored
      rw [← id_eq', startedId, stored] at held
      obtain rfl := Option.some.inj held
      obtain ⟨requests, pages, some, room⟩ := known.budgets current stored
      exact
        { pages_le := Nat.le_refl _
          requests_le := by
            show ((0 : Nat) : Int) ≤ _
            omega
          pages_bounded := by
            show ((0 : Nat) : Int) ≤ _
            omega
          retries_le := Nat.zero_le _
          counted := rfl
          fetches_le := Nat.le_refl _ }

/-- **One operation keeps every worker with a lock covered.** -/
theorem covered_work {phase : Phase} {op : Op} {reply : Result (Answer op)}
    (serialised : Serialised deployed state phases) (bound : phases who = some phase)
    (allowed : phase.allowed deployed.rules op)
    (executed : Executed deployed state who op reply state')
    (serial : ∀ work, phases who = some (.collecting work) → work.execution.Holds state)
    {other : Nat} {work : Collecting} {run' : Run}
    (told : Function.update phases who (some (phase.next op reply)) other =
      some (.collecting work))
    (holds : other ≠ who → work.execution.Holds state) (bounded : work.bounded)
    (found' : state'.database.run work.runId = some run') :
    work.Covered run'.spent (state'.fetches work.runId) := by
  by_cases same : other = who
  · subst same
    rw [Function.update_self] at told
    have next := Option.some.inj told
    rcases collecting_of_next allowed next with ⟨before, rfl, tenure⟩ |
      ⟨execution, loaded, target, dispatch, mode, rfl, rfl⟩
    · obtain ⟨run, target, found, named, held, id_eq⟩ := serialised.tenure bound
      have known := (serialised.sound.known _ _ bound).2.1
      have current := serialised.current _ _ before.loaded bound rfl
      have boundedBefore : before.bounded := by
        rw [← tenure]
        exact bounded
      have paged := known.isPaged current (id_eq ▸ held) boundedBefore
      have within := serialised.budgeted.within _ run target found named held paged
      obtain ⟨-, -, -, covered⟩ := serialised.own bound (serial before bound) found named held paged
      rw [tenure] at found' ⊢
      exact covered_next executed allowed boundedBefore within covered found found' next
    · cases reply with
      | error raised => simp [Phase.next, Phase.raised] at next
      | ok value =>
          obtain rfl := Phase.collecting.inj next
          exact covered_resting (.inl rfl)
  · rw [Function.update_of_ne same] at told
    have holdsBefore := holds same
    -- the lock of its run is its own, so the operation is about another run
    have apart : ∀ mine : Collecting, phase = .collecting mine → mine.runId ≠ work.runId := by
      rintro mine rfl alike
      exact same (serialised.sound.holder_unique told bound alike.symm holdsBefore
        (serial mine bound))
    obtain ⟨run, target, found, -⟩ := serialised.tenure told
    have unmade : state'.fetches work.runId = state.fetches work.runId := by
      obtain ⟨⟨request, rfl⟩, -⟩ | ⟨-, unmade⟩ := executed.fetches work.runId
      · obtain ⟨mine, rfl, asks, -⟩ := collecting_of_fetch allowed
        exact absurd asks.symm (apart mine rfl)
      · exact unmade
    rcases executed.spent allowed found' with ⟨run₂, found₂, -, kept | ⟨-, mine, rfl, alike⟩⟩ |
      ⟨loaded, dispatch, mode, started, -, -, -, fresh⟩
    · obtain rfl := Option.some.inj (found.symm.trans found₂)
      rw [kept, unmade]
      exact serialised.budgeted.covered _ _ _ told holdsBefore bounded found
    · exact absurd alike (apart mine rfl)
    · rw [fresh, Database.run_fresh serialised.sound.issued] at found
      simp at found

/-- What happens by itself spends nothing. -/
theorem happen_spent {happening : Happening} (serial : Serial state phases (.env happening))
    (happened : happen deployed state happening = some state') :
    state'.journal = state.journal ∧ ∀ runId run', state'.database.run runId = some run' →
      ∃ run, state.database.run runId = some run ∧ run'.targetId = run.targetId ∧
        run'.spent = run.spent := by
  have of_runs : state'.database.runs = state.database.runs → ∀ runId run',
      state'.database.run runId = some run' → ∃ run, state.database.run runId = some run ∧
        run'.targetId = run.targetId ∧ run'.spent = run.spent := by
    intro runs runId run' found
    refine ⟨run', ?_, rfl, rfl⟩
    rw [← found]
    simp only [Database.run, runs]
  cases happening with
  | tick | lose =>
      obtain rfl := Option.some.inj happened
      exact ⟨rfl, of_runs rfl⟩
  | renew who =>
      unfold happen at happened
      simp only at happened
      split at happened
      · split at happened
        · simp at happened
        · obtain rfl := Option.some.inj happened
          unfold renewOnce
          simp only
          split
          · exact ⟨rfl, fun _ run' found => ⟨run', found, rfl, rfl⟩⟩
          · exact ⟨rfl, fun _ run' found => ⟨run', found, rfl, rfl⟩⟩
      · simp at happened
  | recoverLegacy => exact False.elim serial
  | revise => exact False.elim serial
  | advanceLegacy account cursorType value =>
      obtain ⟨db, advanced, rfl⟩ := Option.map_eq_some_iff.1 happened
      refine ⟨rfl, of_runs ?_⟩
      unfold advanceLegacy at advanced
      split at advanced
      · simp at advanced
      · split at advanced
        · obtain rfl := Option.some.inj advanced
          rfl
        · split at advanced
          · obtain rfl := Option.some.inj advanced
            rfl
          · simp at advanced
  | recover staleBefore delay =>
      obtain rfl := Option.some.inj happened
      refine ⟨rfl, List.foldlRecOn (motive := fun (pass : Database × Nat) => ∀ runId run',
        pass.1.run runId = some run' → ∃ run, state.database.run runId = some run ∧
          run'.targetId = run.targetId ∧ run'.spent = run.spent) _ _
        (fun runId run found => ⟨run, found, rfl, rfl⟩) ?_⟩
      intro pass kept stale _
      unfold recoverTargetRun
      split
      · exact kept
      · split
        · exact kept
        · split
          · exact kept
          · intro runId run' found
            rw [Database.run_setTarget] at found
            by_cases same : runId = stale.id
            · subst same
              rw [Database.run_setRun_same _ (failedRun state.now "stale_run") fun _ => rfl] at found
              obtain ⟨before, held, rfl⟩ := Option.map_eq_some_iff.1 found
              exact kept _ before held
            · rw [Database.run_setRun_ne _ (failedRun state.now "stale_run") (fun _ => rfl) same]
                at found
              exact kept runId run' found

/-- **A step of a serial history keeps every run within its budgets.** -/
theorem budgeted_stepped (stepped : (discipline deployed).Stepped state phases move state' phases')
    (serial : Serial state phases move) (serialised : Serialised deployed state phases) :
    Budgeted deployed.registry state' phases' := by
  have budgeted := serialised.budgeted
  have evolves := stepped_evolves stepped
  have holds : ∀ {other : Nat} {work : Collecting}, phases other = some (.collecting work) →
      work.execution.Holds state' → work.execution.Holds state := fun told holds =>
    holds_before stepped serialised.sound told rfl holds
  have whole := stepped
  cases stepped with
  | work who op choice bound allowed done =>
      have executed := executed_of_exec done
      refine ⟨fun runId run target found named held paged =>
        within_work serialised bound allowed executed serial found named held paged,
        fun other work run told held bounded found => ?_, fun runId some => ?_⟩
      · refine covered_work serialised bound allowed executed serial told (fun different => ?_) bounded
          found
        rw [Function.update_of_ne different] at told
        exact holds told held
      · obtain ⟨⟨request, rfl⟩, -⟩ | ⟨-, unmade⟩ := executed.fetches runId
        · obtain ⟨work, rfl, rfl, -⟩ := collecting_of_fetch allowed
          obtain ⟨run, target, found, -⟩ := serialised.tenure bound
          obtain ⟨run', found', -⟩ := evolves.grows.identity_kept _ run found
          exact ⟨run', found'⟩
        · rw [unmade] at some
          obtain ⟨run, found⟩ := budgeted.fetched runId some
          obtain ⟨run', found', -⟩ := evolves.grows.identity_kept _ run found
          exact ⟨run', found'⟩
  | crash who bound =>
      refine ⟨budgeted.within, fun other work run told held bounded found => ?_, budgeted.fetched⟩
      by_cases same : other = who
      · subst same
        rw [Function.update_self] at told
        simp at told
      · rw [Function.update_of_ne same] at told
        exact budgeted.covered other work run told held bounded found
  | start who job free accepted =>
      obtain rfl := Option.some.inj accepted
      have kept : (acceptJob state job).database = state.database ∧
          (acceptJob state job).journal = state.journal := by
        cases job with
        | execute => exact ⟨rfl, rfl⟩
        | schedule => exact ⟨rfl, rfl⟩
      have fetches : ∀ runId, (acceptJob state job).fetches runId = state.fetches runId := fun runId =>
        by simp only [Control.fetches, kept.2]
      refine ⟨fun runId run target found named held paged => ?_,
        fun other work run told held bounded found => ?_, fun runId some => ?_⟩
      · rw [kept.1] at found held paged
        rw [fetches]
        exact budgeted.within runId run target found named held paged
      · rw [kept.1] at found
        rw [fetches]
        by_cases same : other = who
        · subst same
          rw [Function.update_self] at told
          exact absurd (Option.some.inj told) (job_phase_ne job work)
        · rw [Function.update_of_ne same] at told
          exact budgeted.covered other work run told (holds told held) bounded found
      · rw [fetches] at some
        rw [kept.1]
        exact budgeted.fetched runId some
  | env happening happened =>
      obtain ⟨journal, spent⟩ := happen_spent serial happened
      have fetches : ∀ runId, state'.fetches runId = state.fetches runId := fun runId => by
        simp only [Control.fetches, journal]
      have retains := stepped_retains whole serial.unrevising
      refine ⟨fun runId run' target' found' named held' paged => ?_,
        fun other work run' told held bounded found' => ?_, fun runId some => ?_⟩
      · have retained := retains target'.id
        rw [held'] at retained
        obtain ⟨target, before, same⟩ := Option.map_eq_some_iff.1 retained.symm
        have id_eq : target.id = target'.id := Database.target_id _ before
        obtain ⟨run, found, targeted, kept⟩ := spent runId run' found'
        rw [kept, fetches]
        exact Spent.Within.of_configured (budgeted.within runId run target found
          (by rw [← targeted, named, id_eq]) (by rw [id_eq]; exact before)
          (paged.of_configured same.symm evolves.grows.sources_eq)) same.symm
      · obtain ⟨run, found, -, kept⟩ := spent _ run' found'
        rw [kept, fetches]
        exact budgeted.covered other work run told (holds told held) bounded found
      · rw [fetches] at some
        obtain ⟨run, found⟩ := budgeted.fetched runId some
        obtain ⟨run', found', -⟩ := evolves.grows.identity_kept _ run found
        exact ⟨run', found'⟩

/-! ### Histories -/

theorem serialised_preserved : (discipline deployed).Preserves Serial (Serialised deployed) :=
  fun _ _ _ _ _ stepped serial kept =>
    ⟨sound_preserved stepped kept.sound, current_preserved stepped serial.unrevising kept.current,
      (stepped_orderly stepped serial.orderly kept.sound kept.tended).2,
      budgeted_stepped stepped serial kept⟩

/-- Before the first run, nothing has been spent. -/
theorem serialised_initial (runs : state.database.runs = []) (journal : state.journal = []) :
    Serialised deployed state fun _ => none := by
  have unfound : ∀ runId, state.database.run runId = none := by
    intro runId
    simp [Database.run, runs]
  have issued : state.database.Issued := ⟨by simp [runs], by simp [runs]⟩
  refine ⟨⟨issued, fun _ _ told => by simp at told⟩, fun _ _ _ told => by simp at told,
    fun _ _ told => by simp at told, fun runId run target found => ?_,
    fun _ _ _ told => by simp at told, fun runId some => ?_⟩
  · simp [unfound] at found
  · simp [Control.fetches, journal] at some

/-- In a step of a serial history no request is made for a run that has ended. -/
theorem stepped_fetches (stepped : (discipline deployed).Stepped state phases move state' phases')
    (serial : Serial state phases move) (serialised : Serialised deployed state phases)
    {runId : Uuid} {run : Run} (found : state.database.run runId = some run)
    (ended : run.status.terminal = true) : state'.fetches runId = state.fetches runId := by
  cases stepped with
  | work who op choice bound allowed done =>
      obtain ⟨⟨request, rfl⟩, -⟩ | ⟨-, unmade⟩ := (executed_of_exec done).fetches runId
      · obtain ⟨work, rfl, rfl, -⟩ := collecting_of_fetch allowed
        obtain ⟨held, found', running⟩ := serialised.tended _ work bound (serial work bound)
        obtain rfl := Option.some.inj (found.symm.trans found')
        simp [running, RunStatus.terminal] at ended
      · exact unmade
  | crash who bound => rfl
  | start who job free accepted =>
      obtain rfl := Option.some.inj accepted
      cases job with
      | execute => rfl
      | schedule => rfl
  | env happening happened => simp only [Control.fetches, (happen_spent serial happened).1]

/-- **A run that has ended makes no further request**, and stays as it is. -/
theorem ended_fetches {world later : World signature (Result Ended) Control Job}
    (serialised : Serialised deployed world.state ((discipline deployed).phases world))
    (adherent : (discipline deployed).Adherent world)
    (continued : (discipline deployed).Reaches Serial world later) {runId : Uuid} {run : Run}
    (found : world.state.database.run runId = some run) (ended : run.status.terminal = true) :
    later.state.fetches runId = world.state.fetches runId ∧
      ∃ run', later.state.database.run runId = some run' ∧ run'.status = run.status := by
  induction continued with
  | refl => exact ⟨rfl, run, found, rfl⟩
  | step before asked serial stepped ih =>
      obtain ⟨unmade, run', found', same⟩ := ih
      have here := before.adherent _ adherent
      have kept := before.invariant _ serialised_preserved adherent serialised
      have step := ((discipline deployed).stepped_of_step here asked stepped).1
      have ended' : run'.status.terminal = true := by rw [same, ended]
      obtain ⟨⟨run'', found'', alike⟩, -⟩ :=
        (stepped_orderly step serial.orderly kept.sound kept.tended).1 runId run' found' ended'
      exact ⟨(stepped_fetches step serial kept found' ended').trans unmade, run'', found'',
        (congrArg RunLedger.status alike).trans same⟩

/-- A run whose budget is used up is ended by the next reservation, which writes no cursor. -/
theorem reserveRequest_used {db : Database} {now : Int} {loaded : LoadedTarget} {runId : Uuid}
    {run : Run} {target : Target} (found : db.run runId = some run)
    (held : db.target loaded.target.id = some target)
    (used : loaded.target.maxRequestsPerRun ≤ run.requestCount ∨
      loaded.target.maxPagesPerRun ≤ run.pageCount) :
    ∃ db', reserveRequest db now loaded runId = .ok (.exhausted, db') ∧ db'.cursors = db.cursors ∧
      db'.run runId = some (run.exhaust now) := by
  unfold reserveRequest
  rw [found]
  simp only [if_pos used, held]
  refine ⟨_, rfl, rfl, ?_⟩
  rw [Database.run_setTarget, Database.run_setRun_same _ (Run.exhaust now) fun _ => rfl, found]
  rfl

/-- A last page that leaves more to fetch ends its run, and leaves its continuation. -/
theorem persistResult_used {rules : Rules} {db db' : Database} {now : Int} {execution : Execution}
    {loaded : LoadedTarget} {runId : Uuid} {mode : RunMode} {page : PageWrite}
    (known : LoadedFor deployed db execution loaded) (paged : page.pageMode = true)
    (final : page.final = true) (more : page.result.hasMore = true)
    (continued : noContinuation page.result.continuation = false)
    (ok : persistResult rules db now loaded execution.dispatch runId mode page = .ok db') :
    (∃ row, db'.cursor loaded.target.id loaded.target.operationKey loaded.target.cursorVersion mode =
        some row ∧ row.continuation = page.result.continuation ∧
          row.continuationRunId = some runId) ∧
      ∃ run, db'.run runId = some run ∧ run.status = .partialCoverage := by
  constructor
  · obtain ⟨target, db₁, held, unrevised, -, written, -⟩ := persistResult_cursors ok
    obtain ⟨row, found, kept⟩ := persistCursor_continued paged more continued written
    rw [known.row_eq held unrevised] at found
    exact ⟨row, found, kept⟩
  · obtain ⟨-, run, counts, -, -, after⟩ := persistResult_run ok
    refine ⟨_, after, ?_⟩
    simp [settledRun, final, PageWrite.incomplete, more]

/-- **A transaction that ends a run ends it for good**, and no further request is made for it. -/
theorem ended_for_good {world after later : World signature (Result Ended) Control Job}
    (serialised : Serialised deployed world.state ((discipline deployed).phases world))
    (adherent : (discipline deployed).Adherent world) {op : Op} {reply : Result (Answer op)}
    (asked : world.move (.work who .proceed : Event Choice Job Happening) =
      some (.work who op .proceed))
    (serial : Serial world.state ((discipline deployed).phases world) (.work who op .proceed))
    {db : Database} (performed : exec deployed world.state who op .proceed =
      some (reply, { world.state with database := db })) {runId : Uuid} {run : Run}
    (found : db.run runId = some run) (ended : run.status.terminal = true)
    (stepped : world.step (controlPlane deployed) (.work who .proceed) = some after)
    (continued : (discipline deployed).Reaches Serial after later) :
    after.state.database = db ∧ later.state.fetches runId = world.state.fetches runId ∧
      ∃ run', later.state.database.run runId = some run' ∧ run'.status = run.status := by
  obtain ⟨step, adherentAfter⟩ := (discipline deployed).stepped_of_step adherent asked stepped
  have serialisedAfter := serialised_preserved _ _ _ _ _ step serial serialised
  have state_eq : after.state = { world.state with database := db } := by
    generalize (discipline deployed).phases after = phases' at step
    cases step with
    | work who op choice bound allowed done =>
        exact (Prod.mk.inj (Option.some.inj (done.symm.trans performed))).2
  have found' : after.state.database.run runId = some run := by
    rw [state_eq]
    exact found
  obtain ⟨unmade, last⟩ := ended_fetches serialisedAfter adherentAfter continued found' ended
  rw [state_eq] at unmade
  exact ⟨by rw [state_eq], unmade, last⟩

/-- **The budgets of a run are kept**, in every serial history: its counts are within those of its
target; a request that is about to be made has been counted, apart from all that have been made; an
execution stores no more pages than the budgets allow, and the last of these as the final one; the
final page, if it leaves more to fetch, makes the run partial, for good and without a further request,
and leaves its continuation; and so does the reservation that finds the budget used up, which leaves
the continuations as they are. -/
theorem budgets_kept {world : World signature (Result Ended) Control Job}
    (runs : state.database.runs = []) (journal : state.journal = [])
    (reached : (discipline deployed).Reaches Serial (.initial state) world) :
    (∀ runId run target, world.state.database.run runId = some run →
      run.targetId = some target.id → world.state.database.target target.id = some target →
      target.Paged deployed.registry world.state.database →
      run.spent.Within target (world.state.fetches runId) ∧
        ∀ who job request choice next log,
          world.tasks who = some ⟨job, .call (.fetch runId request) next, log⟩ →
          Serial world.state ((discipline deployed).phases world)
            (.work who (.fetch runId request) choice) →
          world.state.fetches runId < run.requestCount) ∧
    (∀ execution loaded runId cursor, loaded.contract.paginationCapability = .boundedWindowV1 →
      Spares (min loaded.target.maxPagesPerRun loaded.target.maxRequestsPerRun).toNat
        (collect deployed.rules execution loaded runId cursor)) ∧
    (∀ who job loaded dispatch runId mode page next log db,
      world.tasks who =
        some ⟨job, .call (.persistResult loaded dispatch runId mode page) next, log⟩ →
      Serial world.state ((discipline deployed).phases world)
        (.work who (.persistResult loaded dispatch runId mode page) .proceed) →
      page.pageMode = true → page.final = true → page.result.hasMore = true →
      persistResult deployed.rules world.state.database world.state.now loaded dispatch runId mode
        page = .ok db →
      ∀ after later, world.step (controlPlane deployed) (.work who .proceed) = some after →
        (discipline deployed).Reaches Serial after later →
        (∃ row, after.state.database.cursor loaded.target.id loaded.target.operationKey
          loaded.target.cursorVersion mode = some row ∧
          row.continuation = page.result.continuation ∧ noContinuation row.continuation = false ∧
          row.continuationRunId = some runId) ∧
          later.state.fetches runId = world.state.fetches runId ∧
          ∃ run', later.state.database.run runId = some run' ∧ run'.status = .partialCoverage) ∧
    ∀ who job loaded runId run next log,
      world.tasks who = some ⟨job, .call (.reserveRequest loaded runId) next, log⟩ →
      Serial world.state ((discipline deployed).phases world)
        (.work who (.reserveRequest loaded runId) .proceed) →
      world.state.database.run runId = some run →
      (loaded.target.maxRequestsPerRun ≤ run.requestCount ∨
        loaded.target.maxPagesPerRun ≤ run.pageCount) →
      ∀ after later, world.step (controlPlane deployed) (.work who .proceed) = some after →
        (discipline deployed).Reaches Serial after later →
        after.state.database.cursors = world.state.database.cursors ∧
          later.state.fetches runId = world.state.fetches runId ∧
          ∃ run', later.state.database.run runId = some run' ∧ run'.status = .partialCoverage := by
  have adherent := reached.adherent _ (Discipline.adherent_initial _ _)
  have serialised : Serialised deployed world.state ((discipline deployed).phases world) :=
    reached.invariant _ serialised_preserved (Discipline.adherent_initial _ _)
      (serialised_initial runs journal)
  have told : ∀ {who task}, world.tasks who = some task →
      (discipline deployed).phases world who = some ((discipline deployed).phase task) := by
    intro who task asks
    simp [Discipline.phases, asks]
  refine ⟨fun runId run target found named held paged => ⟨?_, ?_⟩,
    fun execution loaded runId cursor bounded => collect_spares bounded, ?_, ?_⟩
  · exact serialised.budgeted.within runId run target found named held paged
  · intro who job request choice next log asks serial
    have told := told asks
    obtain ⟨work, collects, rfl, -, staged⟩ := collecting_of_fetch (adherent who _ asks).1
    rw [collects] at told
    obtain ⟨bounded, -, -, covered⟩ := serialised.own told (serial work told) found named held paged
    exact (covered.reserved (staged bounded).1).2.2
  · intro who job loaded dispatch runId mode page next log db asks serial paged final more ok after
      later stepped continued
    have told := told asks
    obtain ⟨work, collects, mine⟩ := collecting_of_settles (adherent who _ asks).1 rfl
    rw [collects] at told
    obtain ⟨rfl, rfl, rfl, rfl, storable⟩ := mine
    have bounded := storable.paged.1 paged
    obtain ⟨⟨row, found, kept, owned⟩, run, ended, partially⟩ :=
      persistResult_used (serialised.sound.known _ _ told).2.1 paged final more
        (storable.continued bounded more) ok
    have performed : exec deployed world.state who
        (.persistResult work.loaded work.execution.dispatch work.runId work.execution.mode page)
        .proceed = some (.ok (), { world.state with database := db }) := by
      simp only [exec, perform, Control.commitUnit, ok, Except.map, Control.commit]
    obtain ⟨rfl, unmade, last, found', same⟩ := ended_for_good serialised adherent
      (by simp [World.move, asks]) serial performed ended (by rw [partially]; rfl) stepped continued
    exact ⟨⟨row, found, kept, kept ▸ storable.continued bounded more, owned⟩, unmade, last, found',
      same.trans partially⟩
  · intro who job loaded runId run next log asks serial found used after later stepped continued
    have told := told asks
    obtain ⟨work, collects, mine⟩ := collecting_of_settles (adherent who _ asks).1 rfl
    rw [collects] at told
    obtain ⟨-, -, -, rfl, rfl⟩ := mine
    obtain ⟨-, target, -, -, held, id_eq⟩ := serialised.tenure told
    rw [id_eq] at held
    obtain ⟨db, reserved, cursors, ended⟩ :=
      @reserveRequest_used world.state.database world.state.now work.loaded work.runId run target
        found held used
    have performed : exec deployed world.state who (.reserveRequest work.loaded work.runId) .proceed =
        some (.ok .exhausted, { world.state with database := db }) := by
      simp only [exec, perform, reserved, Control.commit]
    obtain ⟨rfl, unmade, last, found', same⟩ := ended_for_good serialised adherent
      (by simp [World.move, asks]) serial performed ended rfl stepped continued
    exact ⟨cursors, unmade, last, found', same⟩

/-- A serial step, as far as it can be computed. -/
def serialStep (deployed : Deployment) (world : World signature (Result Ended) Control Job) :
    Event Choice Job Happening → Bool
  | .work who _ =>
      match (discipline deployed).phases world who with
      | some (.collecting work) => decide (work.execution.Holds world.state)
      | _ => true
  | .env (.recoverLegacy _) | .env (.revise ..) => false
  | _ => true

theorem serialStep_serial (world : World signature (Result Ended) Control Job)
    (event : Event Choice Job Happening) (move : Move signature Choice Job Happening)
    (asked : world.move event = some move) (passed : serialStep deployed world event = true) :
    Serial world.state ((discipline deployed).phases world) move := by
  cases event with
  | work who choice =>
      unfold World.move at asked
      simp only at asked
      split at asked
      · obtain rfl := Option.some.inj asked
        intro work told
        simpa [serialStep, told] using passed
      · simp at asked
  | crash who =>
      obtain rfl := Option.some.inj asked
      exact trivial
  | start job =>
      obtain rfl := Option.some.inj asked
      exact trivial
  | env happening =>
      obtain rfl := Option.some.inj asked
      cases happening with
      | recoverLegacy | revise => simp [serialStep] at passed
      | _ => exact trivial

/-- The page that a worker is about to store. -/
def pageAsked (world : World signature (Result Ended) Control Job) (who : Nat) :
    Option (LoadedTarget × TargetDispatch × Uuid × RunMode × PageWrite) :=
  match world.tasks who with
  | some ⟨_, .call (.persistResult loaded dispatch runId mode page) _, _⟩ =>
      some (loaded, dispatch, runId, mode, page)
  | _ => none

theorem tasks_of_pageAsked {world : World signature (Result Ended) Control Job}
    {loaded : LoadedTarget} {dispatch : TargetDispatch} {runId : Uuid} {mode : RunMode}
    {page : PageWrite} (asked : pageAsked world who = some (loaded, dispatch, runId, mode, page)) :
    ∃ job next log, world.tasks who =
      some ⟨job, .call (.persistResult loaded dispatch runId mode page) next, log⟩ := by
  unfold pageAsked at asked
  split at asked
  · next job loaded dispatch runId mode page next log found =>
    obtain ⟨rfl, rfl, rfl, rfl, rfl⟩ := asked
    exact ⟨job, next, log, found⟩
  · simp at asked

/-- A worker stores the last page that its run may have, and it leaves more to fetch. -/
def storesLast (world : World signature (Result Ended) Control Job) (runId : Uuid) : Bool :=
  (pageAsked world 0).any fun (loaded, dispatch, stored, mode, page) =>
    page.pageMode && page.final && page.result.hasMore && stored == runId &&
      (persistResult quoteDeployment.rules world.state.database world.state.now loaded dispatch stored
        mode page).isOk

/-- Three pages of the news, each with its request, are all that a run may have: with the third one
it is partial, and the fourth one is left to the next run. -/
theorem budgets_kept_news : ∃ world after : World signature (Result Ended) Control Job,
    (world.state.database.run 0).map (fun run => (run.requestCount, run.pageCount)) =
      some (3, 2) ∧
    (∀ runId run target, world.state.database.run runId = some run →
      run.targetId = some target.id → world.state.database.target target.id = some target →
      target.Paged buildOperationRegistry world.state.database →
      run.spent.Within target (world.state.fetches runId)) ∧
    world.step (controlPlane quoteDeployment) (.work 0 .proceed) = some after ∧
    (∃ row ∈ after.state.database.cursors, noContinuation row.continuation = false ∧
      row.continuationRunId = some 0) ∧
    ∃ run, after.state.database.run 0 = some run ∧ run.status = .partialCoverage := by
  have ran : ((World.initial (newsControl [newsCursor 31 2 earlyQuote])).checked
      (controlPlane quoteDeployment) (serialStep quoteDeployment)
      (.start (.execute newsDispatch) :: proceed 0 14 ++
        .work 0 (.outcome (.ok (newsPage (some 2)))) :: proceed 0 6 ++
        .work 0 (.outcome (.ok (newsPage (some 3)))) :: proceed 0 6 ++
        .work 0 (.outcome (.ok (newsPage (some 4)))) :: proceed 0 1)).map (fun world =>
          ((world.state.database.run 0).map fun run => (run.requestCount, run.pageCount),
            storesLast world 0, serialStep quoteDeployment world (.work 0 .proceed),
            (world.step (controlPlane quoteDeployment) (.work 0 .proceed)).isSome)) =
      some (some (3, 2), true, true, true) := by
    decide +kernel
  obtain ⟨world, checked, facts⟩ := Option.map_eq_some_iff.1 ran
  obtain ⟨counts, stores, serial, steps⟩ :
      (world.state.database.run 0).map (fun run => (run.requestCount, run.pageCount)) =
          some (3, 2) ∧ storesLast world 0 = true ∧
        serialStep quoteDeployment world (.work 0 .proceed) = true ∧
        (world.step (controlPlane quoteDeployment) (.work 0 .proceed)).isSome = true := by
    simpa using facts
  obtain ⟨after, stepped⟩ := Option.isSome_iff_exists.1 steps
  obtain ⟨within, -, pages, -⟩ := budgets_kept rfl rfl (.of_checked _ serialStep_serial (.refl _) checked)
  refine ⟨world, after, counts, fun runId run target found named held paged =>
    (within runId run target found named held paged).1, stepped, ?_⟩
  obtain ⟨⟨loaded, dispatch, runId, mode, page⟩, asked, last⟩ := (Option.any_eq_true _ _).1 stores
  simp only [Bool.and_eq_true, beq_iff_eq] at last
  obtain ⟨⟨⟨⟨paged, final⟩, more⟩, rfl⟩, stored⟩ := last
  obtain ⟨job, next, log, asks⟩ := tasks_of_pageAsked asked
  cases done : persistResult quoteDeployment.rules world.state.database world.state.now loaded
      dispatch 0 mode page with
  | error raised =>
      rw [done] at stored
      exact absurd stored Bool.false_ne_true
  | ok db =>
      obtain ⟨⟨row, found, -, continued, owned⟩, -, partially⟩ :=
        pages 0 job loaded dispatch 0 mode page next log db asks
          (serialStep_serial world (.work 0 .proceed) _ (by simp [World.move, asks]) serial)
          paged final more done after after stepped (.refl _)
      exact ⟨⟨row, List.mem_of_find?_eq_some found, continued, owned⟩, partially⟩

end NewsCollect.Collection
