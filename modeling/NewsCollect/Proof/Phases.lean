/-
**What a worker and a scheduler have been told.**

The phase of a task is what its replies so far amount to: the dispatches a scheduler has claimed and
not queued, the lock a worker has been given, the run it collects, and where it is with a page. The
protocol says which operations a phase allows, with which arguments.

* `Phase.allowed`, `Phase.next`: the protocol.
* `executeLocked_follows`, `dispatchControlPlane_follows`: the programs follow it.
* `discipline`: the control plane is disciplined by it.
-/

import NewsCollect.Collection.Control

namespace NewsCollect.Collection

open Interleaving Providers

/-! ### Phases -/

/-- Where a worker is with a page: before its request, with the request counted, with the result,
or with the page stored and the cursor not read again. -/
inductive Stage where
  | idle
  | reserved
  | fetched (result : ProviderFetchResult)
  | turned

/-- **The tenure of a run**: who collects it, for which target. -/
structure Tenure where
  execution : Execution
  loaded : LoadedTarget
  runId : Uuid

/-- The operation fetches page after page. -/
def Tenure.bounded (tenure : Tenure) : Prop :=
  tenure.loaded.contract.paginationCapability = .boundedWindowV1

/-- A worker that collects a run: the cursor it has read last, the value its next request starts
from, and the configuration it is bound to. -/
structure Collecting extends Tenure where
  snapshot : Option Cursor
  source : Option String
  config : Option Object
  stage : Stage

/-- **The phase of a task.** -/
inductive Phase where
  | scheduling (clock : Option Int) (page : List DueTarget) (claimed : List TargetDispatch)
  | releasing (dispatch : TargetDispatch) (rest : List TargetDispatch)
  | arriving (dispatch : TargetDispatch) (token : Option Nat)
  | locked (execution : Execution) (loaded : Option LoadedTarget)
  | collecting (work : Collecting)
  | leaving (execution : Execution)
  | gone

/-! ### The protocol -/

/-- The operations of a scheduler. -/
def scheduling.allowed (clock : Option Int) (page : List DueTarget)
    (claimed : List TargetDispatch) : Op → Prop
  | .now | .load .. | .revision .. => True
  | .duePage now _ _ => clock = some now
  | .mark due identity _ => due ∈ page ∧ identity.mode = "normal"
  | .enqueue dispatch => claimed.head? = some dispatch
  | _ => False

/-- The operations of a worker without the lock. -/
def arriving.allowed (dispatch : TargetDispatch) (token : Option Nat) : Op → Prop
  | .load targetId revision => targetId = dispatch.targetId ∧ revision = dispatch.configRevision
  | .exists (.rateLimit _) | .newToken => True
  | .setIfAbsent (.targetLock target mode) (.owner owner) _ =>
      target = dispatch.targetId ∧ RunMode.parse dispatch.runMode = some mode ∧ token = some owner
  | _ => False

/-- The operations of a worker without a run. -/
def locked.allowed (execution : Execution) (loaded : Option LoadedTarget) : Op → Prop
  | .spawnRenewal key owner _ => key = execution.lockKey ∧ owner = execution.owner
  | .load targetId revision =>
      targetId = execution.dispatch.targetId ∧ revision = execution.dispatch.configRevision
  | .credential _ => True
  | .markCredentialMissing target => loaded = some target
  | .startRun target dispatch mode =>
      loaded = some target ∧ dispatch = execution.dispatch ∧ mode = execution.mode
  | _ => False

/-- A page a worker may store: what it has fetched, or that without its items, decided against the
cursor it has read. -/
structure Storable (rules : Rules) (work : Collecting) (page : PageWrite) : Prop where
  snapshot_eq : page.snapshot = work.snapshot
  fetched : ∃ result, work.stage = .fetched result ∧
    (page.result = result ∨ ¬ work.bounded ∧ withoutItems result = .ok page.result)
  paged : page.pageMode = true ↔ work.bounded
  single : ¬ work.bounded → page.final = true
  continued : work.bounded → page.result.hasMore = true →
    noContinuation page.result.continuation = false
  decodes : work.bounded → ∀ config, work.config = some config →
    ∀ continuation, page.result.continuation = some continuation → continuation.isEmpty = false →
      ∃ state, decodes rules work.loaded work.execution.mode config continuation = .ok state

/-- The operations of a worker that collects a run. -/
def collecting.allowed (rules : Rules) (work : Collecting) : Op → Prop
  | .now | .stopRenewal | .set (.rateLimit _) (.word _) _ => True
  | .load targetId revision =>
      targetId = work.execution.dispatch.targetId ∧
        revision = work.execution.dispatch.configRevision
  | .get key => key = work.execution.lockKey
  | .resolvedRunConfig runId loaded cursor mode =>
      work.bounded ∧ work.config = none ∧ runId = work.runId ∧ loaded = work.loaded ∧
        cursor = work.snapshot ∧ mode = work.execution.mode
  | .reserveRequest loaded runId =>
      work.bounded ∧ work.config.isSome ∧ work.stage = .idle ∧ loaded = work.loaded ∧
        runId = work.runId
  | .fetch runId request =>
      runId = work.runId ∧ request.cursor = work.source ∧
        (work.bounded → work.stage = .reserved ∧ work.config = some request.config)
  | .persistResult loaded dispatch runId mode page =>
      loaded = work.loaded ∧ dispatch = work.execution.dispatch ∧ runId = work.runId ∧
        mode = work.execution.mode ∧ Storable rules work page
  | .readCursor targetId cursorType mode =>
      work.stage = .turned ∧ targetId = work.execution.dispatch.targetId ∧
        cursorType = work.loaded.target.operationKey ∧ mode = work.execution.mode
  | .finishError loaded dispatch runId _ _ _ | .finishLockLost loaded dispatch runId =>
      loaded = work.loaded ∧ dispatch = work.execution.dispatch ∧ runId = work.runId
  | _ => False

/-- The operations of a worker that has ended. -/
def leaving.allowed (execution : Execution) : Op → Prop
  | .stopRenewal => True
  | .compareDelete key value => key = execution.lockKey ∧ value = .owner execution.owner
  | _ => False

/-- The operations a phase allows. -/
def Phase.allowed (rules : Rules) : Phase → Op → Prop
  | .scheduling clock page claimed, op => scheduling.allowed clock page claimed op
  | .releasing dispatch _, op =>
      op = .compareDelete (.dispatch dispatch.dispatchId) (.identity dispatch.dispatchId)
  | .arriving dispatch token, op => arriving.allowed dispatch token op
  | .locked execution loaded, op => locked.allowed execution loaded op
  | .collecting work, op => collecting.allowed rules work op
  | .leaving execution, op => leaving.allowed execution op
  | .gone, _ => False

/-- The phase after an exception. -/
def Phase.raised : Phase → Op → PyError → Phase
  | .scheduling clock page claimed, op, raised =>
      match op with
      | .enqueue dispatch => .releasing dispatch claimed.tail
      | .load .. | .revision .. =>
          if raised.isAny [.targetRepositoryError] then .scheduling clock page claimed else .gone
      | _ => .gone
  | .locked execution loaded, op, raised =>
      match op with
      | .credential _ =>
          if raised.isAny [.credentialResolutionError] then .locked execution loaded
          else .leaving execution
      | _ => .leaving execution
  | .collecting work, op, _ =>
      match op with
      | .fetch .. => .collecting { work with stage := .idle }
      | .stopRenewal => .leaving work.execution
      | _ => .collecting work
  | .leaving execution, _, _ => .leaving execution
  | .releasing .., _, _ | .arriving .., _, _ | .gone, _, _ => .gone

/-- What a scheduler's answers change. -/
def scheduling.answered (clock : Option Int) (page : List DueTarget)
    (claimed : List TargetDispatch) : (op : Op) → Answer op → Phase
  | .now, now => .scheduling (some now) page claimed
  | .duePage .., page => .scheduling clock page claimed
  | .mark _ identity _, taken =>
      .scheduling clock page (if taken = true then claimed ++ [identity.dispatch] else claimed)
  | .enqueue _, _ => .scheduling clock page claimed.tail
  | _, _ => .scheduling clock page claimed

/-- What the answers of a worker without the lock change. -/
def arriving.answered (dispatch : TargetDispatch) (token : Option Nat) :
    (op : Op) → Answer op → Phase
  | .exists _, cooling => if cooling = true then .gone else .arriving dispatch token
  | .newToken, owner => .arriving dispatch (some owner)
  | .setIfAbsent (.targetLock _ mode) (.owner owner) _, taken =>
      if taken = true then .locked ⟨dispatch, mode, owner⟩ none else .gone
  | _, _ => .arriving dispatch token

/-- What the answers of a worker without a run change. -/
def locked.answered (execution : Execution) (loaded : Option LoadedTarget) :
    (op : Op) → Answer op → Phase
  | .load .., loaded => .locked execution (some loaded)
  | .markCredentialMissing _, _ => .leaving execution
  | .startRun target .., (runId, cursor) =>
      .collecting ⟨⟨execution, target, runId⟩, cursor, cursor.bind Cursor.cursorValue, none, .idle⟩
  | _, _ => .locked execution loaded

/-- What the answers of a worker that collects a run change. -/
def collecting.answered (work : Collecting) : (op : Op) → Answer op → Phase
  | .resolvedRunConfig .., (config, _) => .collecting { work with config := some config }
  | .reserveRequest .., .exhausted => .leaving work.execution
  | .reserveRequest .., .reserved _ => .collecting { work with stage := .reserved }
  | .fetch .., result => .collecting { work with stage := .fetched result }
  | .persistResult _ _ _ _ page, _ =>
      if page.final = true then .leaving work.execution
      else .collecting { work with source := page.result.nextCursor, stage := .turned }
  | .readCursor .., cursor => .collecting { work with snapshot := cursor, stage := .idle }
  | .finishError .., _ | .finishLockLost .., _ | .stopRenewal, _ => .leaving work.execution
  | _, _ => .collecting work

/-- The phase after an answer. -/
def Phase.answered : Phase → (op : Op) → Answer op → Phase
  | .scheduling clock page claimed, op, value => scheduling.answered clock page claimed op value
  | .arriving dispatch token, op, value => arriving.answered dispatch token op value
  | .locked execution loaded, op, value => locked.answered execution loaded op value
  | .collecting work, op, value => collecting.answered work op value
  | .leaving execution, _, _ => .leaving execution
  | .releasing .., _, _ | .gone, _, _ => .gone

/-- The phase after a reply. -/
def Phase.next (phase : Phase) (op : Op) : Result (Answer op) → Phase
  | .ok value => phase.answered op value
  | .error raised => phase.raised op raised

/-- A phase a task may end in. -/
def Phase.concluded : Phase → Prop
  | .scheduling _ _ claimed => claimed = []
  | .leaving _ | .gone => True
  | _ => False

/-- The phase a job starts in. A dispatch that does not name itself is not executed. -/
def Job.phase : Job → Phase
  | .execute dispatch =>
      match RunMode.parse dispatch.runMode with
      | some mode =>
          if dispatch.dispatchId ≠
              ⟨dispatch.targetId, dispatch.configRevision, dispatch.scheduledSlot, mode.value⟩ then
            .gone
          else .arriving dispatch none
      | none => .gone
  | .schedule => .scheduling none [] []

/-- The protocol. -/
def protocol (rules : Rules) : Protocol signature Phase where
  allowed phase op := phase.allowed rules op
  next phase op reply := phase.next op reply

/-! ### The scheduler follows the protocol -/

section Scheduler

variable {rules : Rules} {clock : Option Int} {page : List DueTarget}
  {claimed : List TargetDispatch}

/-- The phase of a scheduler after it has claimed, or not, one more dispatch. -/
def claimedOne (clock : Option Int) (page : List DueTarget) (claimed : List TargetDispatch)
    (phase : Phase) : Result (Option TargetDispatch) → Prop
  | .ok one => phase = .scheduling clock page (claimed ++ one.toList)
  | .error _ => phase = .gone

/-- The phase of a scheduler that has claimed these. -/
def claimedAll (clock : Option Int) (phase : Phase) : Result (List TargetDispatch) → Prop
  | .ok claimed => ∃ page, phase = .scheduling clock page claimed
  | .error _ => phase = .gone

theorem claimLoaded_follows {now : Int} {due : DueTarget} {loaded : LoadedTarget}
    (member : due ∈ page) :
    (protocol rules).FollowsE (.scheduling clock page claimed) (claimLoaded now due loaded)
      (claimedOne clock page claimed) := by
  unfold claimLoaded
  split
  · refine Protocol.followsE_pure ?_
    simp [claimedOne]
  · refine Protocol.followsE_request_bind ⟨member, rfl⟩ ?_ fun _ => rfl
    intro taken
    refine Protocol.followsE_pure ?_
    show Phase.scheduling clock page _ = .scheduling clock page _
    by_cases free : taken = true
    · simp [free]
    · simp [free]

theorem claimOne_follows {now : Int} {due : DueTarget} (member : due ∈ page) :
    (protocol rules).FollowsE (.scheduling clock page claimed) (claimOne now due)
      (claimedOne clock page claimed) := by
  refine Protocol.followsE_bind (Protocol.followsE_attempt ?_)
  have passed : ∀ raised : PyError,
      (protocol rules).FollowsE (if raised.isAny [.targetRepositoryError] then
          .scheduling clock page claimed else .gone)
        (if raised.isAny [.targetRepositoryError] then pure none else throw raised)
        (claimedOne clock page claimed) := by
    intro raised
    split
    · refine Protocol.followsE_pure ?_
      simp [claimedOne]
    · exact Protocol.followsE_throw rfl
  refine Protocol.followsE_request_bind trivial ?_ passed
  intro revision
  refine Protocol.followsE_request trivial ?_
  rintro (raised | loaded)
  · exact passed raised
  · exact claimLoaded_follows member

theorem claimPage_follows {now : Int} {limit : Nat} {rest : List DueTarget}
    (inside : ∀ due ∈ rest, due ∈ page) :
    (protocol rules).FollowsE (.scheduling clock page claimed) (claimPage now limit rest claimed)
      (claimedAll clock) := by
  induction rest generalizing claimed with
  | nil => exact Protocol.followsE_pure ⟨page, rfl⟩
  | cons due rest ih =>
      have later : ∀ other ∈ rest, other ∈ page := fun other member =>
        inside other (List.mem_cons_of_mem _ member)
      refine Protocol.followsE_bind (Protocol.followsE_mono
        (claimOne_follows (inside due (List.mem_cons_self ..))) ?_)
      rintro phase (raised | one) reached
      · exact reached
      · obtain rfl : phase = .scheduling clock page (claimed ++ one.toList) := reached
        cases one with
        | none =>
            simp only [Option.toList_none, List.append_nil]
            exact ih later
        | some dispatch =>
            show (protocol rules).FollowsE (.scheduling clock page (claimed ++ [dispatch]))
              (if limit ≤ (claimed ++ [dispatch]).length then pure (claimed ++ [dispatch])
                else claimPage now limit rest (claimed ++ [dispatch])) _
            split
            · exact Protocol.followsE_pure ⟨page, rfl⟩
            · exact ih later

theorem claimPages_follows {now : Int} {limit rounds left : Nat} {after : Option DueTarget} :
    (protocol rules).FollowsE (.scheduling (some now) page claimed)
      (claimPages now limit rounds left after claimed) (claimedAll (some now)) := by
  induction rounds generalizing page claimed left after with
  | zero => exact Protocol.followsE_pure ⟨page, rfl⟩
  | succ rounds ih =>
      unfold claimPages
      split
      · exact Protocol.followsE_pure ⟨page, rfl⟩
      · refine Protocol.followsE_request_bind rfl ?_ fun _ => rfl
        intro next
        show (protocol rules).FollowsE (.scheduling (some now) next claimed) _ _
        split
        · exact Protocol.followsE_pure ⟨next, rfl⟩
        · refine Protocol.followsE_bind (Protocol.followsE_mono
            (claimPage_follows fun due member => member) ?_)
          rintro phase (raised | claimed') reached
          · exact reached
          · obtain ⟨last, rfl⟩ := reached
            simp only
            split
            · exact Protocol.followsE_pure ⟨last, rfl⟩
            · exact ih

theorem claimDue_follows {now : Int} {limit : Nat} (sized : 1 ≤ limit ∧ limit ≤ 500) :
    (protocol rules).FollowsE (.scheduling (some now) page []) (claimDue now limit)
      (claimedAll (some now)) := by
  unfold claimDue
  rw [if_pos sized]
  exact claimPages_follows

theorem enqueueAll_follows {requests : List TargetDispatch} :
    (protocol rules).FollowsE (.scheduling clock page requests) (enqueueAll requests)
      fun phase _ => phase.concluded := by
  induction requests with
  | nil => exact Protocol.followsE_pure rfl
  | cons dispatch rest ih =>
      refine Protocol.followsE_bind (Protocol.followsE_attempt ?_)
      refine Protocol.followsE_request rfl ?_
      rintro (raised | queued)
      · refine Protocol.followsE_request_bind rfl ?_ fun _ => trivial
        intro released
        exact Protocol.followsE_throw trivial
      · exact ih

/-- **The scheduler follows the protocol.** -/
theorem dispatchControlPlane_follows :
    (protocol rules).FollowsE (.scheduling none [] []) dispatchControlPlane
      fun phase _ => phase.concluded := by
  refine Protocol.followsE_request_bind trivial ?_ fun _ => trivial
  intro now
  refine Protocol.followsE_bind (Protocol.followsE_mono (claimDue_follows (by decide)) ?_)
  rintro phase (raised | requests) reached
  · obtain rfl : phase = .gone := reached
    exact trivial
  · obtain ⟨page, rfl⟩ := reached
    refine Protocol.followsE_bind (Protocol.followsE_mono enqueueAll_follows ?_)
    rintro phase (raised | done) finished
    · exact finished
    · exact Protocol.followsE_pure finished

end Scheduler

/-! ### A worker that collects a run follows the protocol -/

section Collect

variable {rules : Rules} (work : Collecting)

/-- The worker has ended, or it has met an exception and still collects its run. -/
def Closed (tenure : Tenure) (phase : Phase) : Result TargetRunOutcome → Prop
  | .ok _ => phase = .leaving tenure.execution
  | .error _ => ∃ work, phase = .collecting work ∧ work.toTenure = tenure

theorem lockLost_follows :
    (protocol rules).FollowsE (.collecting work)
      (lockLost work.execution work.loaded work.runId) (Closed work.toTenure) := by
  refine Protocol.followsE_request_bind ⟨rfl, rfl, rfl⟩ ?_ fun _ => ⟨work, rfl, rfl⟩
  intro done
  exact Protocol.followsE_pure rfl

/-- A run that ends with an error, and an outcome that is worked out from it. -/
theorem finishError_follows {code : String} {retryable : Bool} {retryAfter : Option (Nat × Nat)}
    {outcome : Bool → TargetRunOutcome} :
    (protocol rules).FollowsE (.collecting work)
      (do
        let retry ← ask (.finishError work.loaded work.execution.dispatch work.runId code retryable
          retryAfter)
        pure (outcome retry)) (Closed work.toTenure) := by
  refine Protocol.followsE_request_bind ⟨rfl, rfl, rfl⟩ ?_ fun _ => ⟨work, rfl, rfl⟩
  intro retry
  exact Protocol.followsE_pure rfl

theorem endWithError_follows {code : String} {retryable : Bool} {retryAfter : Option (Nat × Nat)} :
    (protocol rules).FollowsE (.collecting work)
      (endWithError work.execution work.loaded work.runId code retryable retryAfter)
      (Closed work.toTenure) :=
  finishError_follows work

theorem deadlineExceeded_follows :
    (protocol rules).FollowsE (.collecting work)
      (deadlineExceeded work.execution work.loaded work.runId) (Closed work.toTenure) :=
  finishError_follows work

theorem adapterError_follows {error : ProviderAdapterError} :
    (protocol rules).FollowsE (.collecting work)
      (adapterError work.execution work.loaded work.runId error) (Closed work.toTenure) := by
  unfold adapterError
  split
  · refine Protocol.followsE_request_bind trivial ?_ fun _ => ⟨work, rfl, rfl⟩
    intro set
    exact endWithError_follows work
  · exact endWithError_follows work

/-- The body of a run, after an exception of it that is handled the same way everywhere. -/
theorem throw_follows {raised : PyError} :
    (protocol rules).FollowsE (.collecting work) (throw raised : Procedure TargetRunOutcome)
      (Closed work.toTenure) :=
  Protocol.followsE_throw ⟨work, rfl, rfl⟩

/-! #### A single page -/

theorem storeSingle_follows {result : ProviderFetchResult} {action : CursorAction}
    (single : ¬ work.bounded) (fetched : work.stage = .fetched result) :
    (protocol rules).FollowsE (.collecting work)
      (storeSingle work.execution work.loaded work.runId work.snapshot action result)
      (Closed work.toTenure) := by
  refine Protocol.followsE_bind (Protocol.followsE_compute ?_)
  cases adjusted : storedResult action result with
  | error raised => exact ⟨work, rfl, rfl⟩
  | ok stored =>
      have same : stored = result ∨ ¬ work.bounded ∧ withoutItems result = .ok stored := by
        unfold storedResult at adjusted
        split at adjusted
        · exact .inr ⟨single, adjusted⟩
        · exact .inl (Except.ok.inj adjusted).symm
      have storable : Storable rules work ⟨work.snapshot, stored, false, true, "run"⟩ :=
        { snapshot_eq := rfl
          fetched := ⟨result, fetched, same⟩
          paged := by simp [single]
          single := fun _ => rfl
          continued := fun bounded => absurd bounded single
          decodes := fun bounded => absurd bounded single }
      refine Protocol.followsE_request_bind ⟨rfl, rfl, rfl, rfl, storable⟩ ?_
        fun _ => ⟨work, rfl, rfl⟩
      intro done
      exact Protocol.followsE_pure rfl

theorem decideSingle_follows {result : ProviderFetchResult}
    (single : ¬ work.bounded) (fetched : work.stage = .fetched result) :
    (protocol rules).FollowsE (.collecting work)
      (decideSingle rules work.execution work.loaded work.runId work.snapshot result)
      (Closed work.toTenure) := by
  refine Protocol.followsE_request_bind rfl ?_ fun _ => ⟨work, rfl, rfl⟩
  intro owner
  show (protocol rules).FollowsE (.collecting work) _ _
  split
  · exact lockLost_follows work
  · split
    · exact storeSingle_follows work single fetched
    · split
      · exact finishError_follows work
      · exact throw_follows work

theorem executeSingle_follows {request : ProviderFetchRequest} (single : ¬ work.bounded)
    (source : request.cursor = work.source) :
    (protocol rules).FollowsE (.collecting work)
      (executeSingle rules work.execution work.loaded work.runId work.snapshot request)
      (Closed work.toTenure) := by
  refine Protocol.followsE_bind (Protocol.followsE_attempt ?_)
  refine Protocol.followsE_request ⟨rfl, source, fun bounded => absurd bounded single⟩ ?_
  rintro (raised | result)
  · show (protocol rules).FollowsE (.collecting { work with stage := .idle }) _ _
    simp only
    split
    · exact lockLost_follows { work with stage := .idle }
    · split
      · exact endWithError_follows { work with stage := .idle }
      · exact throw_follows { work with stage := .idle }
  · show (protocol rules).FollowsE (.collecting { work with stage := .fetched result }) _ _
    simp only
    split
    · exact adapterError_follows { work with stage := .fetched result }
    · exact decideSingle_follows { work with stage := .fetched result } single rfl

/-! #### Page after page -/

/-- A page has been stored: the worker has ended, or goes on to the next page. -/
def Stored (work : Collecting) (result : ProviderFetchResult) (phase : Phase) :
    Result (Option TargetRunOutcome) → Prop
  | .ok (some _) => phase = .leaving work.execution
  | .ok none => phase = .collecting { work with source := result.nextCursor, stage := .turned }
  | .error _ => ∃ work', phase = .collecting work' ∧ work'.toTenure = work.toTenure

/-- The checks on a page leave it with a continuation, if it has more, that decodes. -/
theorem checkPage_eq_ok {request : ProviderFetchRequest} {result : ProviderFetchResult} {u : Unit}
    (checked : checkPage rules work.execution work.loaded request result = .ok u) :
    (result.hasMore = true → noContinuation result.continuation = false) ∧
      ∀ continuation, result.continuation = some continuation → continuation.isEmpty = false →
        ∃ state, decodes rules work.loaded work.execution.mode request.config continuation =
          .ok state := by
  obtain ⟨allowed, checked⟩ := check_eq_ok.1 checked
  refine ⟨fun more => ?_, fun continuation same nonempty => ?_⟩
  · have := require_eq_ok.1 allowed
    simp only [more, Bool.true_and, Bool.not_eq_true', Bool.or_eq_false_iff] at this
    exact this.1
  · simp only [same, Option.filter_some, nonempty, Bool.not_false, if_true] at checked
    obtain ⟨state, decoded, -⟩ := bind_eq_ok.1 checked
    exact ⟨state, decoded⟩

theorem storePage_follows {request : ProviderFetchRequest} {result : ProviderFetchResult}
    {last : Bool} (bounded : work.bounded) (configured : work.config = some request.config)
    (fetched : work.stage = .fetched result) :
    (protocol rules).FollowsE (.collecting work)
      (storePage rules work.execution work.loaded work.runId work.snapshot request last result)
      (Stored work result) := by
  have same : ∀ raised : PyError, Stored work result (.collecting work) (.error raised) :=
    fun raised => ⟨work, rfl, rfl⟩
  refine Protocol.followsE_bind (Protocol.followsE_compute ?_)
  split
  · refine Protocol.followsE_request_bind rfl ?_ same
    intro owner
    refine Protocol.followsE_bind (Protocol.followsE_compute ?_)
    split
    · refine Protocol.followsE_bind (Protocol.followsE_compute ?_)
      split
      · next _ checked =>
        obtain ⟨more, decoding⟩ := checkPage_eq_ok work checked
        have storable : Storable rules work ⟨work.snapshot, result, true,
            result.coverageIncomplete || !result.hasMore || last,
            rules.observationKey (request.continuation.getD [])⟩ :=
          { snapshot_eq := rfl
            fetched := ⟨result, fetched, .inl rfl⟩
            paged := by simp [bounded]
            single := fun single => absurd bounded single
            continued := fun _ => more
            decodes := fun _ config held => by
              obtain rfl := Option.some.inj (configured.symm.trans held)
              exact decoding }
        refine Protocol.followsE_request_bind ⟨rfl, rfl, rfl, rfl, storable⟩ ?_ same
        intro done
        refine Protocol.followsE_pure ?_
        show Stored work result (if (result.coverageIncomplete || !result.hasMore || last) = true
          then .leaving work.execution
          else .collecting { work with source := result.nextCursor, stage := .turned }) _
        by_cases final : (result.coverageIncomplete || !result.hasMore || last) = true
        · rw [if_pos final, if_pos final]
          exact rfl
        · rw [if_neg final, if_neg final]
          exact rfl
      · exact same _
    · exact same _
  · exact same _

theorem executePages_follows {left : Nat} {request : ProviderFetchRequest}
    (bounded : work.bounded) (configured : work.config = some request.config)
    (source : request.cursor = work.source) (idle : work.stage = .idle) :
    (protocol rules).FollowsE (.collecting work)
      (executePages rules work.execution work.loaded work.runId left work.snapshot request)
      (Closed work.toTenure) := by
  induction left generalizing work request with
  | zero => exact throw_follows work
  | succ left ih =>
      have same : ∀ raised : PyError, Closed work.toTenure (.collecting work) (.error raised) :=
        fun raised => ⟨work, rfl, rfl⟩
      refine Protocol.followsE_request_bind ⟨rfl, rfl⟩ ?_ same
      intro loaded
      refine Protocol.followsE_request_bind
        ⟨bounded, by simp [configured], idle, rfl, rfl⟩ ?_ same
      rintro (_ | deadline)
      · exact Protocol.followsE_pure rfl
      · refine Protocol.followsE_request_bind trivial ?_ fun _ => ⟨_, rfl, rfl⟩
        intro now
        show (protocol rules).FollowsE (.collecting { work with stage := .reserved }) _ _
        split
        · exact deadlineExceeded_follows { work with stage := .reserved }
        · refine Protocol.followsE_bind (Protocol.followsE_attempt ?_)
          refine Protocol.followsE_request ⟨rfl, source, fun _ => ⟨rfl, configured⟩⟩ ?_
          rintro (raised | result)
          · show (protocol rules).FollowsE (.collecting { work with stage := .idle }) _ _
            simp only
            split
            · exact lockLost_follows { work with stage := .idle }
            · split
              · exact deadlineExceeded_follows { work with stage := .idle }
              · exact throw_follows { work with stage := .idle }
          · show (protocol rules).FollowsE
              (.collecting { work with stage := .fetched result }) _ _
            simp only
            split
            · exact adapterError_follows { work with stage := .fetched result }
            · refine Protocol.followsE_bind (Protocol.followsE_mono
                (storePage_follows { work with stage := .fetched result } bounded
                  configured rfl) ?_)
              rintro phase (raised | (_ | outcome)) stored
              · obtain ⟨work', rfl, tenure⟩ := stored
                exact ⟨work', rfl, tenure⟩
              · obtain rfl : phase = _ := stored
                refine Protocol.followsE_request_bind ⟨rfl, rfl, rfl, rfl⟩ ?_ fun _ => ⟨_, rfl, rfl⟩
                intro cursor
                exact ih { work with
                  source := result.nextCursor, snapshot := cursor, stage := .idle } bounded
                  configured rfl rfl
              · exact Protocol.followsE_pure stored

end Collect

/-! ### A worker follows the protocol -/

section Worker

variable {rules : Rules} {execution : Execution}

/-- A run that has just been started or adopted. -/
def startedWork (execution : Execution) (loaded : LoadedTarget) (runId : Uuid)
    (cursor : Option Cursor) : Collecting :=
  ⟨⟨execution, loaded, runId⟩, cursor, cursor.bind Cursor.cursorValue, none, .idle⟩

theorem prepareRequest_follows (work : Collecting) {config : Object}
    {continuation : Option Object} :
    (protocol rules).FollowsE (.collecting work)
      (prepareRequest work.execution work.loaded work.snapshot config continuation)
      fun phase outcome => phase = .collecting work ∧ ∀ request, outcome = .ok request →
        request.cursor = work.snapshot.bind Cursor.cursorValue ∧ request.config = config := by
  refine Protocol.followsE_bind (Protocol.followsE_compute ?_)
  split
  · refine Protocol.followsE_request_bind trivial ?_ fun _ => ⟨rfl, by simp⟩
    intro now
    refine Protocol.followsE_compute ⟨rfl, fun request made => ?_⟩
    obtain ⟨-, made⟩ := check_eq_ok.1 made
    obtain ⟨-, made⟩ := check_eq_ok.1 made
    obtain rfl := pure_eq_ok.1 made
    exact ⟨rfl, rfl⟩
  · exact ⟨rfl, by simp⟩

theorem collect_follows {loaded : LoadedTarget} {runId : Uuid} {cursor : Option Cursor} :
    (protocol rules).FollowsE (.collecting (startedWork execution loaded runId cursor))
      (collect rules execution loaded runId cursor) (Closed ⟨execution, loaded, runId⟩) := by
  unfold collect
  split
  · next bounded =>
    refine Protocol.followsE_request_bind ⟨bounded, rfl, rfl, rfl, rfl, rfl⟩ ?_
      fun _ => ⟨_, rfl, rfl⟩
    rintro ⟨config, continuation⟩
    refine Protocol.followsE_bind (Protocol.followsE_mono (prepareRequest_follows
      { startedWork execution loaded runId cursor with config := some config }) ?_)
    rintro phase (raised | request) ⟨rfl, made⟩
    · exact ⟨_, rfl, rfl⟩
    · obtain ⟨source, rfl⟩ := made request rfl
      exact executePages_follows
        { startedWork execution loaded runId cursor with config := some request.config }
        bounded rfl source rfl
  · next single =>
    refine Protocol.followsE_bind (Protocol.followsE_mono (prepareRequest_follows
      (startedWork execution loaded runId cursor)) ?_)
    rintro phase (raised | request) ⟨rfl, made⟩
    · exact ⟨_, rfl, rfl⟩
    · exact executeSingle_follows (startedWork execution loaded runId cursor) single
        (made request rfl).1

/-- A worker that has ended, or met an exception before it had a run, is leaving. -/
def Left (execution : Execution) (phase : Phase) : Result TargetRunOutcome → Prop
  | .ok _ => phase = .leaving execution
  | .error _ => phase = .leaving execution ∨
      ∃ work, phase = .collecting work ∧ work.execution = execution

theorem recoverCollect_follows (work : Collecting) {raised : PyError} :
    (protocol rules).FollowsE (.collecting work)
      (recoverCollect work.execution work.loaded work.runId raised) (Left work.execution) := by
  have closes : ∀ {program : Procedure TargetRunOutcome},
      (protocol rules).FollowsE (.collecting work) program (Closed work.toTenure) →
      (protocol rules).FollowsE (.collecting work) program (Left work.execution) := by
    intro program follows
    refine Protocol.followsE_mono follows ?_
    rintro phase (raised | outcome) closed
    · obtain ⟨work', rfl, tenure⟩ := closed
      exact .inr ⟨work', rfl, congrArg Tenure.execution tenure⟩
    · exact closed
  unfold recoverCollect
  split
  · exact closes (lockLost_follows work)
  · split
    · exact closes (endWithError_follows work)
    · split
      · exact closes (finishError_follows work)
      · exact closes (throw_follows work)

/-- What the start of an execution comes to. -/
def Begun (execution : Execution) (phase : Phase) : Result Started → Prop
  | .ok (.blocked _) => phase = .leaving execution
  | .ok (.run loaded runId cursor) => phase = .collecting (startedWork execution loaded runId cursor)
  | .error _ => phase = .leaving execution

theorem begin_follows :
    (protocol rules).FollowsE (.locked execution none) (begin execution) (Begun execution) := by
  refine Protocol.followsE_request_bind ⟨rfl, rfl⟩ ?_ fun _ => rfl
  intro loaded
  refine Protocol.followsE_bind (Protocol.followsE_attempt ?_)
  refine Protocol.followsE_request trivial ?_
  rintro (raised | credential)
  · show (protocol rules).FollowsE (if raised.isAny [.credentialResolutionError] then
        .locked execution (some loaded) else .leaving execution)
      (if raised.isAny [.credentialResolutionError] then do
          let _ ← ask (.markCredentialMissing loaded)
          pure (Started.blocked (execution.blocked "blocked" raised.message))
        else throw raised) _
    split
    · refine Protocol.followsE_request_bind rfl ?_ fun _ => rfl
      intro marked
      exact Protocol.followsE_pure rfl
    · exact Protocol.followsE_throw rfl
  · refine Protocol.followsE_request_bind ⟨rfl, rfl⟩ ?_ fun _ => rfl
    intro reloaded
    refine Protocol.followsE_request_bind ⟨rfl, rfl, rfl⟩ ?_ fun _ => rfl
    rintro ⟨runId, cursor⟩
    exact Protocol.followsE_pure rfl

theorem recoverStart_follows {raised : PyError} :
    (protocol rules).FollowsE (.leaving execution) (recoverStart execution raised)
      (Left execution) := by
  unfold recoverStart
  split
  · exact Protocol.followsE_pure rfl
  · split
    · exact Protocol.followsE_pure rfl
    · split
      · exact Protocol.followsE_pure rfl
      · exact Protocol.followsE_throw (.inl rfl)

/-- **A worker follows the protocol while it has the lock.** -/
theorem executeLocked_follows :
    (protocol rules).FollowsE (.locked execution none) (executeLocked rules execution)
      (Left execution) := by
  refine Protocol.followsE_bind (Protocol.followsE_attempt (Protocol.followsE_mono
    begin_follows ?_))
  rintro phase (raised | (outcome | ⟨loaded, runId, cursor⟩)) begun
  · obtain rfl : phase = _ := begun
    exact recoverStart_follows
  · exact Protocol.followsE_pure begun
  · obtain rfl : phase = _ := begun
    refine Protocol.followsE_bind (Protocol.followsE_attempt (Protocol.followsE_mono
      collect_follows ?_))
    rintro phase (raised | outcome) closed
    · obtain ⟨work, rfl, tenure⟩ := closed
      obtain ⟨⟨execution, loaded, runId⟩, snapshot, source, config, stage⟩ := work
      obtain ⟨rfl, rfl, rfl⟩ := Tenure.mk.inj tenure
      exact recoverCollect_follows ⟨⟨_, _, _⟩, snapshot, source, config, stage⟩
    · exact Protocol.followsE_pure closed

/-- An execution that has ended. -/
theorem Left.concluded {phase : Phase} {outcome : Result TargetRunOutcome}
    (left : Left execution phase outcome) :
    phase = .leaving execution ∨ ∃ work, phase = .collecting work ∧ work.execution = execution := by
  cases outcome with
  | ok value => exact .inl left
  | error raised => exact left

/-- The lock is released from either of them. -/
theorem release_follows {phase : Phase} {post : Phase → Result Unit → Prop}
    (left : phase = .leaving execution ∨
      ∃ work, phase = .collecting work ∧ work.execution = execution)
    (ends : ∀ outcome, post (.leaving execution) outcome) :
    (protocol rules).FollowsE phase (release execution) post := by
  have deletes : (protocol rules).FollowsE (.leaving execution)
      (do
        let _ ← ask (.compareDelete execution.lockKey (.owner execution.owner))
        pure ()) post := by
    refine Protocol.followsE_request_bind ⟨rfl, rfl⟩ ?_ fun _ => ends _
    intro deleted
    exact Protocol.followsE_pure (ends _)
  obtain rfl | ⟨work, rfl, rfl⟩ := left
  · exact Protocol.followsE_request_bind trivial (fun _ => deletes) fun _ => ends _
  · exact Protocol.followsE_request_bind trivial (fun _ => deletes) fun _ => ends _

theorem executeLoaded_follows {dispatch : TargetDispatch} {mode : RunMode} {loaded : LoadedTarget}
    (parsed : RunMode.parse dispatch.runMode = some mode) :
    (protocol rules).FollowsE (.arriving dispatch none) (executeLoaded rules dispatch mode loaded)
      fun phase _ => phase.concluded := by
  refine Protocol.followsE_request_bind trivial ?_ fun _ => trivial
  intro cooling
  show (protocol rules).FollowsE (if cooling = true then .gone else .arriving dispatch none) _ _
  by_cases cool : cooling = true
  · rw [if_pos cool, if_pos cool]
    exact Protocol.followsE_pure trivial
  · rw [if_neg cool, if_neg cool]
    refine Protocol.followsE_request_bind trivial ?_ fun _ => trivial
    intro owner
    refine Protocol.followsE_request_bind ⟨rfl, parsed, rfl⟩ ?_ fun _ => trivial
    intro taken
    show (protocol rules).FollowsE (if taken = true then .locked ⟨dispatch, mode, owner⟩ none
      else .gone) _ _
    by_cases free : taken = true
    · rw [if_pos free, if_pos free]
      refine Protocol.followsE_request_bind ⟨rfl, rfl⟩ ?_ fun _ => trivial
      intro spawned
      refine Protocol.followsE_finallyDo (Protocol.followsE_mono executeLocked_follows ?_)
      intro phase outcome left
      refine release_follows left.concluded ?_
      rintro (raised | done)
      · exact trivial
      · exact trivial
    · rw [if_neg free, if_neg free]
      exact Protocol.followsE_pure trivial

/-- **A worker follows the protocol.** -/
theorem execute_follows {dispatch : TargetDispatch} :
    (protocol rules).FollowsE (Job.execute dispatch).phase (execute rules dispatch)
      fun phase _ => phase.concluded := by
  cases parsed : RunMode.parse dispatch.runMode with
  | none =>
      simp only [execute, Job.phase, parsed]
      exact Protocol.followsE_pure trivial
  | some mode =>
      simp only [execute, Job.phase, parsed]
      by_cases named : dispatch.dispatchId ≠
          ⟨dispatch.targetId, dispatch.configRevision, dispatch.scheduledSlot, mode.value⟩
      · rw [if_pos named, if_pos named]
        exact Protocol.followsE_pure trivial
      · rw [if_neg named, if_neg named]
        refine Protocol.followsE_bind (Protocol.followsE_attempt ?_)
        refine Protocol.followsE_request ⟨rfl, rfl⟩ ?_
        rintro (raised | loaded)
        · show (protocol rules).FollowsE .gone (if raised.isAny [.targetRepositoryError] then
            pure (⟨dispatch.targetId, "blocked", none, some raised.message⟩ : TargetRunOutcome)
            else throw raised) _
          split
          · exact Protocol.followsE_pure trivial
          · exact Protocol.followsE_throw trivial
        · exact executeLoaded_follows parsed

end Worker

/-! ### The discipline of the control plane -/

/-- **The control plane is disciplined**: every program it starts follows the protocol. -/
def discipline (deployed : Deployment) : Discipline (controlPlane deployed) Phase where
  toProtocol := protocol deployed.rules
  initial := Job.phase
  finished phase _ := phase.concluded
  adheres := by
    have ends : ∀ {α : Type} {phase : Phase} {program : Procedure α} {wrap : α → Ended},
        (protocol deployed.rules).FollowsE phase program (fun phase _ => phase.concluded) →
        (protocol deployed.rules).FollowsE phase (do
          let value ← program
          pure (wrap value)) fun phase _ => phase.concluded := by
      intro α phase program wrap follows
      refine Protocol.followsE_bind (Protocol.followsE_mono follows ?_)
      rintro phase (raised | value) finished
      · exact finished
      · exact Protocol.followsE_pure finished
    rintro (dispatch | _)
    · exact ends execute_follows
    · exact ends dispatchControlPlane_follows

/-! ### Where a phase comes from -/

/-- A worker that collects a run collects it after a reply too, under the same lock, or leaves. -/
theorem collecting_next (work : Collecting) (op : Op) (reply : Result (Answer op)) :
    (Phase.collecting work).next op reply = .leaving work.execution ∨
      ∃ work' : Collecting, (Phase.collecting work).next op reply = .collecting work' ∧
        work'.toTenure = work.toTenure := by
  cases reply with
  | error raised =>
      cases op with
      | stopRenewal => exact .inl rfl
      | _ => exact .inr ⟨_, rfl, rfl⟩
  | ok value =>
      cases op with
      | finishError | finishLockLost | stopRenewal => exact .inl rfl
      | reserveRequest =>
          cases value with
          | exhausted => exact .inl rfl
          | reserved => exact .inr ⟨_, rfl, rfl⟩
      | persistResult loaded dispatch runId mode page =>
          unfold Phase.next Phase.answered collecting.answered
          simp only
          split
          · exact .inl rfl
          · exact .inr ⟨_, rfl, rfl⟩
      | _ => exact .inr ⟨_, rfl, rfl⟩

theorem collecting_tenure {op : Op} {reply : Result (Answer op)} {work work' : Collecting}
    (stays : (Phase.collecting work).next op reply = .collecting work') :
    work'.toTenure = work.toTenure := by
  rcases collecting_next work op reply with left | ⟨next, same, tenure⟩
  · simp [left] at stays
  · rw [same] at stays
    rw [← Phase.collecting.inj stays, tenure]

/-- A worker that collects a run after an operation has collected it before, or has just started
or adopted it. -/
theorem collecting_of_next {rules : Rules} {phase : Phase} {op : Op} {reply : Result (Answer op)}
    {work : Collecting} (allowed : phase.allowed rules op)
    (next : phase.next op reply = .collecting work) :
    (∃ before, phase = .collecting before ∧ work.toTenure = before.toTenure) ∨
      ∃ execution loaded target dispatch mode, phase = .locked execution loaded ∧
        op = .startRun target dispatch mode := by
  cases phase with
  | collecting before => exact .inl ⟨before, rfl, collecting_tenure next⟩
  | locked execution loaded =>
      cases op with
      | startRun target dispatch mode =>
          exact .inr ⟨execution, loaded, target, dispatch, mode, rfl, rfl⟩
      | spawnRenewal | load | markCredentialMissing =>
          cases reply with
          | error raised => simp [Phase.next, Phase.raised] at next
          | ok value => simp [Phase.next, Phase.answered, locked.answered] at next
      | credential provider =>
          cases reply with
          | error raised =>
              unfold Phase.next Phase.raised at next
              simp only at next
              split at next
              · simp at next
              · simp at next
          | ok value => simp [Phase.next, Phase.answered, locked.answered] at next
      | _ => exact False.elim allowed
  | scheduling clock page claimed =>
      cases reply with
      | error raised =>
          unfold Phase.next Phase.raised at next
          simp only at next
          split at next
          · simp at next
          · split at next
            · simp at next
            · simp at next
          · split at next
            · simp at next
            · simp at next
          · simp at next
      | ok value =>
          unfold Phase.next Phase.answered scheduling.answered at next
          simp only at next
          split at next
          · simp at next
          · simp at next
          · simp at next
          · simp at next
          · simp at next
  | arriving dispatch token =>
      cases reply with
      | error raised => simp [Phase.next, Phase.raised] at next
      | ok value =>
          unfold Phase.next Phase.answered arriving.answered at next
          simp only at next
          split at next
          · split at next
            · simp at next
            · simp at next
          · simp at next
          · split at next
            · simp at next
            · simp at next
          · simp at next
  | releasing | leaving | gone =>
      cases reply with
      | error raised => simp [Phase.next, Phase.raised] at next
      | ok value => simp [Phase.next, Phase.answered] at next

/-- No job starts with a run. -/
theorem job_phase_ne (job : Job) (work : Collecting) : job.phase ≠ .collecting work := by
  cases job with
  | schedule => exact Phase.noConfusion
  | execute dispatch =>
      unfold Job.phase
      simp only
      split
      · split
        · exact Phase.noConfusion
        · exact Phase.noConfusion
      · exact Phase.noConfusion

end NewsCollect.Collection
