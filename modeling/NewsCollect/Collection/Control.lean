/-
**The control plane as a system of programs.**

Workers and schedulers run against the tables and Redis, in any number and in any order. This module
says what each of their operations does, which of them may fail, and what happens by itself: time
passes, keys are lost, locks are renewed, stale runs are recovered, targets are revised, and the
legacy runner advances the cursors it shares with the targets.

* `Control`: the shared state.
* `exec`: one operation.
* `controlPlane`: the system.
-/

import NewsCollect.Collection.Revision
import NewsCollect.Collection.Scheduler
import NewsCollect.Library.Pool

namespace NewsCollect.Collection

open Calendar Interleaving Providers

/-! ### The shared state -/

/-- The renewal of a lock, which runs beside a worker and tells it of the loss of the lock. -/
structure Renewal where
  key : Key
  owner : Nat
  ttl : Int
  lost : Bool

/-- What the state does not hold but a history does: the due time a dispatch has been claimed for,
the dispatches that have started or resumed a run, and the requests that have been made for a
run. -/
inductive Entry where
  | claimed (identity : DispatchIdentity) (dueAt : Int)
  | started (identity : DispatchIdentity) (runId : Uuid)
  | fetched (runId : Uuid)
deriving DecidableEq

/-- **The shared state.** -/
structure Control where
  database : Database
  redis : Redis
  now : Int
  renewals : Nat → Option Renewal
  queue : List TargetDispatch
  journal : List Entry

namespace Control

/-- The result of a transaction, with the tables it has left. -/
def commit {α : Type} (state : Control) : Result (α × Database) → Result α × Control
  | .ok (value, db) => (.ok value, { state with database := db })
  | .error raised => (.error raised, state)

/-- A transaction without a result. -/
def commitUnit (state : Control) (result : Result Database) : Result Unit × Control :=
  state.commit (result.map fun db => ((), db))

/-- A read of the tables. -/
def read {α : Type} (state : Control) (result : Result α) : Result α × Control := (result, state)

/-- A write to Redis. -/
def withRedis (state : Control) (redis : Redis) : Control := { state with redis := redis }

/-- Start, change or stop the renewal of a worker. -/
def setRenewal (state : Control) (who : Nat) (renewal : Option Renewal) : Control :=
  { state with renewals := Function.update state.renewals who renewal }

/-- Note something in the history. -/
def note (state : Control) (entry : Entry) : Control :=
  { state with journal := state.journal ++ [entry] }

end Control

/-! ### Operations -/

/-- What the environment decides: that an operation is done, that the service behind it fails, how
a request of an adapter ends, or which of several rows a query finds first. -/
inductive Choice where
  | proceed
  | fault
  | outcome (result : Result ProviderFetchResult)
  | row (index : Nat)

/-- The exception of a service that fails; what needs no service does not. -/
def faultOf : Op → Option PyError
  | .load .. | .markCredentialMissing .. | .startRun .. | .resolvedRunConfig .. |
    .reserveRequest .. | .persistResult .. | .readCursor .. | .finishError .. |
    .finishLockLost .. | .duePage .. | .revision .. => some ⟨.sqlAlchemyError, ""⟩
  | .exists .. | .setIfAbsent .. | .set .. | .get .. | .compareDelete .. | .stopRenewal |
    .mark .. =>
      some ⟨.redisError, ""⟩
  | .enqueue .. => some ⟨.operationalError, ""⟩
  | .newToken | .spawnRenewal .. | .credential .. | .now | .fetch .. => none

/-- `resolve_runtime_credential`. -/
def resolveRuntimeCredential (environ : String → String) (provider : String) : Result Unit :=
  let missing := raise .credentialResolutionError "provider_runtime_credential_missing"
  let named (name : String) : Result Unit := if environ name = "" then missing else .ok ()
  if provider = "sec_edgar" then
    if environ "SEC_USER_AGENT" = "" ∨ environ "SEC_CONTACT_EMAIL" = "" then missing else .ok ()
  else if provider = "marketaux" then named "MARKETAUX_API_TOKEN"
  else if provider = "finnhub" then named "FINNHUB_API_KEY"
  else if provider = "eia" then named "EIA_API_KEY"
  else raise .credentialResolutionError "provider_credential_contract_unknown"

/-- `_revision`. -/
def revisionOf (db : Database) (targetId : Uuid) : Result Int :=
  match db.target targetId with
  | some target => .ok target.configRevision
  | none => raise .targetRepositoryError "target_not_found"

/-- The cursors `_execute_pages` may read: of the operation and the mode, in any version. -/
def pageCursors (db : Database) (targetId : Uuid) (cursorType : String) (mode : RunMode) :
    List Cursor :=
  db.cursors.filter fun row => row.targetId = some targetId ∧ row.cursorType = cursorType ∧
    row.runMode = mode

/-- **What the control plane is deployed with**: the functions it depends on, the registry and the
environment of its processes. -/
structure Deployment where
  rules : Rules
  registry : OperationRegistry
  environ : String → String

section Exec

variable (deployed : Deployment)

/-- The operations of a target. -/
def perform (state : Control) (who : Nat) : (op : Op) → Result (Answer op) × Control
  | .load targetId revision =>
      state.read (loadForExecution deployed.registry state.database targetId revision)
  | .exists key => (.ok (present state.redis state.now key), state)
  | .setIfAbsent key value ttl =>
      let (taken, redis) := Expiring.setIfAbsent state.redis state.now key value (ttl * second)
      (.ok taken, state.withRedis redis)
  | .set key value ttl =>
      (.ok (), state.withRedis (Expiring.set state.redis state.now key value (ttl * second)))
  | .get key => (.ok (Expiring.get state.redis state.now key), state)
  | .compareDelete key value =>
      (.ok (), state.withRedis (Expiring.compareDelete state.redis state.now key value))
  | .newToken => (.ok who, state)
  | .spawnRenewal key owner ttl => (.ok (), state.setRenewal who (some ⟨key, owner, ttl, false⟩))
  | .stopRenewal => (.ok (), state.setRenewal who none)
  | .credential provider => state.read (resolveRuntimeCredential deployed.environ provider)
  | .markCredentialMissing loaded =>
      state.commitUnit (.ok (markCredentialMissing state.database state.now loaded))
  | .startRun loaded dispatch mode =>
      match startRun state.database state.now loaded dispatch mode with
      | .ok (started, db) =>
          (.ok started,
            { state with database := db }.note (.started dispatch.dispatchId started.1))
      | .error raised => (.error raised, state)
  | .resolvedRunConfig runId loaded cursor mode =>
      state.commit (resolvedRunConfig deployed.rules state.database runId loaded cursor mode)
  | .now => (.ok state.now, state)
  | .reserveRequest loaded runId =>
      state.commit (reserveRequest state.database state.now loaded runId)
  | .fetch _ _ => (raise .timeoutError "", state)
  | .persistResult loaded dispatch runId mode page =>
      state.commitUnit
        (persistResult deployed.rules state.database state.now loaded dispatch runId mode page)
  | .readCursor targetId cursorType mode =>
      (.ok (pageCursors state.database targetId cursorType mode)[0]?, state)
  | .finishError loaded dispatch runId code retryable retryAfter =>
      state.commit (.ok
        (finishError state.database state.now loaded dispatch runId code retryable retryAfter))
  | .finishLockLost loaded dispatch runId =>
      state.commitUnit (.ok (finishLockLost state.database state.now loaded dispatch runId))
  | .duePage now limit after => (.ok (duePage state.database now limit after), state)
  | .revision targetId => state.read (revisionOf state.database targetId)
  | .mark due identity ttl =>
      let (taken, redis) := Expiring.setIfAbsent state.redis state.now (.dispatch identity)
        (.identity identity) (ttl * second)
      (.ok taken, if taken then
        (state.withRedis redis).note (.claimed identity due.effectiveDueAt) else state)
  | .enqueue dispatch => (.ok (), { state with queue := state.queue ++ [dispatch] })

/-- Whether a request may end in this way: only a worker that has been told of the loss of its lock
gives up for it. -/
def mayEnd (state : Control) (who : Nat) : Result ProviderFetchResult → Bool
  | .error raised => raised.cls != .targetLockLost || (state.renewals who).any Renewal.lost
  | .ok _ => true

/-- **One operation.** -/
def exec (state : Control) (who : Nat) (op : Op) (choice : Choice) :
    Option (Result (Answer op) × Control) :=
  match choice, op with
  | .outcome result, .fetch runId _ =>
      if mayEnd state who result then some (result, state.note (.fetched runId)) else none
  | .row index, .readCursor targetId cursorType mode =>
      ((pageCursors state.database targetId cursorType mode)[index]?).map fun cursor =>
        (.ok (some cursor), state)
  | .proceed, .fetch _ _ => none
  | .proceed, op => some (perform deployed state who op)
  | .fault, op => (faultOf op).map fun raised => (.error raised, state)
  | _, _ => none

end Exec

/-! ### What happens by itself -/

/-- What the environment may do. -/
inductive Happening where
  | tick (elapsed : Nat)
  | lose (key : Key)
  | renew (who : Nat)
  | recover (staleBefore retryDelaySeconds : Int)
  | recoverLegacy (staleAfterSeconds : Int)
  | revise (targetId : Uuid) (expectedRevision : Int) (values : TargetRevision)
  | advanceLegacy (account : Uuid) (cursorType value : String)

/-- One renewal: the lock lives on, or the worker is told of its loss. -/
def renewOnce (state : Control) (who : Nat) (renewal : Renewal) : Control :=
  let (renewed, redis) := Expiring.compareExpire state.redis state.now renewal.key
    (.owner renewal.owner) (renewal.ttl * second)
  if renewed then state.withRedis redis
  else state.setRenewal who (some { renewal with lost := true })

/-- A checkpoint of the legacy runner, whose adapters only go forward. -/
def advanceLegacy (reader : Reader) (db : Database) (account : Uuid) (cursorType value : String) :
    Option Database :=
  match position? reader (some value) with
  | none => none
  | some next =>
      match db.legacyCursor account cursorType with
      | none => some (db.addCursor fun id =>
          { newCursor account none cursorType 1 .normal id with cursorValue := some value })
      | some row =>
          if (position? reader row.cursorValue).all (· ≤ next) then
            some (db.setCursor row.id fun row => { row with cursorValue := some value })
          else none

/-- One happening. A revision that is refused changes nothing. -/
def happen (deployed : Deployment) (state : Control) : Happening → Option Control
  | .tick elapsed => some { state with now := state.now + elapsed }
  | .lose key => some (state.withRedis (Expiring.delete state.redis key))
  | .renew who =>
      match state.renewals who with
      | some renewal => if renewal.lost then none else some (renewOnce state who renewal)
      | none => none
  | .recover staleBefore delay =>
      some { state with
        database :=
          (recoverStaleTargetRuns state.database state.redis state.now staleBefore delay).1 }
  | .recoverLegacy staleAfter =>
      some { state with
        database := (recoverStaleRuns state.database state.redis state.now staleAfter).1 }
  | .revise targetId expected values =>
      match revise deployed.registry state.database state.now targetId expected values with
      | .ok (_, db) => some { state with database := db }
      | .error _ => none
  | .advanceLegacy account cursorType value =>
      (advanceLegacy deployed.rules.reader state.database account cursorType value).map fun db =>
        { state with database := db }

/-! ### The system -/

/-- What is started: the execution of a dispatch, or the scheduler. -/
inductive Job where
  | execute (dispatch : TargetDispatch)
  | schedule

/-- How a task ends. -/
inductive Ended where
  | executed (outcome : TargetRunOutcome)
  | scheduled (count : Nat)

/-- The program of a job. -/
def Job.program (rules : Rules) : Job → Procedure Ended
  | .execute dispatch => do
      let outcome ← Collection.execute rules dispatch
      pure (.executed outcome)
  | .schedule => do
      let count ← dispatchControlPlane
      pure (.scheduled count)

/-- A worker that takes a dispatch removes it from the queue. A dispatch may also be executed by
hand. -/
def acceptJob (state : Control) : Job → Control
  | .execute dispatch => { state with queue := state.queue.erase dispatch }
  | .schedule => state

/-- **The control plane.** A task that crashes takes its renewal with it. -/
def controlPlane (deployed : Deployment) :
    System signature (Result Ended) Control Choice Job Happening where
  program job := job.program deployed.rules
  accept state job := some (acceptJob state job)
  exec state who op choice := exec deployed state who op choice
  crash state who := state.setRenewal who none
  env := happen deployed

/-! ### A deployment with a target of each contract version -/

/-- The cursor of a quote at the beginning of 2026. -/
def earlyQuote : String :=
  "\x7b\"provider_item_id\":\"AAPL\",\"published_at\":\"2026-01-01T00:00:00Z\"\x7d"

/-- The cursor of a quote a day later. -/
def lateQuote : String :=
  "\x7b\"provider_item_id\":\"AAPL\",\"published_at\":\"2026-01-02T00:00:00Z\"\x7d"

/-- The JSON behind the two. -/
def quoteJson (time : String) : Json :=
  .obj [("provider_item_id", .str "AAPL"), ("published_at", .str time)]

/-- The rules, as they act on the two. -/
def quoteRules : Rules where
  reader :=
    ⟨fun text =>
      if text = earlyQuote then .ok (quoteJson "2026-01-01T00:00:00Z")
      else if text = lateQuote then .ok (quoteJson "2026-01-02T00:00:00Z")
      else raise .valueError "Expecting value",
    fun _ => ""⟩
  canonicalProjectionHash _ := "e3b0c44298fc1c149afbf4c8996fb92427ae41e4649b934ca495991b7852b855"
  normalizeAndClassify _ _ payload := .ok (payload, "complete")
  observationKey _ := "e3b0c44298fc1c149afbf4c8996fb92427ae41e4649b934ca495991b7852b855"

def quoteDeployment : Deployment := ⟨quoteRules, buildOperationRegistry, fun _ => "set"⟩

/-- A target of the quote operation. -/
def quoteTarget : Target where
  id := 1
  sourceId := 10
  sourceAccountId := some 20
  operationKey := "quote"
  legacyCursorType := some "provider_cursor_v1"
  operationConfigVersion := 1
  providerContractVersion := 1
  configRevision := 1
  operationConfig := [("symbol", .str "AAPL")]
  status := .active
  cadenceSeconds := 60
  batchLimit := 1
  maxRequestsPerRun := 1
  maxPagesPerRun := 1
  maxResponseBytes := 1024
  requestTimeoutSeconds := 10
  maxRuntimeSeconds := 60
  cursorStrategy := .compound
  cursorVersion := 1
  collectionMode := .incremental
  rateLimitGroup := "finnhub"
  priority := 0
  nextDueAt := 0
  nextRetryAt := none
  lastAttemptAt := none
  lastSuccessAt := none
  consecutiveFailures := 0
  healthStatus := .unknown
  lastErrorCode := none
  retiredAt := none

/-- The tables before the first run of the target. -/
def quoteTables : Database where
  sources := [⟨10, "finnhub", true, .authorized, 0, "metadata_only"⟩]
  accounts := [⟨20, 10, true, .verified⟩]
  targets := [quoteTarget]
  runs := []
  cursors := []
  rawItems := []
  observations := []
  projections := []
  rejectedRows := []
  issued := 0
  supply := ⟨id, Function.injective_id⟩

def quoteControl : Control := ⟨quoteTables, fun _ => none, 0, fun _ => none, [], []⟩

/-- A dispatch of the target. -/
def quoteDispatch : TargetDispatch := ⟨1, 1, 0, "normal", ⟨1, 1, 0, "normal"⟩⟩

/-- Nothing has been fetched. -/
def emptyQuote : ProviderFetchResult :=
  ⟨⟨[], [], none, false, [], "finnhub", 1, [], [], none, [], false⟩, rfl, .inl rfl, .inl rfl⟩

/-- The configuration of a target of the news operation, for a week. -/
def newsConfig : Object :=
  [("query", .str "oil"), ("window_mode", .str "fixed_window"), ("start", .str "2024-01-01"),
    ("end", .str "2024-01-08")]

/-- A target of the news operation, at the second version of its cursor. -/
def newsTarget : Target :=
  { quoteTarget with
    id := 2
    operationKey := "news_all"
    legacyCursorType := none
    operationConfigVersion := 2
    providerContractVersion := 2
    operationConfig := newsConfig
    maxRequestsPerRun := 3
    maxPagesPerRun := 3
    cursorVersion := 2
    rateLimitGroup := "marketaux" }

/-- A cursor of the target, in some version. -/
def newsCursor (id : Uuid) (version : Int) (value : String) : Cursor :=
  { newCursor 20 (some 2) "news_all" version .normal id with cursorValue := some value }

/-- The state before the first run of the target, with these cursors. -/
def newsControl (cursors : List Cursor) : Control :=
  { quoteControl with
    database :=
      { quoteTables with
        sources := [⟨10, "marketaux", true, .authorized, 0, "metadata_only"⟩]
        targets := [newsTarget]
        cursors := cursors } }

/-- A dispatch of the target. -/
def newsDispatch : TargetDispatch := ⟨2, 1, 0, "normal", ⟨2, 1, 0, "normal"⟩⟩

def newsLineage : ContinuationLineage :=
  ⟨uuidText 2, 1, "news_all", 2, 2, 2, "normal"⟩

/-- A page without news; the page that follows it, if there is one. -/
def newsPage (next : Option Int) : ProviderFetchResult :=
  ⟨⟨[], [], some earlyQuote, next.isSome, [], "marketaux", 2, [], [],
    next.map fun page => continuationOf quoteRules.canonicalProjectionHash "marketaux" "news_all"
      newsConfig newsLineage [("page", .int page)], [], false⟩, rfl, .inl rfl, .inl rfl⟩

/-- So many operations of a task, each of them done. -/
def proceed (who count : Nat) : List (Event Choice Job Happening) :=
  List.replicate count (.work who .proceed)

end NewsCollect.Collection
