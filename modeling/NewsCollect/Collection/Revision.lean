/-
**The revision of a target.**

A target is revised by compare and swap on its revision. A revision is refused while a run of the
target is running or a continuation of it is pending, and whatever it proposes is checked as a
worker would check it.

* `TargetRevision`: the values of a revision.
* `revise`.
* `revise_eq_ok`: what an accepted revision has found, and what it has done.
-/

import NewsCollect.Collection.TargetRepository

namespace NewsCollect.Collection

open Text

def TargetStatus.value : TargetStatus → String
  | draft => "draft"
  | active => "active"
  | paused => "paused"
  | blocked => "blocked"
  | retired => "retired"

/-- `CollectionTargetStatus(value)`. -/
def TargetStatus.parse (value : String) : Option TargetStatus :=
  [draft, active, paused, blocked, retired].find? fun status => status.value = value

def CursorStrategy.value : CursorStrategy → String
  | strictIncremental => "strict_incremental"
  | snapshotWatermark => "snapshot_watermark"
  | pageToken => "page_token"
  | dateWindow => "date_window"
  | compound => "compound"
  | revision => "revision"

/-- `CollectionCursorStrategy(value)`. -/
def CursorStrategy.parse (value : String) : Option CursorStrategy :=
  [strictIncremental, snapshotWatermark, pageToken, dateWindow, compound, revision].find?
    fun strategy => strategy.value = value

def CollectionMode.value : CollectionMode → String
  | incremental => "incremental"
  | snapshot => "snapshot"

/-- `CollectionMode(value)`. -/
def CollectionMode.parse (value : String) : Option CollectionMode :=
  [incremental, snapshot].find? fun mode => mode.value = value

/-- `_TRANSITIONS`. -/
def TargetStatus.transitions : TargetStatus → List TargetStatus
  | draft => [paused, blocked]
  | paused => [active, blocked, retired]
  | active => [paused, blocked, retired]
  | blocked => [paused, retired]
  | retired => []

/-- The values of a revision, where it has them, and the names of all its other fields. -/
structure TargetRevision where
  operationConfig : Option Object
  operationConfigVersion : Option Int
  providerContractVersion : Option Int
  status : Option String
  cadenceSeconds : Option Int
  batchLimit : Option Int
  maxRequestsPerRun : Option Int
  maxPagesPerRun : Option Int
  maxResponseBytes : Option Int
  requestTimeoutSeconds : Option Int
  maxRuntimeSeconds : Option Int
  cursorStrategy : Option String
  cursorVersion : Option Int
  collectionMode : Option String
  rateLimitGroup : Option String
  priority : Option Int
  others : List String

/-- The fields no revision may have. -/
def identityFields : List String :=
  ["id", "target_key", "source_id", "source_account_id", "operation_key", "legacy_cursor_type",
    "created_at"]

/-- The target with the values of a revision. -/
def TargetRevision.apply (values : TargetRevision) (status : TargetStatus)
    (strategy : CursorStrategy) (mode : CollectionMode) (now : Int) (target : Target) : Target :=
  { target with
    operationConfig := values.operationConfig.getD target.operationConfig
    operationConfigVersion := values.operationConfigVersion.getD target.operationConfigVersion
    providerContractVersion := values.providerContractVersion.getD target.providerContractVersion
    configRevision := target.configRevision + 1
    status := status
    cadenceSeconds := values.cadenceSeconds.getD target.cadenceSeconds
    batchLimit := values.batchLimit.getD target.batchLimit
    maxRequestsPerRun := values.maxRequestsPerRun.getD target.maxRequestsPerRun
    maxPagesPerRun := values.maxPagesPerRun.getD target.maxPagesPerRun
    maxResponseBytes := values.maxResponseBytes.getD target.maxResponseBytes
    requestTimeoutSeconds := values.requestTimeoutSeconds.getD target.requestTimeoutSeconds
    maxRuntimeSeconds := values.maxRuntimeSeconds.getD target.maxRuntimeSeconds
    cursorStrategy := strategy
    cursorVersion := values.cursorVersion.getD target.cursorVersion
    collectionMode := mode
    rateLimitGroup := values.rateLimitGroup.getD target.rateLimitGroup
    priority := values.priority.getD target.priority
    healthStatus := .unknown
    retiredAt := if status = .retired then some now else none
    nextRetryAt := none
    nextDueAt := now }

/-! ### The checks -/

/-- A run of the target is running. -/
def Database.inFlight (db : Database) (targetId : Uuid) : Bool :=
  db.runs.any fun run => run.targetId == some targetId && run.status == .running

/-- A continuation of the target is pending, in any version and mode. -/
def Database.pendingContinuation (db : Database) (targetId : Uuid) : Bool :=
  db.cursors.any fun cursor => cursor.targetId == some targetId &&
    cursor.continuation.any fun continuation => !continuation.isEmpty

/-- The status a target is revised to. -/
def proposedStatus (values : TargetRevision) (target : Target) : Result TargetStatus :=
  match values.status.elim (some target.status) TargetStatus.parse with
  | none => raise .targetRepositoryError "target_status_invalid"
  | some status => do
      require (status == target.status || target.status.transitions.contains status)
        .targetRepositoryError "target_status_transition_invalid"
      pure status

/-- The strategy and the mode a target is revised to, which must be those of its contract. -/
def proposedSemantics (values : TargetRevision) (target : Target) (contract : OperationContract) :
    Result (CursorStrategy × CollectionMode) :=
  match values.cursorStrategy.elim (some target.cursorStrategy) CursorStrategy.parse,
      values.collectionMode.elim (some target.collectionMode) CollectionMode.parse with
  | some strategy, some mode => do
      require (strategy == contract.cursorStrategy && mode == contract.collectionMode)
        .targetRepositoryError "target_operation_semantics_invalid"
      pure (strategy, mode)
  | _, _ => raise .targetRepositoryError "target_operation_semantics_invalid"

/-- `[a-z0-9][a-z0-9:._-]{0,159}`. -/
def isRateLimitGroup (text : List Char) : Bool :=
  headed (fun c => isLower c || isDigit c)
    (fun c => isLower c || isDigit c || oneOf ":._-" c) 159 text

/-- The budgets a target is revised to. -/
def checkBudgets (values : TargetRevision) (target : Target) : Result Unit := do
  let timeout := values.requestTimeoutSeconds.getD target.requestTimeoutSeconds
  let runtime := values.maxRuntimeSeconds.getD target.maxRuntimeSeconds
  let bytes := values.maxResponseBytes.getD target.maxResponseBytes
  let cadence := values.cadenceSeconds.getD target.cadenceSeconds
  require (isRateLimitGroup (values.rateLimitGroup.getD target.rateLimitGroup).toList)
    .targetRepositoryError "target_rate_limit_group_invalid"
  require (1 ≤ timeout && timeout ≤ 60 && timeout ≤ runtime && runtime ≤ 900)
    .targetRepositoryError "target_budget_invalid"
  require (1024 ≤ bytes && bytes ≤ 10000000 && 1 ≤ cadence && cadence ≤ 86400)
    .targetRepositoryError "target_budget_invalid"

/-- A target that is revised to be active must be eligible. An account that is missing is not
noticed. -/
def checkActivation (db : Database) (source : Source) (target : Target) : Result Unit := do
  let account := target.sourceAccountId.bind db.account
  require (target.sourceAccountId.isSome ||
      !db.accounts.any fun account => account.sourceId == target.sourceId)
    .targetRepositoryError "source_level_target_has_accounts"
  require (source.enabled && source.authorizationStatus.allows && account.all fun account =>
      account.enabled && account.identityStatus == .verified && account.sourceId == source.id)
    .targetRepositoryError "target_not_eligible"

/-- What a revision makes of this target. -/
def revision (registry : OperationRegistry) (db : Database) (now : Int) (values : TargetRevision)
    (target : Target) : Result (Target → Target) := do
  require (!db.inFlight target.id) .targetRepositoryError "target_revision_in_flight"
  require (!db.pendingContinuation target.id) .targetRepositoryError
    "target_revision_pending_continuation"
  let status ← proposedStatus values target
  match db.source target.sourceId with
  | none => raise .targetRepositoryError "target_source_not_found"
  | some source => do
      let contract ← registry.resolve source.accessMethod target.operationKey
        (values.operationConfigVersion.getD target.operationConfigVersion)
        (values.providerContractVersion.getD target.providerContractVersion)
      require (target.legacyCursorType == contract.legacyCursorType) .targetRepositoryError
        "target_legacy_identity_mismatch"
      let _ ← contract.validate (values.operationConfig.getD target.operationConfig)
        (values.batchLimit.getD target.batchLimit)
        (values.maxRequestsPerRun.getD target.maxRequestsPerRun)
        (values.maxPagesPerRun.getD target.maxPagesPerRun)
      let (strategy, mode) ← proposedSemantics values target contract
      checkBudgets values target
      (if status = .active then checkActivation db source target else pure ())
      pure (values.apply status strategy mode now)

/-- `revise`: the new revision. -/
def revise (registry : OperationRegistry) (db : Database) (now : Int) (targetId : Uuid)
    (expectedRevision : Int) (values : TargetRevision) : Result (Int × Database) := do
  require (!values.others.any identityFields.contains) .targetRepositoryError
    "target_identity_immutable"
  require values.others.isEmpty .targetRepositoryError "target_revision_fields_invalid"
  match (db.target targetId).filter fun target => target.configRevision == expectedRevision with
  | none => raise .targetRepositoryError "target_revision_conflict"
  | some target => do
      let change ← revision registry db now values target
      pure ((change target).configRevision, db.setTarget targetId change)

/-! ### What a revision does -/

variable {registry : OperationRegistry} {db db' : Database} {now : Int} {targetId : Uuid}
  {values : TargetRevision} {target next : Target}

/-- A status is revised along the transitions. -/
theorem proposedStatus_eq_ok {status : TargetStatus}
    (ok : proposedStatus values target = .ok status) :
    status = target.status ∨ status ∈ target.status.transitions := by
  unfold proposedStatus at ok
  split at ok
  · simp [raise] at ok
  · obtain ⟨moves, ok⟩ := check_eq_ok.1 ok
    obtain rfl := pure_eq_ok.1 ok
    simpa using require_eq_ok.1 moves

/-- A target that may be revised has no run in flight and no continuation pending. -/
theorem revision_eq_ok {change : Target → Target}
    (ok : revision registry db now values target = .ok change) :
    db.inFlight target.id = false ∧ db.pendingContinuation target.id = false ∧
      ∃ status strategy mode, change = values.apply status strategy mode now ∧
        proposedStatus values target = .ok status := by
  obtain ⟨calm, ok⟩ := check_eq_ok.1 ok
  obtain ⟨settled, ok⟩ := check_eq_ok.1 ok
  obtain ⟨status, proposed, ok⟩ := bind_eq_ok.1 ok
  refine ⟨by simpa using require_eq_ok.1 calm, by simpa using require_eq_ok.1 settled, ?_⟩
  split at ok
  · simp [raise] at ok
  · obtain ⟨contract, -, ok⟩ := bind_eq_ok.1 ok
    obtain ⟨-, ok⟩ := check_eq_ok.1 ok
    obtain ⟨-, -, ok⟩ := bind_eq_ok.1 ok
    obtain ⟨⟨strategy, mode⟩, -, ok⟩ := bind_eq_ok.1 ok
    obtain ⟨-, -, ok⟩ := bind_eq_ok.1 ok
    obtain ⟨-, -, ok⟩ := bind_eq_ok.1 ok
    exact ⟨status, strategy, mode, (pure_eq_ok.1 ok).symm, proposed⟩

/-- An accepted revision has found the target at the revision it expects, without a run in flight
and without a continuation pending, and writes this target only. -/
theorem revise_eq_ok {expected next : Int}
    (ok : revise registry db now targetId expected values = .ok (next, db')) :
    ∃ target, db.target targetId = some target ∧ target.configRevision = expected ∧
      next = expected + 1 ∧ db.inFlight targetId = false ∧
      db.pendingContinuation targetId = false ∧ ∃ status strategy mode,
        db' = db.setTarget targetId (values.apply status strategy mode now) ∧
        proposedStatus values target = .ok status := by
  obtain ⟨-, ok⟩ := check_eq_ok.1 ok
  obtain ⟨-, ok⟩ := check_eq_ok.1 ok
  split at ok
  · simp [raise] at ok
  · next target found =>
    obtain ⟨held, expects⟩ := Option.filter_eq_some_iff.1 found
    obtain ⟨change, done, ok⟩ := bind_eq_ok.1 ok
    obtain ⟨rfl, rfl⟩ := Prod.mk.inj (pure_eq_ok.1 ok)
    obtain ⟨calm, settled, status, strategy, mode, rfl, proposed⟩ := revision_eq_ok done
    have named : target.id = targetId := Table.key_of_find _ held
    rw [named] at calm settled
    have same : target.configRevision = expected := by simpa using expects
    exact ⟨target, held, same, by rw [← same]; rfl, calm, settled, status, strategy, mode, rfl,
      proposed⟩

end NewsCollect.Collection
