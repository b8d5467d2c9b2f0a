/-
**The repository of targets.**

A target is executed only as it is stored: its revision is the one asked for, its source and its
account are eligible, its contract is in the registry and its configuration is valid.

* `loadForExecution`: what a worker reloads before it acts.
* `duePage`: the targets that are due, by time, priority and identifier.
-/

import Mathlib.Data.List.Sort
import NewsCollect.Collection.TargetConfigs

namespace NewsCollect.Collection

/-- A target, with what its execution needs. -/
structure LoadedTarget where
  target : Target
  source : Source
  account : Option SourceAccount
  contract : OperationContract
  config : Object

/-- `source.authorization_status.value in {"authorized", "implemented"}`. -/
def AuthorizationStatus.allows : AuthorizationStatus → Bool
  | .authorized | .implemented => true
  | _ => false

/-- `eligible`. -/
def eligible (source : Source) (account : Option SourceAccount) (target : Target) : Bool :=
  source.enabled && source.authorizationStatus.allows && target.status == .active &&
    match target.sourceAccountId, account with
    | none, account => account.isNone
    | some _, some account =>
        account.enabled && account.identityStatus == .verified && account.sourceId == source.id
    | some _, none => false

/-- `load_for_execution`. -/
def loadForExecution (registry : OperationRegistry) (db : Database) (targetId : Uuid)
    (revision : Int) : Result LoadedTarget :=
  match db.target targetId with
  | none => raise .targetRepositoryError "stale_target_revision"
  | some target => do
      require (target.configRevision == revision) .targetRepositoryError "stale_target_revision"
      let account := target.sourceAccountId.bind db.account
      require (target.sourceAccountId.isSome ||
          !db.accounts.any fun account => account.sourceId == target.sourceId)
        .targetRepositoryError "source_level_target_has_accounts"
      match db.source target.sourceId with
        | none => raise .targetRepositoryError "target_not_eligible"
        | some source => do
            require (eligible source account target) .targetRepositoryError "target_not_eligible"
            let contract ← registry.resolve source.accessMethod target.operationKey
              target.operationConfigVersion target.providerContractVersion
            require (target.legacyCursorType == contract.legacyCursorType) .targetRepositoryError
              "target_legacy_identity_mismatch"
            let config ← contract.validate target.operationConfig target.batchLimit
              target.maxRequestsPerRun target.maxPagesPerRun
            pure ⟨target, source, account, contract, config⟩

/-! ### Due targets -/

structure DueTarget where
  targetId : Uuid
  effectiveDueAt : Int
  priority : Int
  retryDue : Bool
deriving DecidableEq, Repr

/-- `coalesce(next_retry_at, next_due_at)`. -/
def Target.effectiveDueAt (target : Target) : Int := target.nextRetryAt.getD target.nextDueAt

/-- A target the cadence may start: of the second contract version only with a window mode that is
known not to be fixed. A missing mode makes the condition of the query unknown. -/
def Target.cadenced (target : Target) : Bool :=
  target.providerContractVersion != 2 ||
    match target.operationConfig.get "window_mode" with
    | .null => false
    | .str mode => mode != "fixed_window"
    | _ => true

/-- The order of due targets. -/
def DueTarget.le (left right : DueTarget) : Bool :=
  left.effectiveDueAt < right.effectiveDueAt ||
    (left.effectiveDueAt == right.effectiveDueAt && (left.priority < right.priority ||
      (left.priority == right.priority && left.targetId ≤ right.targetId)))

/-- The entry of a target. -/
def Target.due (target : Target) : DueTarget :=
  ⟨target.id, target.effectiveDueAt, target.priority, target.nextRetryAt.isSome⟩

/-- `due_page`. -/
def duePage (db : Database) (now : Int) (limit : Nat) (after : Option DueTarget) :
    List DueTarget :=
  let due := (db.targets.filter fun target => target.status == .active &&
    target.effectiveDueAt ≤ now && target.cadenced).map Target.due
  let later := due.filter fun entry =>
    match after with
    | some last => !entry.le last
    | none => true
  (later.insertionSort fun left right => left.le right).take limit

/-! ### What a loaded target is -/

variable {registry : OperationRegistry} {db : Database} {targetId : Uuid} {revision : Int}
  {loaded : LoadedTarget}

/-- A loaded target is the stored one, at the revision asked for, under a contract of the registry
that accepts its configuration. -/
theorem loadForExecution_eq_ok (ok : loadForExecution registry db targetId revision = .ok loaded) :
    db.target targetId = some loaded.target ∧ loaded.target.configRevision = revision ∧
      db.source loaded.target.sourceId = some loaded.source ∧
      registry.resolve loaded.source.accessMethod loaded.target.operationKey
        loaded.target.operationConfigVersion loaded.target.providerContractVersion =
          .ok loaded.contract ∧
      loaded.contract.validate loaded.target.operationConfig loaded.target.batchLimit
        loaded.target.maxRequestsPerRun loaded.target.maxPagesPerRun = .ok loaded.config := by
  unfold loadForExecution at ok
  split at ok
  · simp [raise] at ok
  · next target found =>
    simp only [check_eq_ok, require_eq_ok, beq_iff_eq] at ok
    obtain ⟨same, -, ok⟩ := ok
    split at ok
    · simp [raise] at ok
    · next source held =>
      simp only [check_eq_ok, require_eq_ok] at ok
      obtain ⟨-, ok⟩ := ok
      obtain ⟨contract, resolved, ok⟩ := bind_eq_ok.1 ok
      obtain ⟨-, ok⟩ := check_eq_ok.1 ok
      obtain ⟨config, valid, ok⟩ := bind_eq_ok.1 ok
      obtain rfl := pure_eq_ok.1 ok
      exact ⟨found, same, held, resolved, valid⟩

theorem loadForExecution_id (ok : loadForExecution registry db targetId revision = .ok loaded) :
    loaded.target.id = targetId :=
  Table.key_of_find _ (loadForExecution_eq_ok ok).1

end NewsCollect.Collection
