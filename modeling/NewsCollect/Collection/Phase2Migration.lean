/-
**The targets of what was collected before there were targets.**

Each account of a source, or the source where it has none, gets a target under a key of its own, and
the runs and the cursors without a target get the one they belong to. All of it is one transaction:
what is raised undoes it. A row is refused where a constraint or a trigger of its table does not let
it pass.

* `LegacyDatabase`: the tables that are read or written.
* `candidate`, `settleIdentity`, `buildTarget`: the target of an account, or of a source.
* `place`, `assertExactBackfillCandidates`, `backfill`: the steps of the transaction.
* `LegacyTargetPhase2Service.run`: the transaction.
-/

import Mathlib.Data.List.Sort
import NewsCollect.Collection.Revision
import NewsCollect.Collection.TargetConfigs
import NewsCollect.Evidence.Rows

namespace NewsCollect.Collection

open Evidence (ContentItem EvidenceItem)

/-! ### Tables -/

inductive BackfillPolicy where
  | disabled
  | manualBounded
deriving DecidableEq, Repr

inductive RevisionPolicy where
  | ignore
  | safeReplace
  | reconcile
deriving DecidableEq, Repr

/-- A source, with the seconds between its old runs. -/
structure LegacySource extends Source where
  scheduleSeconds : Option Int

/-- An account, with its options. -/
structure LegacyAccount extends SourceAccount where
  collectionOptions : Object

/-- A target, with its key and its policies. -/
structure LegacyTarget extends Target where
  targetKey : String
  backfillPolicy : BackfillPolicy
  revisionPolicy : RevisionPolicy

structure AuditLog where
  actorType : String
  actorId : Option String
  action : String
  targetType : String
  targetId : Option Uuid
  before : Option Object
  after : Object

/-- **The tables.** -/
structure LegacyDatabase where
  sources : List LegacySource
  accounts : List LegacyAccount
  targets : List LegacyTarget
  runs : List Run
  cursors : List Cursor
  rawItems : List RawItem
  contentItems : List ContentItem
  evidenceItems : List EvidenceItem
  auditLogs : List AuditLog

/-- What the constraints and the triggers of a table let pass: a new target, and an update, by the
table before it and after it. -/
structure Guards where
  target : LegacyTarget → Bool
  runs : List Run → List Run → Bool
  cursors : List Cursor → List Cursor → Bool

/-- What the transaction raises. -/
inductive Phase2Failure where
  | migration (code : String)
  | raised (error : PyError)
  | refused
deriving DecidableEq, Repr

structure Phase2Report where
  sourceCount : Nat
  accountCount : Nat
  candidateCount : Nat
  createdCount : Nat
  existingCount : Nat
  blockedCount : Nat
  expectedRuns : Nat
  runsBackfilled : Nat
  remainingUnmappedRuns : Nat
  expectedCursors : Nat
  cursorsBackfilled : Nat
  remainingUnmappedCursors : Nat
  mismatchedTargetOwnedRows : Nat
deriving DecidableEq, Repr

/-- `raise Phase2MigrationError(code)`, unless the condition holds. -/
def assure (condition : Bool) (code : String) : Except Phase2Failure Unit :=
  if condition then .ok () else .error (.migration code)

/-! ### `_preflight` -/

namespace LegacyDatabase

variable (db : LegacyDatabase)

/-- A raw item is of another source or account than its run. -/
def rawRunMismatch : Bool :=
  db.rawItems.any fun item => db.runs.any fun run => run.id == item.collectionRunId &&
    (item.sourceId != run.sourceId || item.sourceAccountId != run.sourceAccountId)

/-- The account is there, and is of the source. -/
def isAccountOf (accountId sourceId : Uuid) : Bool :=
  (db.accounts.find? fun account => account.id == accountId).any fun account =>
    account.sourceId == sourceId

/-- A run is of no source, or of an account that is not of its source. -/
def runSourceMismatch : Bool :=
  db.runs.any fun run => !(db.sources.any fun source => source.id == run.sourceId) ||
    run.sourceAccountId.any fun accountId => !db.isAccountOf accountId run.sourceId

/-- A cursor is of no account. -/
def cursorAccountMissing : Bool :=
  db.cursors.any fun cursor => !db.accounts.any fun account => account.id == cursor.sourceAccountId

/-- A content item is of no raw item, or of another source or account than it. -/
def contentMismatch : Bool :=
  db.contentItems.any fun content =>
    !(db.rawItems.find? fun raw => raw.id == content.rawItemId).any fun raw =>
      content.sourceId == raw.sourceId && content.sourceAccountId == raw.sourceAccountId

/-- An evidence item is of no raw item, or of another source or account than it or its content. -/
def evidenceMismatch : Bool :=
  db.evidenceItems.any fun evidence =>
    !((db.rawItems.find? fun raw => raw.id == evidence.rawItemId).any fun raw =>
      evidence.sourceId == raw.sourceId && evidence.sourceAccountId == raw.sourceAccountId) ||
    evidence.contentItemId.any fun contentItemId =>
      !(db.contentItems.find? fun content => content.id == contentItemId).any fun content =>
        content.rawItemId == evidence.rawItemId && content.sourceId == evidence.sourceId &&
          content.sourceAccountId == evidence.sourceAccountId

end LegacyDatabase

/-- The target is the one a run says it has, and of another source or account. -/
def runStrays (target : LegacyTarget) (run : Run) : Bool :=
  run.targetId == some target.id &&
    (run.sourceId != target.sourceId || run.sourceAccountId != target.sourceAccountId)

/-- The target is the one a cursor says it has, and of another account. -/
def cursorStrays (target : LegacyTarget) (cursor : Cursor) : Bool :=
  cursor.targetId == some target.id && some cursor.sourceAccountId != target.sourceAccountId

/-- `_target_owned_mismatch_count`. -/
def targetOwnedMismatchCount (targets : List LegacyTarget) (runs : List Run)
    (cursors : List Cursor) : Nat :=
  runs.countP (fun run => targets.any fun target => runStrays target run) +
    cursors.countP fun cursor => targets.any fun target => cursorStrays target cursor

/-- `_preflight`. -/
def preflight (db : LegacyDatabase) : Except Phase2Failure Unit := do
  assure (!db.rawRunMismatch) "phase2_raw_run_provenance_mismatch"
  assure (!db.runSourceMismatch) "phase2_run_source_account_mismatch"
  assure (!db.cursorAccountMissing) "phase2_cursor_account_missing"
  assure (!db.contentMismatch) "phase2_content_provenance_mismatch"
  assure (!db.evidenceMismatch) "phase2_evidence_provenance_mismatch"
  assure (targetOwnedMismatchCount db.targets db.runs db.cursors == 0)
    "phase2_target_owned_provenance_mismatch"

/-! ### Candidates -/

structure Candidate where
  source : LegacySource
  account : Option LegacyAccount
  contract : Option OperationContract
  config : Object
  valid : Bool
  legacyCursorType : Option String

/-- The operation of an access method. -/
def mappedOperation (accessMethod : String) : Option String :=
  if accessMethod = "fake" then some "fake_sequence"
  else if accessMethod = "marketaux" then some "news_all"
  else if accessMethod = "finnhub" then some "quote"
  else if accessMethod = "eia" then some "electricity_retail_sales"
  else if accessMethod = "sec_edgar" then some "submissions_recent"
  else none

/-- The contract of an operation, and the options as its configuration. -/
def contractOf (registry : OperationRegistry) (accessMethod operation : String)
    (options : Object) : Result (OperationContract × Object) := do
  let contract ← registry.resolve accessMethod operation 1 1
  let config ← contract.validate options contract.batchCeiling 1 1
  pure (contract, config)

/-- `_candidate`. -/
def candidate (registry : OperationRegistry) (source : LegacySource)
    (account : Option LegacyAccount) : Result Candidate :=
  match mappedOperation source.accessMethod with
  | none => pure ⟨source, account, none, [], false, none⟩
  | some operation =>
      if account.isNone && source.accessMethod != "fake" then
        pure ⟨source, account, none, [], false, none⟩
      else
        let options := (account.map LegacyAccount.collectionOptions).getD []
        match contractOf registry source.accessMethod operation options with
        | .ok (contract, config) =>
            pure ⟨source, account, some contract, config, true,
              if account.isSome then contract.legacyCursorType else none⟩
        | .error raised =>
            if raised.isAny [.targetConfigError] then
              pure ⟨source, account, none, [], false, none⟩
            else .error raised

/-- The accounts of a source, or none. -/
def accountsOf (accounts : List LegacyAccount) (source : LegacySource) :
    List (Option LegacyAccount) :=
  let own := accounts.filter fun account => account.sourceId = source.id
  if own.isEmpty then [none] else own.map some

/-- The sources and the accounts in the order of their identifiers, each pair once. -/
def pairs (db : LegacyDatabase) : List (LegacySource × Option LegacyAccount) :=
  let accounts := db.accounts.insertionSort fun first second => first.id ≤ second.id
  (db.sources.insertionSort fun first second => first.id ≤ second.id).flatMap fun source =>
    (accountsOf accounts source).map fun account => (source, account)

/-- The candidates of the pairs, in their order. -/
def listCandidates (registry : OperationRegistry) (db : LegacyDatabase) :
    Except Phase2Failure (List Candidate) :=
  match (pairs db).mapM fun pair => candidate registry pair.1 pair.2 with
  | .ok candidates => .ok candidates
  | .error raised => .error (.raised raised)

/-- `_target_key`. -/
def targetKey (lower : String → String) (source : LegacySource) (account : Option LegacyAccount) :
    String :=
  let identity := match account with
    | some account => "account." ++ uuidText account.id
    | none => "source." ++ uuidText source.id
  lower ("legacy." ++ source.accessMethod ++ "." ++ identity)

/-- How many candidates have this account and this type of cursors. -/
def identityCount (candidates : List Candidate) (accountId : Uuid) (cursorType : String) : Nat :=
  candidates.countP fun candidate =>
    (candidate.account.map fun account => account.id) == some accountId &&
      candidate.legacyCursorType == some cursorType

/-- The target that has the old cursors of an account. -/
def ownerOf (targets : List LegacyTarget) (accountId : Uuid) (cursorType : String) :
    Option LegacyTarget :=
  targets.find? fun target =>
    target.sourceAccountId == some accountId && target.legacyCursorType == some cursorType

/-- A candidate whose old cursors are another's is blocked, and has none. -/
def settleIdentity (candidates : List Candidate) (targets : List LegacyTarget) (key : String)
    (candidate : Candidate) : Candidate :=
  match candidate.account, candidate.legacyCursorType with
  | some account, some cursorType =>
      if identityCount candidates account.id cursorType != 1 ||
          (ownerOf targets account.id cursorType).any fun owner => owner.targetKey != key then
        { candidate with valid := false, legacyCursorType := none }
      else candidate
  | _, _ => candidate

/-! ### Targets -/

/-- `candidate.source.schedule_seconds or 3600`. -/
def cadenceOf (source : LegacySource) : Int :=
  match source.scheduleSeconds with
  | none => 3600
  | some seconds => if seconds = 0 then 3600 else seconds

/-- The revision policy of an access method. -/
def revisionPolicyOf (accessMethod : String) : RevisionPolicy :=
  if accessMethod = "sec_edgar" then .reconcile
  else if accessMethod = "eia" then .safeReplace
  else .ignore

/-- `_build_target`. The columns that are not given have their defaults. -/
def buildTarget (candidate : Candidate) (key : String) (now : Int) (id : Uuid) : LegacyTarget :=
  match candidate.contract with
  | none =>
      { id := id
        targetKey := key
        sourceId := candidate.source.id
        sourceAccountId := candidate.account.map fun account => account.id
        operationKey := "unsupported"
        legacyCursorType := none
        operationConfigVersion := 1
        providerContractVersion := 1
        configRevision := 1
        operationConfig := []
        status := .blocked
        cadenceSeconds := cadenceOf candidate.source
        batchLimit := 1
        maxRequestsPerRun := 1
        maxPagesPerRun := 1
        maxResponseBytes := 1000000
        requestTimeoutSeconds := 30
        maxRuntimeSeconds := 120
        cursorStrategy := .strictIncremental
        cursorVersion := 1
        collectionMode := .incremental
        backfillPolicy := .disabled
        revisionPolicy := .ignore
        rateLimitGroup := "blocked:unsupported"
        priority := 100
        nextDueAt := now
        nextRetryAt := none
        lastAttemptAt := none
        lastSuccessAt := none
        consecutiveFailures := 0
        healthStatus := .blocked
        lastErrorCode := some "legacy_mapping_invalid"
        retiredAt := none }
  | some contract =>
      { id := id
        targetKey := key
        sourceId := candidate.source.id
        sourceAccountId := candidate.account.map fun account => account.id
        operationKey := contract.operationKey
        legacyCursorType := candidate.legacyCursorType
        operationConfigVersion := contract.operationConfigVersion
        providerContractVersion := contract.providerContractVersion
        configRevision := 1
        operationConfig := candidate.config
        status := if candidate.valid then .paused else .blocked
        cadenceSeconds := cadenceOf candidate.source
        batchLimit := contract.batchCeiling
        maxRequestsPerRun := 1
        maxPagesPerRun := 1
        maxResponseBytes := 1000000
        requestTimeoutSeconds := 30
        maxRuntimeSeconds := 120
        cursorStrategy := contract.cursorStrategy
        cursorVersion := 1
        collectionMode := contract.collectionMode
        backfillPolicy := .disabled
        revisionPolicy := revisionPolicyOf candidate.source.accessMethod
        rateLimitGroup := if candidate.source.accessMethod = "fake" then "fake:test"
          else candidate.source.accessMethod ++ ":default"
        priority := 100
        nextDueAt := now
        nextRetryAt := none
        lastAttemptAt := none
        lastSuccessAt := none
        consecutiveFailures := 0
        healthStatus := .unknown
        lastErrorCode := none
        retiredAt := none }

/-- `_assert_exact_target`: the fields that are compared are the same. -/
def isExactTarget (actual expected : LegacyTarget) : Bool :=
  actual.configRevision == 1 && actual.priority == 100 && actual.consecutiveFailures == 0 &&
    actual.targetKey == expected.targetKey &&
    actual.sourceId == expected.sourceId &&
    actual.sourceAccountId == expected.sourceAccountId &&
    actual.operationKey == expected.operationKey &&
    actual.legacyCursorType == expected.legacyCursorType &&
    actual.operationConfigVersion == expected.operationConfigVersion &&
    actual.providerContractVersion == expected.providerContractVersion &&
    (Json.obj actual.operationConfig).eq (.obj expected.operationConfig) &&
    actual.status == expected.status &&
    actual.cadenceSeconds == expected.cadenceSeconds &&
    actual.batchLimit == expected.batchLimit &&
    actual.maxRequestsPerRun == expected.maxRequestsPerRun &&
    actual.maxPagesPerRun == expected.maxPagesPerRun &&
    actual.maxResponseBytes == expected.maxResponseBytes &&
    actual.requestTimeoutSeconds == expected.requestTimeoutSeconds &&
    actual.maxRuntimeSeconds == expected.maxRuntimeSeconds &&
    actual.cursorStrategy == expected.cursorStrategy &&
    actual.cursorVersion == expected.cursorVersion &&
    actual.collectionMode == expected.collectionMode &&
    actual.backfillPolicy == expected.backfillPolicy &&
    actual.revisionPolicy == expected.revisionPolicy &&
    actual.rateLimitGroup == expected.rateLimitGroup &&
    actual.healthStatus == expected.healthStatus &&
    actual.nextRetryAt == expected.nextRetryAt &&
    actual.lastAttemptAt == expected.lastAttemptAt &&
    actual.lastSuccessAt == expected.lastSuccessAt &&
    actual.lastErrorCode == expected.lastErrorCode

/-- Two targets that no unique index allows: of one identifier, of one key, or with the old cursors
of one account. -/
def targetClashes (other target : LegacyTarget) : Bool :=
  other.id == target.id || other.targetKey == target.targetKey ||
    (target.sourceAccountId.isSome && other.sourceAccountId == target.sourceAccountId &&
      target.legacyCursorType.isSome && other.legacyCursorType == target.legacyCursorType)

/-- What a JSONB column holds: each key of an object once, and nothing that is not a number. -/
def isJsonb (config : Object) : Bool := Json.wellFormed (.obj config)

/-! ### The transaction -/

/-- `LegacyTargetPhase2Service`, with the clock, and the identifiers and guards of the database. -/
structure LegacyTargetPhase2Service where
  registry : OperationRegistry
  lower : String → String
  now : Nat → Int
  ids : Nat → Uuid
  guards : Guards

/-- The targets and the audit logs so far, and how many targets were created, were there and are
blocked. -/
structure Placed where
  targets : List LegacyTarget
  auditLogs : List AuditLog
  created : Nat
  existing : Nat
  blocked : Nat

/-- A count of one or none. -/
def countOf (condition : Bool) : Nat := if condition then 1 else 0

/-- `r1_phase2_target_created`. -/
def createdLog (target : LegacyTarget) (valid : Bool) : AuditLog where
  actorType := "system"
  actorId := none
  action := "r1_phase2_target_created"
  targetType := "collection_target"
  targetId := some target.id
  before := none
  after := [("status", .str target.status.value), ("mapping_valid", .bool valid)]

namespace LegacyTargetPhase2Service

variable (service : LegacyTargetPhase2Service)

/-- One candidate: its target is there and is the same, or is created. -/
def place (candidates : List Candidate) (placed : Placed) (candidate : Candidate) :
    Except Phase2Failure Placed :=
  let key := targetKey service.lower candidate.source candidate.account
  let candidate := settleIdentity candidates placed.targets key candidate
  let expected := buildTarget candidate key (service.now (placed.created + placed.existing))
    (service.ids placed.created)
  match placed.targets.find? fun target => target.targetKey == key with
  | some target =>
      if isExactTarget target expected then
        .ok { placed with
          existing := placed.existing + 1
          blocked := placed.blocked + countOf (target.status == .blocked) }
      else .error (.migration "phase2_existing_target_mismatch")
  | none =>
      if service.guards.target expected && isJsonb expected.operationConfig &&
          !placed.targets.any fun other => targetClashes other expected then
        .ok
          { targets := placed.targets ++ [expected]
            auditLogs := placed.auditLogs ++ [createdLog expected candidate.valid]
            created := placed.created + 1
            existing := placed.existing
            blocked := placed.blocked + countOf (expected.status == .blocked) }
      else .error .refused

end LegacyTargetPhase2Service

/-- The target is of the source and of the account of the run. -/
def runBelongs (run : Run) (target : LegacyTarget) : Bool :=
  run.sourceId == target.sourceId && run.sourceAccountId == target.sourceAccountId

/-- The target has the old cursors of the account. -/
def cursorBelongs (cursor : Cursor) (target : LegacyTarget) : Bool :=
  target.sourceAccountId == some cursor.sourceAccountId &&
    target.legacyCursorType == some cursor.cursorType

/-- `_assert_exact_backfill_candidates`: every row without a target belongs to one. -/
def assertExactBackfillCandidates (targets : List LegacyTarget) (runs : List Run)
    (cursors : List Cursor) : Except Phase2Failure Unit :=
  assure
    (runs.all (fun run => run.targetId.isSome || targets.countP (runBelongs run) == 1) &&
      cursors.all fun cursor =>
        cursor.targetId.isSome || targets.countP (cursorBelongs cursor) == 1)
    "phase2_backfill_candidate_not_unique"

/-- `UPDATE collection_runs`, of one row. -/
def adoptRun (targets : List LegacyTarget) (run : Run) : Run :=
  match run.targetId, targets.find? (runBelongs run) with
  | none, some target => { run with targetId := some target.id }
  | _, _ => run

/-- `UPDATE collection_cursors`, of one row. -/
def adoptCursor (targets : List LegacyTarget) (cursor : Cursor) : Cursor :=
  match cursor.targetId, targets.find? (cursorBelongs cursor) with
  | none, some target => { cursor with targetId := some target.id }
  | _, _ => cursor

/-- `_count_unmapped`, of the runs. -/
def unmappedRuns (runs : List Run) : Nat := runs.countP fun run => run.targetId.isNone

/-- `_count_unmapped`, of the cursors. -/
def unmappedCursors (cursors : List Cursor) : Nat :=
  cursors.countP fun cursor => cursor.targetId.isNone

/-- The runs an update changes. -/
def changesRun (targets : List LegacyTarget) (run : Run) : Bool :=
  run.targetId.isNone && targets.any (runBelongs run)

/-- The cursors an update changes. -/
def changesCursor (targets : List LegacyTarget) (cursor : Cursor) : Bool :=
  cursor.targetId.isNone && targets.any (cursorBelongs cursor)

/-- `r1_phase2_reconciliation`. -/
def reconciliationLog (report : Phase2Report) : AuditLog where
  actorType := "system"
  actorId := none
  action := "r1_phase2_reconciliation"
  targetType := "collection_target"
  targetId := none
  before := some [("expected_runs", .int report.expectedRuns),
    ("expected_cursors", .int report.expectedCursors)]
  after := [("created_count", .int report.createdCount),
    ("existing_count", .int report.existingCount),
    ("blocked_count", .int report.blockedCount),
    ("runs_backfilled", .int report.runsBackfilled),
    ("remaining_unmapped_runs", .int report.remainingUnmappedRuns),
    ("cursors_backfilled", .int report.cursorsBackfilled),
    ("remaining_unmapped_cursors", .int report.remainingUnmappedCursors),
    ("mismatched_target_owned_rows", .int report.mismatchedTargetOwnedRows),
    ("status", .str "reconciled")]

namespace LegacyTargetPhase2Service

variable (service : LegacyTargetPhase2Service)

/-- The rows without a target get theirs, and everything is counted once more. -/
def backfill (db : LegacyDatabase) (candidates : List Candidate) (placed : Placed) :
    Except Phase2Failure (Phase2Report × LegacyDatabase) := do
  assertExactBackfillCandidates placed.targets db.runs db.cursors
  let runs := db.runs.map (adoptRun placed.targets)
  let cursors := db.cursors.map (adoptCursor placed.targets)
  if db.runs.any (changesRun placed.targets) && !service.guards.runs db.runs runs ||
      db.cursors.any (changesCursor placed.targets) && !service.guards.cursors db.cursors cursors then
    .error .refused
  else
    let report : Phase2Report :=
      { sourceCount := db.sources.length
        accountCount := db.accounts.length
        candidateCount := candidates.length
        createdCount := placed.created
        existingCount := placed.existing
        blockedCount := placed.blocked
        expectedRuns := unmappedRuns db.runs
        runsBackfilled := db.runs.countP (changesRun placed.targets)
        remainingUnmappedRuns := unmappedRuns runs
        expectedCursors := unmappedCursors db.cursors
        cursorsBackfilled := db.cursors.countP (changesCursor placed.targets)
        remainingUnmappedCursors := unmappedCursors cursors
        mismatchedTargetOwnedRows := targetOwnedMismatchCount placed.targets runs cursors }
    assure
      (report.runsBackfilled == report.expectedRuns &&
        report.cursorsBackfilled == report.expectedCursors &&
        report.remainingUnmappedRuns == 0 && report.remainingUnmappedCursors == 0 &&
        report.mismatchedTargetOwnedRows == 0)
      "phase2_reconciliation_count_mismatch"
    pure (report,
      { db with
        targets := placed.targets
        runs := runs
        cursors := cursors
        auditLogs := placed.auditLogs ++ [reconciliationLog report] })

/-- What happens in the transaction. -/
def transaction (db : LegacyDatabase) : Except Phase2Failure (Phase2Report × LegacyDatabase) := do
  preflight db
  let candidates ← listCandidates service.registry db
  let placed ← candidates.foldlM (service.place candidates) ⟨db.targets, db.auditLogs, 0, 0, 0⟩
  service.backfill db candidates placed

/-- `LegacyTargetPhase2Service.run`: what is raised undoes the transaction. -/
def run (db : LegacyDatabase) : Except Phase2Failure Phase2Report × LegacyDatabase :=
  match service.transaction db with
  | .ok (report, db') => (.ok report, db')
  | .error failure => (.error failure, db)

end LegacyTargetPhase2Service

end NewsCollect.Collection
