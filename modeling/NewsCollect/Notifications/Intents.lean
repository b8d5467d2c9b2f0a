/-
**The intents of notifications, and how they are reconciled.**

An item of the content that is behind the watermark of the cutover, and that the policy is about, has
an intent: a notification that is pending. Where an intent has not been made, an entry of the audit
asks for its recovery. A pass of the reconciler makes the intents that are asked for, and then those of
the items that have none, all in one transaction.

* `IntentWatermark`, `judge`, `createPendingIntent`: the watermark, the policy, an intent.
* `NotificationIntentReconciler.reconcile`: a pass, as a program.
* `Store`, `execute`: the tables, with what the transactions in progress have written, and one
  statement.
* `prepareCutoverWatermark`: the watermark is persisted once.
* `reconcilers`: the passes as a system, among what others do to the tables.
-/

import NewsCollect.Evidence.Rows
import NewsCollect.Library.Drafts
import NewsCollect.Notifications.Delivery
import NewsCollect.SafeProjection.Contracts

namespace NewsCollect.Notifications

open Calendar Drafting Interleaving SafeProjection Text
open Collection (Uuid uuidText Source AuthorizationStatus)
open Evidence (ContentItem ContentKind)

/-! ### The watermark -/

/-- The value of a hexadecimal digit: a decimal digit of any script, or one of six letters. -/
def hexValue (c : Char) : Option Nat :=
  if 97 ≤ c.toNat ∧ c.toNat ≤ 102 then some (c.toNat - 87)
  else if 65 ≤ c.toNat ∧ c.toNat ≤ 70 then some (c.toNat - 55)
  else decimalValue c

/-- The number of a list of hexadecimal digits. -/
def hexNumber (text : List Char) : Option Nat :=
  (text.mapM hexValue).map fun digits => digits.foldl (fun number digit => number * 16 + digit) 0

/-- What `int` leaves out before and after a number: the spaces, but for four separators if the text
is of ASCII alone. -/
def isBlank (ascii : Bool) (c : Char) : Bool :=
  isSpace c && !(ascii && 28 ≤ c.toNat && c.toNat ≤ 31)

/-- The text after a plus sign. -/
def unsigned : List Char → List Char
  | '+' :: text => text
  | text => text

/-- The text after the prefix of a hexadecimal number, which one underscore may follow. -/
def unprefixed : List Char → List Char
  | zero :: mark :: text =>
      if decimalValue zero = some 0 ∧ (mark = 'x' ∨ mark = 'X') then
        if text.head? = some '_' then text.tail else text
      else zero :: mark :: text
  | text => text

/-- `int(text, 16)`, of a text without a minus sign: single underscores may part the digits. -/
def hexInt (text : List Char) : Option Nat :=
  let blank := isBlank (text.all fun c => c.toNat < 128)
  let digits := unprefixed (unsigned ((text.dropWhile blank).rdropWhile blank))
  if (digits.splitOn '_').any List.isEmpty then none else hexNumber (digits.filter (· != '_'))

/-- `text.replace(word, "")`, with so many characters that are left out already. -/
def erased (word : List Char) : Nat → List Char → List Char
  | _, [] => []
  | skipped + 1, _ :: rest => erased word skipped rest
  | 0, c :: rest =>
      if word.isPrefixOf (c :: rest) then erased word (word.length - 1) rest
      else c :: erased word 0 rest

/-- A brace. -/
def isBrace (c : Char) : Bool := c == '\x7b' || c == '\x7d'

/-- `UUID(text)`. -/
def uuidOf (text : List Char) : Option Uuid :=
  let plain := erased "uuid:".toList 0 (erased "urn:".toList 0 text)
  let digits := ((plain.dropWhile isBrace).rdropWhile isBrace).filter (· != '-')
  if digits.length = 32 then hexInt digits else none

/-- The place of a content item: when it was created, and its identifier. -/
structure IntentWatermark where
  createdAt : Int
  contentItemId : Uuid
deriving DecidableEq, Repr

namespace IntentWatermark

/-- `left < right`. -/
def before (left right : IntentWatermark) : Bool :=
  left.createdAt < right.createdAt ||
    left.createdAt == right.createdAt && left.contentItemId < right.contentItemId

section Order

variable {left right : IntentWatermark}

/-- A place, in the order of places. -/
def rank (place : IntentWatermark) : Int ×ₗ Nat := toLex (place.createdAt, place.contentItemId)

theorem rank_injective : Function.Injective rank := by
  rintro ⟨first, id⟩ ⟨second, id'⟩ same
  obtain ⟨rfl, rfl⟩ := Prod.mk.inj (toLex.injective same)
  rfl

theorem before_iff : left.before right = true ↔ left.rank < right.rank := by
  rw [rank, rank, Prod.Lex.toLex_lt_toLex, before, Bool.or_eq_true, Bool.and_eq_true,
    decide_eq_true_eq, decide_eq_true_eq, beq_iff_eq]

theorem not_before_iff : left.before right = false ↔ right.rank ≤ left.rank := by
  rw [Bool.eq_false_iff, ne_eq, before_iff, not_lt]

end Order

def encode (watermark : IntentWatermark) : String :=
  String.ofList (isoFormat watermark.createdAt 0 ++ '|' :: (uuidText watermark.contentItemId).toList)

def decode (value : String) : Result IntentWatermark :=
  let timestamp := value.toList.takeWhile (· != '|')
  match value.toList.dropWhile (· != '|') with
  | [] => raise .valueError "notification_cutover_watermark_invalid"
  | _ :: identity =>
      match fromIsoFormat timestamp, uuidOf identity with
      | some (here, some offset), some id => .ok ⟨here - offset, id⟩
      | _, _ => raise .valueError "notification_cutover_watermark_invalid"

end IntentWatermark

/-! ### Rows -/

/-- A content item, with when its row was created. -/
structure ContentRow extends ContentItem where
  createdAt : Int
deriving DecidableEq

def ContentRow.position (content : ContentRow) : IntentWatermark := ⟨content.createdAt, content.id⟩

/-- The order of a scan. -/
def ContentRow.precedes (left right : ContentRow) : Bool := !right.position.before left.position

/-- What an entry of the audit says. -/
structure AuditEntry where
  actorType : String
  actorId : Option String
  action : String
  targetType : String
  targetId : Option Uuid
  after : List (String × String)
deriving DecidableEq

structure AuditLog extends AuditEntry where
  id : Uuid
  createdAt : Int
deriving DecidableEq

/-- The identifier of an entry, as a text. -/
def AuditLog.key (row : AuditLog) : String := uuidText row.id

def AuditLog.precedes (left right : AuditLog) : Bool :=
  left.createdAt < right.createdAt || left.createdAt == right.createdAt && left.id ≤ right.id

def policyVersion : String := "1"

def scanAction : String := "notification_intent_candidate_scanned_v" ++ policyVersion

def recoveryAction : String := "notification_intent_recovery"

def resolvedAction : String := "notification_intent_recovery_resolved"

/-- `record_intent_recovery`. -/
def recoveryEntry (contentItemId : Uuid) : AuditEntry where
  actorType := "system"
  actorId := none
  action := recoveryAction
  targetType := "content_item"
  targetId := some contentItemId
  after := [("policy_id", policyId), ("policy_version", policyVersion), ("status", "pending"),
    ("safe_error", "notification_intent_pending_recovery")]

/-- `_resolve_recovery`. -/
def resolutionEntry (recovery : AuditLog) (status : String) : AuditEntry where
  actorType := "system"
  actorId := some (uuidText recovery.id)
  action := resolvedAction
  targetType := "content_item"
  targetId := recovery.targetId
  after := [("policy_id", policyId), ("policy_version", policyVersion), ("status", status)] ++
    if status = "blocked" then [("safe_error", "notification_candidate_invalid")] else []

/-- `_record_scanned_candidate`. -/
def scannedEntry (contentItemId : Uuid) : AuditEntry where
  actorType := "system"
  actorId := none
  action := scanAction
  targetType := "content_item"
  targetId := some contentItemId
  after := [("policy_id", policyId), ("policy_version", policyVersion),
    ("status", "not_applicable"), ("safe_error", "notification_candidate_invalid")]

/-! ### The policy -/

/-- `_PROVIDERS`. -/
def intentProviders : List String := ["marketaux", "finnhub", "eia", "sec_edgar"]

/-- `_POLICY_KINDS`. -/
def policyKinds (provider : String) : List ContentKind :=
  if provider = "finnhub" then [.article]
  else if provider = "marketaux" then [.article, .feedEntry]
  else if provider = "sec_edgar" then [.officialRelease]
  else []

/-- `_SECRET`. -/
def secretWords : List String :=
  ["apikey", "api_key", "api-key", "apitoken", "api_token", "api-token", "authorization", "token",
    "secret", "password"]

/-- `_safe_text`. -/
def safeText : Option String → Bool
  | none => false
  | some value => !(strip value.toList).isEmpty && !containsAny secretWords value.toList

/-- `_safe_url`. -/
def safeUrl (library : StandardLibrary) : Option String → Result Bool
  | none => .ok true
  | some value =>
      if containsAny secretWords value.toList then .ok false
      else
        (library.urlsplit value).map fun parsed =>
          (parsed.scheme == "http" || parsed.scheme == "https") &&
            parsed.hostname.any (· != "") && parsed.username.isNone

/-- A source that may be used. -/
def usable (source : Source) : Bool :=
  source.enabled && (source.authorizationStatus == .authorized ||
    source.authorizationStatus == .implemented)

/-- The key of the operation, in the metadata of an item. -/
def isCompanyNews (content : ContentRow) : Bool :=
  match content.metadata.get "operation_key" with
  | .str key => key == "company_news"
  | _ => false

/-- **The policy**, on an item and its source. The address is looked at last. -/
def judge (library : StandardLibrary) (content : ContentRow) (source : Source) :
    Result (Option (ContentRow × String)) :=
  let provider := source.accessMethod
  if !intentProviders.contains provider || !usable source ||
      !(policyKinds provider).contains content.contentKind ||
      (provider == "finnhub" && !isCompanyNews content) || content.sourcePublishedAt.isNone ||
      !safeText content.title then .ok none
  else
    (safeUrl library content.canonicalUrl).map fun safe =>
      if safe then some (content, provider) else none

/-- What a scan is looking for, by the item and its source. -/
def scannable (content : ContentRow) (source : Source) : Bool :=
  usable source &&
    (source.accessMethod == "finnhub" && content.contentKind == .article && isCompanyNews content ||
      source.accessMethod == "marketaux" &&
        (content.contentKind == .article || content.contentKind == .feedEntry) ||
      source.accessMethod == "sec_edgar" && content.contentKind == .officialRelease)

/-! ### The reconciler -/

/-- What a pass asks for. -/
inductive Statement where
  | now
  | watermark
  | recoveries (limit : Nat)
  | candidate (contentItemId : Uuid)
  | scan (cutover : IntentWatermark) (limit : Nat)
  | insertIntent (now : Int) (contentItemId : Uuid) (provider : String)
  | add (entry : AuditEntry)
  | commit
  | rollback

/-- What each is answered with, unless it raises. -/
@[reducible] def Statement.Reply : Statement → Type
  | .now => Int
  | .watermark => Option String
  | .recoveries _ => List AuditLog
  | .candidate _ => Option (ContentRow × Source)
  | .scan _ _ => List Uuid
  | .insertIntent _ _ _ => Option Uuid
  | .add _ => Unit
  | .commit => Unit
  | .rollback => Unit

abbrev statements : Signature := .raising Statement.Reply PyError

abbrev Transaction : Type → Type := ExceptT PyError (Program statements)

/-- Ask for one statement. -/
abbrev query (statement : Statement) : Transaction statement.Reply := request statement

/-- `load_cutover_watermark`. -/
def loadCutoverWatermark : Transaction (Option IntentWatermark) := do
  match ← query .watermark with
  | none => pure none
  | some value => do
      let watermark ← compute (IntentWatermark.decode value)
      pure (some watermark)

/-- `_candidate`. -/
def candidate (library : StandardLibrary) (contentItemId : Uuid) :
    Transaction (Option (ContentRow × String)) := do
  match ← query (.candidate contentItemId) with
  | none => pure none
  | some (content, source) => do
      match ← loadCutoverWatermark with
      | none => pure none
      | some watermark =>
          if watermark.before content.position then compute (judge library content source)
          else pure none

/-- `create_pending_intent`. -/
def createIntent (library : StandardLibrary) (contentItemId : Uuid) : Transaction (Option Uuid) := do
  match ← candidate library contentItemId with
  | none => pure none
  | some (_, provider) => do
      let current ← query .now
      query (.insertIntent current contentItemId provider)

structure ReconcileReport where
  scanned : Nat
  created : Nat
  resolved : Nat
deriving DecidableEq, Repr

namespace NotificationIntentReconciler

/-- One recovery: it is blocked, if its item is no candidate. -/
def recover (library : StandardLibrary) (recovery : AuditLog) : Transaction Unit := do
  match recovery.targetId with
  | none => query (.add (resolutionEntry recovery "blocked"))
  | some contentItemId => do
      match ← candidate library contentItemId with
      | none => query (.add (resolutionEntry recovery "blocked"))
      | some _ => do
          let _ ← createIntent library contentItemId
          query (.add (resolutionEntry recovery "resolved"))

def recoverEach (library : StandardLibrary) (report : ReconcileReport) :
    List AuditLog → Transaction ReconcileReport
  | [] => pure report
  | recovery :: recoveries => do
      recover library recovery
      recoverEach library
        { report with scanned := report.scanned + 1, resolved := report.resolved + 1 } recoveries

/-- The items without an intent: one that cannot have one is marked. -/
def scanEach (library : StandardLibrary) (report : ReconcileReport) :
    List Uuid → Transaction ReconcileReport
  | [] => pure report
  | contentItemId :: ids => do
      match ← createIntent library contentItemId with
      | some _ =>
          scanEach library
            { report with scanned := report.scanned + 1, created := report.created + 1 } ids
      | none => do
          query (.add (scannedEntry contentItemId))
          scanEach library { report with scanned := report.scanned + 1 } ids

/-- A pass, without its transaction. -/
def pass (library : StandardLibrary) (limit : Nat) : Transaction ReconcileReport := do
  match ← loadCutoverWatermark with
  | none => pure ⟨0, 0, 0⟩
  | some cutover => do
      let recoveries ← query (.recoveries limit)
      let report ← recoverEach library ⟨0, 0, 0⟩ recoveries
      let remaining := limit - report.scanned
      if remaining = 0 then pure report
      else
        let ids ← query (.scan cutover remaining)
        scanEach library report ids

/-- `session.begin()`: the statements are committed, unless one of them raises. -/
def inTransaction {α : Type} (body : Transaction α) : Transaction α := do
  match ← attempt body with
  | .ok value => do
      query .commit
      pure value
  | .error raised => do
      query .rollback
      throw raised

/-- `reconcile`. -/
def reconcile (library : StandardLibrary) (limit : Int) : Transaction ReconcileReport := do
  compute (require (1 ≤ limit && limit ≤ 500) .valueError "notification_reconcile_limit_invalid")
  inTransaction (pass library limit.toNat)

end NotificationIntentReconciler

/-! ### The tables -/

/-- **The tables**, with what the transactions in progress have written, the rows they have locked,
and what their sessions have read. -/
structure Store where
  contents : List ContentRow
  sources : List Source
  metadata : Option String
  notifications : Drafts Notification.dedupKey
  audit : Drafts AuditLog.key
  auditLocks : List (Nat × String)
  contentLocks : List (Nat × Uuid)
  kept : List (Nat × ContentRow × Source)
  draws : Nat → Uuid
  drawn : Nat
  distinct : (contents.map fun content => content.id).Nodup

namespace Store

variable (store : Store) (who : Nat)

/-- The identifier that is drawn next. -/
def fresh : Uuid := store.draws store.drawn

/-- An item, with its source. -/
def joined (id : Uuid) : Option (ContentRow × Source) :=
  (Table.find (fun content : ContentRow => content.id) store.contents id).bind fun content =>
    (Table.find Source.id store.sources content.sourceId).map fun source => (content, source)

/-- An entry that asks for a recovery, and that no entry has resolved. -/
def unresolved (rows : List AuditLog) (row : AuditLog) : Bool :=
  row.action == recoveryAction &&
    !rows.any fun other => other.action == resolvedAction && other.actorId == some (uuidText row.id)

/-- The item has a notification of the policy. -/
def notified (rows : List Notification) (id : Uuid) : Bool :=
  rows.any fun row =>
    row.contentItemId == some id && row.policyRuleId == policyId && row.channel == .telegramPush

/-- The item has been marked by a scan. -/
def marked (rows : List AuditLog) (id : Uuid) : Bool :=
  rows.any fun row => row.action == scanAction && row.targetId == some id

/-- The items that a scan is looking for. -/
def waiting (cutover : IntentWatermark) (content : ContentRow) : Bool :=
  cutover.before content.position && !notified (store.notifications.seen who) content.id &&
    !marked (store.audit.seen who) content.id &&
    (Table.find Source.id store.sources content.sourceId).any (scannable content)

/-- The keys that another transaction has locked. -/
def lockedBy {K : Type} (locks : List (Nat × K)) : List K :=
  (locks.filter fun lock => lock.1 ≠ who).map Prod.snd

/-- The items that a notification of another transaction in progress refers to. -/
def referred : List Uuid :=
  store.notifications.all.filterMap fun draft =>
    if Drafts.visible (some who) draft then none else draft.row.contentItemId

/-- What a pass takes of the recoveries. -/
def takenRecoveries (limit : Nat) : List AuditLog :=
  Table.pick AuditLog.key (unresolved (store.audit.seen who)) AuditLog.precedes limit
    (lockedBy who store.auditLocks) (store.audit.seen who)

/-- What a pass takes of the items. -/
def takenContents (cutover : IntentWatermark) (limit : Nat) : List ContentRow :=
  Table.pick (fun content => content.id) (store.waiting who cutover) ContentRow.precedes limit
    (lockedBy who store.contentLocks ++ store.referred who) store.contents

/-- The transaction is over: its locks are released, and its session has read nothing. -/
def released : Store :=
  { store with
    auditLocks := store.auditLocks.filter fun lock => lock.1 ≠ who
    contentLocks := store.contentLocks.filter fun lock => lock.1 ≠ who
    kept := store.kept.filter fun entry => entry.1 ≠ who }

def committed : Store :=
  { store.released who with
    notifications := store.notifications.commit who
    audit := store.audit.commit who }

def undone : Store :=
  { store.released who with
    notifications := store.notifications.rollback who
    audit := store.audit.rollback who }

/-- What a session has kept of an item, and of a source. -/
def keptContent (id : Uuid) : Option ContentRow :=
  (store.kept.find? fun entry => entry.1 == who && entry.2.1.id == id).map fun entry => entry.2.1

def keptSource (id : Uuid) : Option Source :=
  (store.kept.find? fun entry => entry.1 == who && entry.2.2.id == id).map fun entry => entry.2.2

/-- An item that is read. A session that has kept the item, or the source, does not load it again. -/
def readCandidate (id : Uuid) (content source : Bool) : Option (ContentRow × Source) × Store :=
  match store.joined id with
  | none => (none, store)
  | some current =>
      let read := (if content then (store.keptContent who id).getD current.1 else current.1,
        if source then (store.keptSource who current.2.id).getD current.2 else current.2)
      (some read, { store with kept := (who, read) :: store.kept })

/-- `on_conflict_do_nothing`: an intent, unless there is a notification of its key. It waits for a
transaction that has locked the item. -/
def insertIntent (now : Int) (contentItemId : Uuid) (provider : String) :
    Option (Result (Option Uuid) × Store) :=
  let draft := ⟨pendingRow now store.fresh contentItemId provider, some who, false⟩
  match store.notifications.insert draft with
  | none => none
  | some (false, _) => some (.ok none, store)
  | some (true, notifications) =>
      if store.notifications.all.any fun other => other.row.id == store.fresh then
        some (raise .sqlAlchemyError "notifications_pkey", store.undone who)
      else if contentItemId ∈ lockedBy who store.contentLocks then none
      else
        some (.ok (some store.fresh),
          { store with notifications := notifications, drawn := store.drawn + 1 })

/-- A new entry of the audit. -/
def addEntry (now : Int) (entry : AuditEntry) : Option (Result Unit × Store) :=
  match store.audit.insert ⟨⟨entry, store.fresh, now⟩, some who, false⟩ with
  | none => none
  | some (false, _) => some (raise .sqlAlchemyError "audit_logs_pkey", store.undone who)
  | some (true, audit) =>
      some (.ok (), { store with audit := audit, drawn := store.drawn + 1 })

end Store

/-- What the environment decides: that a statement is made, at which time, and whether an item or a
source is one that the session has kept; that the database fails; or that it fails after a commit. -/
inductive Turn where
  | proceed (now : Int) (content source : Bool)
  | fault
  | lost

/-- **One statement.** -/
def execute (store : Store) (who : Nat) (statement : Statement) (turn : Turn) :
    Option (Result statement.Reply × Store) :=
  match turn, statement with
  | .fault, _ => some (raise .operationalError "", store.undone who)
  | .lost, .commit => some (raise .operationalError "", store.committed who)
  | .lost, _ => none
  | .proceed now _ _, .now => some (.ok now, store)
  | .proceed _ _ _, .watermark => some (.ok store.metadata, store)
  | .proceed _ _ _, .recoveries limit =>
      let taken := store.takenRecoveries who limit
      some (.ok taken,
        { store with auditLocks := store.auditLocks ++ taken.map fun row => (who, row.key) })
  | .proceed _ content source, .candidate id =>
      let (read, after) := store.readCandidate who id content source
      some (.ok read, after)
  | .proceed _ _ _, .scan cutover limit =>
      let ids := (store.takenContents who cutover limit).map fun content => content.id
      some (.ok ids, { store with contentLocks := store.contentLocks ++ ids.map fun id => (who, id) })
  | .proceed _ _ _, .insertIntent now id provider => store.insertIntent who now id provider
  | .proceed now _ _, .add entry => store.addEntry who now entry
  | .proceed _ _ _, .commit => some (.ok (), store.committed who)
  | .proceed _ _ _, .rollback => some (.ok (), store.undone who)

/-! ### The cutover -/

/-- What the audit of the authority reports, as far as the cutover asks. -/
structure AuthorityAudit where
  eligibleCount : Nat
  runningRuns : Nat
  safeErrors : List String

/-- Nothing that it reports blocks the cutover. -/
def AuthorityAudit.passes (report : AuthorityAudit) : Bool :=
  report.runningRuns = 0 && report.safeErrors.isEmpty && report.eligibleCount ≠ 0

/-- The later of two places. -/
def IntentWatermark.later (left right : IntentWatermark) : IntentWatermark :=
  if left.before right then right else left

/-- `cutover_watermark_candidate`: the newest item. -/
def cutoverWatermarkCandidate (store : Store) : Option IntentWatermark :=
  (store.contents.map ContentRow.position).foldl
    (fun newest place => some (newest.elim place fun other => other.later place)) none

/-- `_persist_cutover_watermark`: whether it has been persisted, and the tables after it. -/
def persistCutoverWatermark (store : Store) (watermark : IntentWatermark) : Bool × Store :=
  match store.metadata with
  | none => (true, { store with metadata := some watermark.encode })
  | some _ => (false, store)

/-- `prepare_cutover_watermark`, with the newest item read before. -/
def prepareCutoverWatermark (report : AuthorityAudit) (newest : Option IntentWatermark)
    (store : Store) : Result (Bool × Store) := do
  require report.passes .runtimeError "cutover_authority_audit_blocked"
  let candidate ← orRaise newest .runtimeError "cutover_watermark_candidate_missing"
  match store.metadata with
  | none => pure (persistCutoverWatermark store candidate)
  | some text => do
      let existing ← IntentWatermark.decode text
      require (existing = candidate) .runtimeError "cutover_watermark_immutable"
      pure (false, store)

/-! ### The system -/

/-- What others do to the tables, in transactions of their own: the content and the sources are
written, the watermark is persisted unless there is one, a recovery is asked for, a notification is
inserted by another writer unless there is one of its key, or is delivered. -/
inductive Writing where
  | content (row : ContentRow)
  | edit (row : ContentRow)
  | sources (rows : List Source)
  | watermark (watermark : IntentWatermark)
  | recovery (now : Int) (contentItemId : Uuid)
  | notification (status : NotificationStatus) (now : Int) (provider : String) (contentItemId : Uuid)
  | delivery (id : Uuid) (status : NotificationStatus) (scheduledAt sentAt : Option Int)
      (failureCode : Option String) (retryCount : Nat)

/-- An item whose columns are written: it stays the item it is. -/
def editedRow (row old : ContentRow) : ContentRow :=
  { row with id := old.id, sourceId := old.sourceId, createdAt := old.createdAt }

/-- A notification that has been delivered, or has not. -/
def deliveredRow (id : Uuid) (status : NotificationStatus) (scheduledAt sentAt : Option Int)
    (failureCode : Option String) (retryCount : Nat) (row : Notification) : Notification :=
  if row.id = id then { row with status, scheduledAt, sentAt, failureCode, retryCount } else row

/-- **What others do.** A write waits for the transactions that have locked its rows. -/
def write (store : Store) : Writing → Option Store
  | .content row =>
      if free : Table.find (fun content : ContentRow => content.id) store.contents row.id = none then
        some { store with
          contents := store.contents ++ [row]
          distinct := Table.nodup_append _ store.distinct free }
      else none
  | .edit row =>
      if row.id ∈ store.contentLocks.map Prod.snd then none
      else
        some { store with
          contents := Table.modify (fun content => content.id) store.contents row.id (editedRow row)
          distinct := by
            have same := @Table.map_key_modify _ _ _ (fun content : ContentRow => content.id)
              (editedRow row) (fun _ => rfl) store.contents row.id
            rw [same]
            exact store.distinct }
  | .sources rows => some { store with sources := rows }
  | .watermark watermark => some (persistCutoverWatermark store watermark).2
  | .recovery now contentItemId =>
      match store.audit.insert ⟨⟨recoveryEntry contentItemId, store.fresh, now⟩, none, true⟩ with
      | some (true, audit) => some { store with audit := audit, drawn := store.drawn + 1 }
      | _ => none
  | .notification status now provider contentItemId =>
      if contentItemId ∈ store.contentLocks.map Prod.snd then none
      else
        let row := { pendingRow now store.fresh contentItemId provider with status := status }
        match store.notifications.insert ⟨row, none, true⟩ with
        | some (_, notifications) =>
            some { store with notifications := notifications, drawn := store.drawn + 1 }
        | none => none
  | .delivery id status scheduledAt sentAt failureCode retryCount =>
      some { store with
        notifications := store.notifications.amend
          (deliveredRow id status scheduledAt sentAt failureCode retryCount) fun row => by
            unfold deliveredRow
            split
            · rfl
            · rfl }

/-- **The passes as a system.** A pass that is lost is rolled back. -/
def reconcilers (library : StandardLibrary) :
    System statements (Result ReconcileReport) Store Turn Int Writing where
  program limit := NotificationIntentReconciler.reconcile library limit
  accept store _ := some store
  exec := execute
  crash store who := store.undone who
  env := write

end NewsCollect.Notifications
