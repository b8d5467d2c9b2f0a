/-
**Writing evidence.**

A request is checked, and its row is looked for by its hash and by its identity. A row that is not
there is inserted in a savepoint; where the database refuses it, the rows are looked at once more.
The transaction is the caller's. Between two statements other transactions may commit.

* `evidenceValues`, `equivalent`: the row of a request, and the fields that are compared.
* `validateProvenance`, `classifyExisting`, `writeOne`: what becomes of a request.
* `Session`, `Others`, `Performs`: a transaction, the others, and how a statement is answered.
-/

import NewsCollect.Evidence.Linking
import NewsCollect.Evidence.Orchestration
import NewsCollect.Library.Among

namespace NewsCollect.Evidence

open Collection Interleaving Providers SafeProjection

/-! ### Outcomes -/

inductive EvidenceWriteStatus where
  | inserted
  | existing
  | duplicate
  | blocked
  | invalid
  | failed
deriving DecidableEq, Repr

structure EvidenceWriteError where
  code : String
  field : Option String
  safeMessage : String
  opaqueReference : Option String := none
deriving DecidableEq, Repr

structure EvidenceWriteOutcome where
  status : EvidenceWriteStatus
  evidenceItemId : Option Uuid
  provider : String
  providerItemHash : String
  providerItemId : Option String
  rawItemId : Uuid
  errors : List EvidenceWriteError := []
deriving DecidableEq, Repr

/-- `_request_outcome`. -/
def requestOutcome (request : EvidenceWriteRequest) (status : EvidenceWriteStatus)
    (evidenceItemId : Option Uuid) (errors : List EvidenceWriteError) : EvidenceWriteOutcome where
  status := status
  evidenceItemId := evidenceItemId
  provider := request.envelope.provider.value
  providerItemHash := request.envelope.providerItemHash.getD ""
  providerItemId := request.envelope.providerItemId
  rawItemId := request.rawItemId
  errors := errors

/-- `_existing_outcome`. -/
def existingOutcome (request : EvidenceWriteRequest) (item : EvidenceItem) :
    EvidenceWriteOutcome where
  status := .existing
  evidenceItemId := some item.id
  provider := item.provider
  providerItemHash := item.providerItemHash
  providerItemId := item.providerItemId
  rawItemId := request.rawItemId

/-- `_conflict_outcome`. -/
def conflictOutcome (request : EvidenceWriteRequest) (code : String) : EvidenceWriteOutcome :=
  let field := if code = "provider_hash_conflict" then "provider_item_hash" else "provider_item_id"
  requestOutcome request .failed none [⟨code, some field, "provider_identity_conflict", none⟩]

/-- `reference_not_found`. -/
def referenceNotFound (field : String) (reference : Uuid) : EvidenceWriteError :=
  ⟨"reference_not_found", some field, "reference_not_found", some (uuidText reference)⟩

/-- `_provenance_mismatch`. -/
def provenanceMismatch (field : String) (reference : Uuid) : EvidenceWriteError :=
  ⟨"provenance_mismatch", some field, "provenance_check_failed", some (uuidText reference)⟩

/-! ### The row of a request -/

/-- `asdict(error)` and `_stored_error`. -/
def storedError (code : String) (field : Option String) (safeMessage : String) : Json :=
  .obj [("code", .str code), ("field", textOrNull field), ("safe_message", .str safeMessage)]

/-- What is written in place of an unsafe reference. -/
def unsafeError : EvidenceWriteError :=
  ⟨"raw_payload_reference_unsafe", some "raw_payload_reference", "unsafe_reference_removed", none⟩

/-- What is written of an envelope: its reference, its status and its errors. -/
structure Sanitized where
  rawReference : Option String
  processingStatus : ProcessingStatus
  storedErrors : List Json
  writeErrors : List EvidenceWriteError

/-- The errors of an envelope, as they are stored. -/
def storedErrors (envelope : CommonEvidenceEnvelope) : List Json :=
  envelope.errors.map fun error => storedError error.code error.field error.safeMessage

/-- An unsafe reference is removed, and the evidence is blocked. -/
def sanitized (library : StandardLibrary) (envelope : CommonEvidenceEnvelope) : Sanitized :=
  if validateRawPayloadReference library envelope.rawPayloadReference = [] then
    ⟨envelope.rawPayloadReference, envelope.processingStatus, storedErrors envelope, []⟩
  else
    ⟨none, .blocked, storedErrors envelope ++
      [storedError unsafeError.code unsafeError.field unsafeError.safeMessage], [unsafeError]⟩

/-- `_validated_copy`. -/
def validatedCopy (envelope : CommonEvidenceEnvelope) (clean : Sanitized) : CommonEvidenceEnvelope :=
  { envelope with
    rawPayloadReference := clean.rawReference
    processingStatus := clean.processingStatus }

/-- The instant of a time with an offset. -/
def utcInstant (time : Datetime) : Int := time.1 - time.2

/-- `asdict(content_presence)`. -/
def ContentPresence.object (presence : ContentPresence) : Object :=
  [("has_title", .bool presence.hasTitle), ("has_body", .bool presence.hasBody),
    ("has_url", .bool presence.hasUrl), ("has_snippet", .bool presence.hasSnippet),
    ("has_description", .bool presence.hasDescription)]

/-- `asdict(numeric_presence)`. -/
def NumericPresence.object (presence : NumericPresence) : Object :=
  [("has_numeric_value", .bool presence.hasNumericValue),
    ("numeric_field_count", .int presence.numericFieldCount),
    ("nullable_allowed", .bool presence.nullableAllowed)]

/-- `_evidence_values`: the row, but for the identifier the database gives it. A request whose
envelope is accepted has a hash. -/
def evidenceValues (request : EvidenceWriteRequest) (clean : Sanitized) (id : Uuid) :
    EvidenceItem where
  id := id
  evidenceVersion := request.envelope.evidenceVersion
  provider := request.envelope.provider.value
  providerItemType := request.envelope.providerItemType.value
  evidenceKind := request.envelope.evidenceKind.value
  sourceType := request.envelope.sourceType.value
  sourceId := request.sourceId
  sourceAccountId := request.sourceAccountId
  rawItemId := request.rawItemId
  contentItemId := request.contentItemId
  providerItemId := request.envelope.providerItemId
  providerItemHash := request.envelope.providerItemHash.getD ""
  eventTime := request.envelope.eventTime.map utcInstant
  observedAt := utcInstant request.envelope.observedAt
  accessLevel := request.envelope.accessLevel.value
  processingStatus := clean.processingStatus.value
  officialSourceFlag := request.envelope.flags.officialSource
  marketDataFlag := request.envelope.flags.marketData
  disclosureFlag := request.envelope.flags.disclosure
  newsSignalFlag := request.envelope.flags.newsSignal
  contentPresence := request.envelope.contentPresence.object
  numericPresence := request.envelope.numericPresence.object
  entityRefs := request.envelope.entityRefs.map .str
  assetRefs := request.envelope.assetRefs.map .str
  topicRefs := request.envelope.topicRefs.map .str
  rawPayloadReference := clean.rawReference
  errors := clean.storedErrors

/-- `_equivalent`: every field is the same but the identifier and the time it was observed at. -/
def equivalent (item values : EvidenceItem) : Bool :=
  item.evidenceVersion == values.evidenceVersion &&
    item.provider == values.provider &&
    item.providerItemType == values.providerItemType &&
    item.evidenceKind == values.evidenceKind &&
    item.sourceType == values.sourceType &&
    item.sourceId == values.sourceId &&
    item.sourceAccountId == values.sourceAccountId &&
    item.rawItemId == values.rawItemId &&
    item.contentItemId == values.contentItemId &&
    item.providerItemId == values.providerItemId &&
    item.providerItemHash == values.providerItemHash &&
    item.eventTime == values.eventTime &&
    item.accessLevel == values.accessLevel &&
    item.processingStatus == values.processingStatus &&
    item.officialSourceFlag == values.officialSourceFlag &&
    item.marketDataFlag == values.marketDataFlag &&
    item.disclosureFlag == values.disclosureFlag &&
    item.newsSignalFlag == values.newsSignalFlag &&
    (Json.obj item.contentPresence).eq (.obj values.contentPresence) &&
    (Json.obj item.numericPresence).eq (.obj values.numericPresence) &&
    (Json.arr item.entityRefs).eq (.arr values.entityRefs) &&
    (Json.arr item.assetRefs).eq (.arr values.assetRefs) &&
    (Json.arr item.topicRefs).eq (.arr values.topicRefs) &&
    item.rawPayloadReference == values.rawPayloadReference &&
    (Json.arr item.errors).eq (.arr values.errors)

/-! ### Statements -/

structure RawProvenance where
  sourceId : Uuid
  sourceAccountId : Option Uuid
deriving DecidableEq

structure ContentProvenance where
  sourceId : Uuid
  sourceAccountId : Option Uuid
  rawItemId : Uuid
deriving DecidableEq

/-- What a statement raises: a constraint refuses it, or the database fails. -/
inductive DbError where
  | integrity
  | failed
deriving DecidableEq, Repr

/-- The statements of `EvidenceWriteRepository`. An insertion is in a savepoint. -/
inductive WriteOp where
  | rawProvenance (rawItemId : Uuid)
  | accountSourceId (accountId : Uuid)
  | contentProvenance (contentItemId : Uuid)
  | byProviderHash (provider itemHash : String)
  | byProviderItemId (provider itemId : String)
  | insert (values : Uuid → EvidenceItem)

/-- What a statement answers. -/
abbrev WriteOp.Answer : WriteOp → Type
  | rawProvenance _ => Option RawProvenance
  | accountSourceId _ => Option Uuid
  | contentProvenance _ => Option ContentProvenance
  | byProviderHash .. | byProviderItemId .. => Option EvidenceItem
  | insert _ => Uuid

abbrev WriteProgram (α : Type) : Type :=
  ExceptT DbError (Program (.raising WriteOp.Answer DbError)) α

namespace EvidenceWriteRepository

/-- Ask for one statement. -/
def ask (op : WriteOp) : WriteProgram op.Answer := Interleaving.request op

/-- `raw_provenance`. -/
def rawProvenance (rawItemId : Uuid) : WriteProgram (Option RawProvenance) :=
  ask (.rawProvenance rawItemId)

/-- `account_source_id`. -/
def accountSourceId (accountId : Uuid) : WriteProgram (Option Uuid) :=
  ask (.accountSourceId accountId)

/-- `content_provenance`. -/
def contentProvenance (contentItemId : Uuid) : WriteProgram (Option ContentProvenance) :=
  ask (.contentProvenance contentItemId)

/-- `by_provider_hash`. -/
def byProviderHash (provider itemHash : String) : WriteProgram (Option EvidenceItem) :=
  ask (.byProviderHash provider itemHash)

/-- `by_provider_item_id`: nothing is looked for without an identity. -/
def byProviderItemId (provider : String) : Option String → WriteProgram (Option EvidenceItem)
  | none => pure none
  | some itemId => ask (.byProviderItemId provider itemId)

/-- `add` and `flush`, in a savepoint. -/
def insert (values : Uuid → EvidenceItem) : WriteProgram Uuid := ask (.insert values)

end EvidenceWriteRepository

open EvidenceWriteRepository

/-! ### `_validate_provenance` -/

/-- The account is of the source. -/
def validateAccount (request : EvidenceWriteRequest) : WriteProgram (Option EvidenceWriteError) :=
  match request.sourceAccountId with
  | none => pure none
  | some accountId => do
      match ← accountSourceId accountId with
      | none => pure (some (referenceNotFound "source_account_id" accountId))
      | some sourceId =>
          if sourceId = request.sourceId then pure none
          else pure (some (provenanceMismatch "source_account_id" accountId))

/-- The content is of the source, of the account and of the raw item. -/
def validateContent (request : EvidenceWriteRequest) : WriteProgram (Option EvidenceWriteError) :=
  match request.contentItemId with
  | none => pure none
  | some contentItemId => do
      match ← contentProvenance contentItemId with
      | none => pure (some (referenceNotFound "content_item_id" contentItemId))
      | some content =>
          if content = ⟨request.sourceId, request.sourceAccountId, request.rawItemId⟩ then pure none
          else pure (some (provenanceMismatch "content_item_id" contentItemId))

/-- `_validate_provenance`. -/
def validateProvenance (request : EvidenceWriteRequest) :
    WriteProgram (Option EvidenceWriteError) := do
  match ← rawProvenance request.rawItemId with
  | none => pure (some (referenceNotFound "raw_item_id" request.rawItemId))
  | some raw =>
      if raw = ⟨request.sourceId, request.sourceAccountId⟩ then
        match ← validateAccount request with
        | some error => pure (some error)
        | none => validateContent request
      else pure (some (provenanceMismatch "raw_item_id" request.rawItemId))

/-! ### `_classify_existing` -/

/-- What is answered where a row with the hash or the identity is there. -/
def answerOf (request : EvidenceWriteRequest) (values : Uuid → EvidenceItem) (item : EvidenceItem) :
    EvidenceWriteOutcome :=
  if equivalent item (values item.id) then existingOutcome request item
  else conflictOutcome request "provider_hash_conflict"

/-- `_classify_existing`. The provider, the hash and the identity are those of the envelope. -/
def classifyExisting (request : EvidenceWriteRequest) (values : Uuid → EvidenceItem) :
    WriteProgram (Option EvidenceWriteOutcome) := do
  let provider := request.envelope.provider.value
  let itemHash := request.envelope.providerItemHash.getD ""
  match ← byProviderHash provider itemHash with
  | some byHash => pure (some (answerOf request values byHash))
  | none => do
      match ← byProviderItemId provider request.envelope.providerItemId with
      | none => pure none
      | some byId =>
          if byId.providerItemHash ≠ itemHash then
            pure (some (conflictOutcome request "provider_item_id_conflict"))
          else pure (some (answerOf request values byId))

/-! ### `write_one` -/

/-- What is answered where the row has been inserted. -/
def writtenOutcome (request : EvidenceWriteRequest) (clean : Sanitized) (id : Uuid) :
    EvidenceWriteOutcome :=
  requestOutcome request (if clean.processingStatus = .blocked then .blocked else .inserted)
    (some id) clean.writeErrors

/-- The database has refused the row, for a reason of this code. -/
def rejectedOutcome (request : EvidenceWriteRequest) (code : String) (message : String) :
    EvidenceWriteOutcome :=
  requestOutcome request .failed none [⟨code, none, message, none⟩]

/-- The row is inserted, where none stands for it. -/
def insertOrClassify (request : EvidenceWriteRequest) (clean : Sanitized) :
    WriteProgram EvidenceWriteOutcome := do
  let values := evidenceValues request clean
  match ← attempt (insert values) with
  | .ok id => pure (writtenOutcome request clean id)
  | .error .integrity => do
      match ← classifyExisting request values with
      | some concurrent => pure concurrent
      | none => pure (rejectedOutcome request "constraint_rejected" "database_constraint_rejected")
  | .error .failed =>
      pure (rejectedOutcome request "database_write_failed" "database_write_failed")

/-- `EvidenceWriteService.write_one`. -/
def writeOne (library : StandardLibrary) (request : EvidenceWriteRequest) :
    WriteProgram EvidenceWriteOutcome := do
  let clean := sanitized library request.envelope
  match validateEvidenceEnvelope library (validatedCopy request.envelope clean) with
  | error :: _ =>
      pure (requestOutcome request .invalid none
        [⟨"envelope_invalid", error.field, "envelope_validation_failed", none⟩])
  | [] => do
      match ← validateProvenance request with
      | some error => pure (requestOutcome request .invalid none [error])
      | none => do
          match ← classifyExisting request (evidenceValues request clean) with
          | some conflict => pure conflict
          | none => insertOrClassify request clean

/-! ### Transactions -/

/-- A transaction: what is committed, by anyone, and what it has inserted itself. -/
structure Session where
  store : Store
  pending : List EvidenceItem

namespace Session

/-- What a statement of the transaction sees. -/
def visible (session : Session) : Store :=
  { session.store with evidenceItems := session.store.evidenceItems ++ session.pending }

/-- `commit`. -/
def commit (session : Session) : Session := ⟨session.visible, []⟩

/-- `rollback`. -/
def rollback (session : Session) : Session := ⟨session.store, []⟩

def rawProvenance (session : Session) (id : Uuid) : Option RawProvenance :=
  (session.store.rawItem id).map fun raw => ⟨raw.sourceId, raw.sourceAccountId⟩

def accountSourceId (session : Session) (id : Uuid) : Option Uuid :=
  (session.store.account id).map SourceAccount.sourceId

def contentProvenance (session : Session) (id : Uuid) : Option ContentProvenance :=
  (session.store.contentItem id).map fun content =>
    ⟨content.sourceId, content.sourceAccountId, content.rawItemId⟩

/-- What a statement that reads answers. -/
def read (session : Session) : (op : WriteOp) → Option op.Answer
  | .rawProvenance id => some (session.rawProvenance id)
  | .accountSourceId id => some (session.accountSourceId id)
  | .contentProvenance id => some (session.contentProvenance id)
  | .byProviderHash provider itemHash =>
      some (session.visible.evidenceItems.find? fun item =>
        item.provider = provider ∧ item.providerItemHash = itemHash)
  | .byProviderItemId provider itemId =>
      some (session.visible.evidenceItems.find? fun item =>
        item.provider = provider ∧ item.providerItemId = some itemId)
  | .insert _ => none

end Session

/-- Two rows no unique index allows: of one identifier, or of one provider with one hash or one
identity. -/
def clashes (other item : EvidenceItem) : Bool :=
  other.id == item.id || other.provider == item.provider &&
    (other.providerItemHash == item.providerItemHash ||
      sameKey other.providerItemId item.providerItemId)

/-- The unique indexes hold. -/
def Consistent (rows : List EvidenceItem) : Prop :=
  rows.Pairwise fun other item => clashes other item = false

/-- **What the other transactions may do**: they commit rows that clash with none that are there, and
add raw items, accounts and content. No row of the evidence is updated or deleted, and what a raw
item, an account or a content item is of does not change. -/
structure Others (session session' : Session) : Prop where
  rows : session.store.evidenceItems ⊆ session'.store.evidenceItems
  pending : session'.pending = session.pending
  consistent : Consistent session'.visible.evidenceItems
  rawItems : ∀ id found, session.rawProvenance id = some found →
    session'.rawProvenance id = some found
  accounts : ∀ id found, session.accountSourceId id = some found →
    session'.accountSourceId id = some found
  contentItems : ∀ id found, session.contentProvenance id = some found →
    session'.contentProvenance id = some found

/-- **How a statement may be answered.** A row is refused where it clashes with one that is there, or
breaks another constraint; the database may fail at any statement. -/
inductive Performs (breaks : Store → EvidenceItem → Prop) :
    Session → (op : WriteOp) → Except DbError op.Answer → Session → Prop where
  | read {session : Session} {op : WriteOp} {answer : op.Answer}
      (answers : session.read op = some answer) : Performs breaks session op (.ok answer) session
  | inserted {session : Session} {values : Uuid → EvidenceItem} {id : Uuid} {store : Store}
      (sound : ¬ breaks session.visible (values id))
      (accepted : insertEvidence session.visible (values id) = .ok store) :
      Performs breaks session (.insert values) (.ok id)
        { session with pending := session.pending ++ [values id] }
  | refused {session : Session} {values : Uuid → EvidenceItem} {id : Uuid}
      (reason : breaks session.visible (values id) ∨
        insertEvidence session.visible (values id) = .error .integrity) :
      Performs breaks session (.insert values) (.error .integrity) session
  | failed {session : Session} {op : WriteOp} : Performs breaks session op (.error .failed) session

/-- The setting of a transaction among others. -/
def setting (breaks : Store → EvidenceItem → Prop) :
    Setting (.raising WriteOp.Answer DbError) Session :=
  ⟨Others, Performs breaks⟩

end NewsCollect.Evidence
