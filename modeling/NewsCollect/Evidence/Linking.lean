/-
**Linking facts.**

The transaction that hands facts over: the facts and all that stands behind them are read, locked,
read once more and checked, the content and the evidence item are made, or found and checked, and the
link is written with both. Whatever is refused on the way leaves the tables as they were.

* `Failure`: how a transaction fails.
* `inspect`, `linkLocked`: the part before the locks, and the part under them.
* `contentFor`, `evidenceFor`: the content and the evidence item of facts.
-/

import NewsCollect.Evidence.ProviderMappings
import NewsCollect.Evidence.Rows
import NewsCollect.Library.Unordered
import NewsCollect.Providers.OperationPolicy
import NewsCollect.SafeProjection.Worker

namespace NewsCollect.Evidence

open Calendar Collection Providers SafeProjection

/-! ### Failures -/

/-- How a transaction fails: with an exception, by a constraint of the tables (`IntegrityError`), or
by the database (`DBAPIError`, with the state it reports). -/
inductive Failure where
  | raised (error : PyError)
  | integrity
  | database (sqlstate : Option String)
deriving DecidableEq, Repr

/-- `raise HandoffConflict(code)`. -/
def conflict {α : Type} (code : String) : Except Failure α := .error (.raised ⟨.handoffConflict, code⟩)

/-- Refuse the item unless the condition holds. -/
def demand (condition : Bool) (code : String) : Except Failure Unit :=
  if condition then .ok () else conflict code

/-- The value that is there, or the item is refused. -/
def present {α : Type} (value : Option α) (code : String) : Except Failure α :=
  match value with
  | some value => .ok value
  | none => conflict code

/-- A computation of the program. -/
def computing {α : Type} : Result α → Except Failure α
  | .ok value => .ok value
  | .error error => .error (.raised error)

/-- `except (...) as exc: raise HandoffConflict(code) from exc`. -/
def refusing {α : Type} (classes : List ExceptionClass) (code : String) :
    Result α → Except Failure α
  | .ok value => .ok value
  | .error error => if error.isAny classes then conflict code else .error (.raised error)

section Failures

variable {α : Type} {code : String} {value : α}

@[simp] theorem conflict_ne_ok : (conflict code : Except Failure α) ≠ .ok value := by
  simp [conflict]

@[simp] theorem demand_eq_ok {condition : Bool} {u : Unit} :
    demand condition code = .ok u ↔ condition = true := by
  cases condition <;> simp [demand]

@[simp] theorem present_eq_ok {found : Option α} :
    present found code = .ok value ↔ found = some value := by
  cases found <;> simp [present]

@[simp] theorem computing_eq_ok {result : Result α} : computing result = .ok value ↔ result = .ok value := by
  cases result <;> simp [computing]

@[simp] theorem refusing_eq_ok {classes : List ExceptionClass} {result : Result α} :
    refusing classes code result = .ok value ↔ result = .ok value := by
  cases result with
  | ok held => simp [refusing]
  | error raised =>
      by_cases refused : raised.isAny classes = true <;> simp [refusing, refused]

end Failures

/-- `_is_retryable_database_concurrency`. -/
def isRetryableDatabaseConcurrency (sqlstate : Option String) : Bool :=
  sqlstate.any ["40P01", "40001", "55P03", "57014"].contains

/-! ### The checks -/

section Checks

variable (library : StandardLibrary)

/-- The facts of a projection are in their normal form, with their hash. -/
def normalQuality (projection : Projection) : Result ProjectionQuality := do
  let (normalized, quality) ← normalizeAndClassify library projection.provider
    projection.operationKey projection.projectionSchemaVersion projection.factualPayload
  require ((Json.obj normalized).eq (.obj projection.factualPayload)) .projectionContractError
    "projection_not_canonical"
  let hash ← canonicalProjectionHash library normalized
  require (hash == projection.projectionHash) .projectionContractError "projection_hash_mismatch"
  pure quality

/-- The rows that are locked, by their identifiers. -/
structure Located where
  rawId : Uuid
  sourceId : Uuid
  sourceAccountId : Option Uuid
  projectionId : Uuid
  observationId : Uuid
  runId : Uuid
  targetId : Option Uuid

/-- `_link_one`, up to the locks: nothing is located for a link that is not being processed. -/
def inspect (store : Store) (id : Uuid) : Except Failure (Option Located) :=
  match (store.link id).filter fun link => link.status = .processing with
  | none => .ok none
  | some link => do
      let projection ← present
        ((store.projection link.safeFactProjectionId).filter fun projection =>
          projection.processingStatus = .ready) "evidence_projection_not_ready"
      let _ ← refusing [.projectionContractError] "evidence_projection_contract_invalid"
        (normalQuality library projection)
      let raw ← present (store.rawItem projection.rawItemId) "evidence_projection_provenance_missing"
      let observation ← present (store.observation projection.observationId)
        "evidence_projection_provenance_missing"
      pure (some ⟨raw.id, raw.sourceId, raw.sourceAccountId, projection.id, observation.id,
        observation.collectionRunId, observation.targetId⟩)

/-- The rows as they are under the locks. -/
structure Held where
  link : EvidenceProjectionLink
  projection : Projection
  observation : Observation
  raw : RawItem

/-- The rows that have to be there. -/
def holdRows (store : Store) (id : Uuid) (located : Located) : Except Failure Held := do
  let raw ← present (store.rawItem located.rawId) "evidence_projection_concurrent_change"
  let projection ← present (store.projection located.projectionId)
    "evidence_projection_concurrent_change"
  let observation ← present (store.observation located.observationId)
    "evidence_projection_concurrent_change"
  let link ← present ((store.link id).filter fun link => link.status = .processing)
    "evidence_projection_concurrent_change"
  pure ⟨link, projection, observation, raw⟩

/-- The policy of the facts, which are checked once more, with their quality. -/
def lockedPolicy (held : Held) : Result FactualOperationPolicy := do
  let quality ← normalQuality library held.projection
  require (quality.value == held.projection.qualityStatus.value) .projectionContractError
    "projection_quality_mismatch"
  factualOperationPolicy held.projection.provider held.projection.operationKey
    (some held.observation.providerContractVersion)

/-- The rows belong together, and the retention is one of the operation. -/
def fitsProvenance (store : Store) (located : Located) (held : Held)
    (policy : FactualOperationPolicy) : Bool :=
  let ⟨_, projection, observation, raw⟩ := held
  let account := located.sourceAccountId.bind store.account
  match store.run located.runId, store.source located.sourceId with
  | some run, some source =>
      projection.rawItemId == raw.id && observation.rawItemId == raw.id &&
        observation.provider == projection.provider &&
        observation.operationKey == projection.operationKey &&
        observation.projectionHash == projection.projectionHash &&
        observation.collectionRunId == run.id && observation.sourceId == raw.sourceId &&
        observation.sourceAccountId == raw.sourceAccountId && run.sourceId == raw.sourceId &&
        run.sourceAccountId == raw.sourceAccountId && run.targetId == observation.targetId &&
        source.id == raw.sourceId && source.accessMethod == projection.provider &&
        source.retentionClass == raw.envelope.retentionClass &&
        (raw.sourceAccountId.isNone || account.isSome) &&
        account.all (fun account => account.sourceId == raw.sourceId) &&
        (match located.targetId.bind store.target with
          | some target => target.sourceId == raw.sourceId &&
              target.sourceAccountId == raw.sourceAccountId &&
              target.operationKey == projection.operationKey
          | none => observation.targetId.isNone) &&
        policy.retention.contains raw.envelope.retentionClass
  | _, _ => false

/-! ### Values of columns -/

/-- `payload[key]`. -/
def factAt (payload : Object) (key : String) : Except Failure Json :=
  computing (item (.obj payload) key)

/-- A text for a column, or nothing. The database refuses any other value. -/
def columnText : Json → Except Failure (Option String)
  | .str text => .ok (some text)
  | .null => .ok none
  | _ => .error (.database none)

/-- `datetime.fromisoformat`, as an instant. A time without an offset is none. -/
def isoInstant : Json → Result (Option Int)
  | .str text =>
      match fromIsoFormat text.toList with
      | some (here, offset) => .ok (offset.map fun offset => here - offset)
      | none => raise .valueError "Invalid isoformat string"
  | _ => raise .typeError "fromisoformat: argument must be str"

/-- An instant for a column. The database refuses a time without an offset. -/
def columnInstant : Option Int → Except Failure Int
  | some instant => .ok instant
  | none => .error (.database none)

/-- The text of a column is this value. -/
def sameText (text : Option String) (value : Json) : Bool := (textOrNull text).eq value

/-- `left or right`. -/
def orElse (left right : Json) : Json := if left.truthy then left else right

/-- The address of facts. -/
def addressOf (payload : Object) : Json :=
  orElse (payload.get "canonical_url") (payload.get "official_url")

/-- The title of a filing. -/
def filingTitle (form : Json) : String := "SEC " ++ strOf library form ++ " filing"

/-! ### Content -/

/-- What the content notes of where it is from. -/
def contentMetadata (projection : Projection) (raw : RawItem) : Object :=
  [("provider", .str projection.provider), ("operation_key", .str projection.operationKey),
    ("retention", .str raw.envelope.retentionClass)]

/-- The facts that the content of a link was made from. -/
def contentOrigin (store : Store) (content : ContentItem) : Option Projection :=
  (store.links.filter fun link => link.contentItemId = some content.id ∧ link.status = .linked ∧
    link.canonicalContent = true).findSome? fun link => store.projection link.safeFactProjectionId

/-- `_validate_existing_content`. -/
def validateExistingContent (store : Store) (content : ContentItem) (projection : Projection)
    (raw : RawItem) (kind : ContentKind) : Except Failure Unit := do
  let origin := (contentOrigin store content).getD projection
  let payload := origin.factualPayload
  let url := addressOf payload
  let title := if origin.provider ≠ "sec_edgar" then payload.get "title"
    else .str (filingTitle library (payload.get "form"))
  demand (content.sourceId == raw.sourceId && content.sourceAccountId == raw.sourceAccountId &&
    content.rawItemId == raw.id && content.contentKind == kind &&
    sameText content.externalId (payload.get "provider_item_id") && sameText content.title title &&
    sameText content.originalUrl url && sameText content.canonicalUrl url)
    "evidence_content_policy_invalid"
  let published ← factAt payload "published_at"
  let instant ← computing (isoInstant (.str (strOf library published)))
  demand (content.sourcePublishedAt.isSome && content.sourcePublishedAt == instant &&
    sameText content.language
      (if origin.provider = "marketaux" then payload.get "language" else .null) &&
    content.bodyAvailability == .unavailable && content.body.isNone && content.sourceSummary.isNone &&
    content.author.isNone && content.contentHash.isNone && content.sourceUpdatedAt.isNone &&
    content.replyToExternalId.isNone && content.quoteExternalId.isNone &&
    content.repostExternalId.isNone && content.deletedStatus == .unknown &&
    (Json.obj content.metadata).eq (.obj (contentMetadata origin raw)))
    "evidence_content_policy_invalid"

/-- Two columns that are given are the same. -/
def sameKey {α : Type} [BEq α] (left right : Option α) : Bool := left.isSome && left == right

/-- Insert a content item, which the unique indexes may refuse. -/
def insertContent (store : Store) (content : ContentItem) : Except Failure Store :=
  if store.contentItems.any fun other =>
      other.id == content.id || other.rawItemId == content.rawItemId ||
        sameKey other.canonicalUrl content.canonicalUrl ||
        (other.sourceId == content.sourceId && (sameKey other.externalId content.externalId ||
          sameKey other.contentHash content.contentHash)) then
    .error .integrity
  else .ok { store with contentItems := store.contentItems ++ [content] }

/-- The content that is made of facts. -/
def newContent (projection : Projection) (raw : RawItem) (kind : ContentKind) (title : String)
    (url : Json) (id : Uuid) : Except Failure ContentItem := do
  let payload := projection.factualPayload
  let providerItemId ← factAt payload "provider_item_id"
  let publishedAt ← factAt payload "published_at"
  let instant ← computing (isoInstant publishedAt)
  let externalId ← columnText providerItemId
  let language ← columnText
    (if projection.provider = "marketaux" then payload.get "language" else .null)
  let address ← columnText url
  let published ← columnInstant instant
  pure
    { id := id
      rawItemId := raw.id
      sourceId := raw.sourceId
      sourceAccountId := raw.sourceAccountId
      contentKind := kind
      externalId := externalId
      title := some title
      sourceSummary := none
      body := none
      bodyAvailability := .unavailable
      author := none
      language := language
      originalUrl := address
      canonicalUrl := address
      sourcePublishedAt := some published
      sourceUpdatedAt := none
      firstSeenAt := raw.envelope.fetchedAt
      contentHash := none
      replyToExternalId := none
      quoteExternalId := none
      repostExternalId := none
      deletedStatus := .unknown
      metadata := contentMetadata projection raw }

/-- A text that is there and not empty. -/
def filledText (payload : Object) (key : String) : Option String :=
  (payload.get key).str?.filter fun text => text ≠ ""

/-- The title and the address of new content, if there is any. -/
def contentHead (payload : Object) : ContentKind → Except Failure (Option (String × Json))
  | .officialRelease => do
      let form ← factAt payload "form"
      let url ← factAt payload "official_url"
      pure (some (filingTitle library form, url))
  | _ => pure (
      match filledText payload "title", filledText payload "canonical_url",
        filledText payload "source_identity" with
      | some title, some url, some _ => some (title, .str url)
      | _, _, _ => none)

/-- The kind of the content of a policy. -/
def policyKind (policy : FactualOperationPolicy) : Option ContentKind :=
  if policy.content = some "article" then some .article
  else if policy.content = some "official_release" then some .officialRelease
  else none

/-- `_content`: the content of facts, which is found or made. -/
def contentFor (store : Store) (projection : Projection) (raw : RawItem) (id : Uuid) :
    Except Failure (Option ContentItem × Store) := do
  let policy ← computing (factualOperationPolicy projection.provider projection.operationKey)
  match policyKind policy with
  | none => pure (none, store)
  | some kind =>
      match store.contentItems.find? fun content => content.rawItemId = raw.id with
      | some content => do
          validateExistingContent library store content projection raw kind
          pure (some content, store)
      | none => do
          match ← contentHead library projection.factualPayload kind with
          | none => pure (none, store)
          | some (title, url) => do
              let content ← newContent projection raw kind title url id
              let store ← insertContent store content
              pure (some content, store)

/-! ### Evidence -/

/-- What an evidence item says of the content of its facts. -/
def contentPresence (payload : Object) : Object :=
  [("has_title", .bool (payload.get "title").truthy), ("has_body", .bool false),
    ("has_url", .bool (addressOf payload).truthy), ("has_snippet", .bool false),
    ("has_description", .bool false)]

/-- What an evidence item says of the numbers of its facts. -/
def numericPresence (provider operation : String) : Object :=
  let isMarket := operation == "quote"
  [("has_numeric_value", .bool (isMarket || provider == "eia")),
    ("numeric_field_count", .int (if isMarket then 7 else if provider == "eia" then 1 else 0)),
    ("nullable_allowed", .bool (provider == "eia"))]

/-- The facts and the observation the canonical link of an evidence item is from. -/
def canonicalOrigins (store : Store) (evidence : EvidenceItem) : List (Projection × Observation) :=
  (store.links.filter fun link => link.evidenceItemId = some evidence.id ∧ link.status = .linked ∧
    link.canonicalEvidence = true).filterMap fun link =>
      (store.projection link.safeFactProjectionId).bind fun projection =>
        (store.observation projection.observationId).map fun observation => (projection, observation)

/-- `.one_or_none()`. -/
def oneOrNone {α : Type} : List α → Except Failure (Option α)
  | [] => .ok none
  | [row] => .ok (some row)
  | _ => .error (.raised ⟨.sqlAlchemyError, "Multiple rows were found when one or none was required"⟩)

/-- The identities of facts: the plain one, and the one of an older item, if there is one. -/
def identitiesOf (projection origin : Projection) : Except Failure (String × String) := do
  let plain := strOf library (← factAt origin.factualPayload "provider_item_id")
  match legacyProviderItemIdentity library projection.provider projection.operationKey
      origin.factualPayload with
  | .ok legacy => pure (plain, legacy)
  | .error raised =>
      if raised.isAny [.valueError] then pure (plain, plain) else .error (.raised raised)

/-- The flags of an evidence item are those of the facts. -/
def sameFlags (evidence : EvidenceItem) (projection : Projection) (policy : FactualOperationPolicy) :
    Bool :=
  evidence.officialSourceFlag == (projection.provider == "eia" || projection.provider == "sec_edgar") &&
    evidence.marketDataFlag == (projection.operationKey == "quote") &&
    evidence.disclosureFlag == (projection.provider == "sec_edgar") &&
    evidence.newsSignalFlag == (policy.evidenceKind == "news")

/-- The checks of an evidence item that is there. -/
def validateExistingEvidence (store : Store) (evidence : EvidenceItem) (projection : Projection)
    (observation : Observation) (raw : RawItem) (content : Option ContentItem)
    (policy : FactualOperationPolicy) : Except Failure Unit := do
  let canonical ← oneOrNone (canonicalOrigins store evidence)
  let (origin, originObservation) := canonical.getD (projection, observation)
  demand (origin.provider == projection.provider && origin.operationKey == projection.operationKey &&
    (origin.factualPayload.get "provider_item_id").eq
      (projection.factualPayload.get "provider_item_id")) "evidence_canonical_identity_conflict"
  let payload := origin.factualPayload
  let (plain, legacy) ← identitiesOf library projection origin
  let isLegacy := evidence.providerItemId == some legacy && legacy != plain
  let access := if isLegacy &&
      legacyOpaqueIdentityOperations.contains (projection.provider, projection.operationKey) then
    "link_only" else policy.access
  demand (evidence.providerItemType == policy.itemType && evidence.sourceId == raw.sourceId &&
    evidence.sourceAccountId == raw.sourceAccountId &&
    (evidence.providerItemId == some plain || evidence.providerItemId == some legacy) &&
    (match content with
      | some content => evidence.contentItemId.all (· == content.id)
      | none => evidence.contentItemId.isNone) &&
    evidence.evidenceKind == policy.evidenceKind && evidence.sourceType == policy.sourceType &&
    evidence.accessLevel == access) "evidence_canonical_identity_conflict"
  let published ← factAt payload "published_at"
  let instant ← computing (isoInstant (.str (strOf library published)))
  demand (evidence.eventTime.isSome && evidence.eventTime == instant &&
    evidence.observedAt == originObservation.observedAt && evidence.processingStatus == "validated" &&
    sameFlags evidence projection policy &&
    (Json.obj evidence.contentPresence).eq (.obj (contentPresence payload)) &&
    (Json.obj evidence.numericPresence).eq
      (.obj (numericPresence projection.provider projection.operationKey)))
    "evidence_canonical_identity_conflict"

/-- Insert an evidence item, which the unique indexes may refuse. -/
def insertEvidence (store : Store) (evidence : EvidenceItem) : Except Failure Store :=
  if store.evidenceItems.any fun other =>
      other.id == evidence.id || other.provider == evidence.provider &&
        (other.providerItemHash == evidence.providerItemHash ||
          sameKey other.providerItemId evidence.providerItemId) then
    .error .integrity
  else .ok { store with evidenceItems := store.evidenceItems ++ [evidence] }

/-- The evidence item that is made of facts. -/
def newEvidence (projection : Projection) (observation : Observation) (raw : RawItem)
    (content : Option ContentItem) (policy : FactualOperationPolicy) (providerItemId : String)
    (id : Uuid) : Except Failure EvidenceItem := do
  let publishedAt ← factAt projection.factualPayload "published_at"
  let instant ← computing (isoInstant publishedAt)
  let published ← columnInstant instant
  pure
    { id := id
      evidenceVersion := 1
      provider := projection.provider
      providerItemType := policy.itemType
      evidenceKind := policy.evidenceKind
      sourceType := policy.sourceType
      sourceId := raw.sourceId
      sourceAccountId := raw.sourceAccountId
      rawItemId := raw.id
      contentItemId := content.map ContentItem.id
      providerItemId := some providerItemId
      providerItemHash := projection.projectionHash
      eventTime := some published
      observedAt := observation.observedAt
      accessLevel := policy.access
      processingStatus := "validated"
      officialSourceFlag := projection.provider == "eia" || projection.provider == "sec_edgar"
      marketDataFlag := projection.operationKey == "quote"
      disclosureFlag := projection.provider == "sec_edgar"
      newsSignalFlag := policy.evidenceKind == "news"
      contentPresence := contentPresence projection.factualPayload
      numericPresence := numericPresence projection.provider projection.operationKey
      entityRefs := []
      assetRefs := []
      topicRefs := []
      rawPayloadReference :=
        some ("internal://safe-fact-projection/" ++ uuidText projection.id)
      errors := [] }

/-- `_evidence`: the evidence item of facts, which is found or made. -/
def evidenceFor (store : Store) (projection : Projection) (observation : Observation)
    (raw : RawItem) (content : Option ContentItem) (id : Uuid) :
    Except Failure (EvidenceItem × Store) := do
  let policy ← computing (factualOperationPolicy projection.provider projection.operationKey)
  let providerItemId := strOf library (← factAt projection.factualPayload "provider_item_id")
  match store.evidenceItems.filter fun evidence =>
      evidence.rawItemId = raw.id ∧ evidence.provider = projection.provider with
  | [] => do
      demand (!store.evidenceItems.any fun evidence => evidence.provider == projection.provider &&
        (evidence.providerItemId == some providerItemId ||
          evidence.providerItemHash == projection.projectionHash))
        "evidence_canonical_identity_conflict"
      let evidence ← newEvidence projection observation raw content policy providerItemId id
      let store ← insertEvidence store evidence
      pure (evidence, store)
  | [evidence] => do
      validateExistingEvidence library store evidence projection observation raw content policy
      pure (evidence, store)
  | _ => conflict "evidence_canonical_not_unique"

/-! ### The link -/

/-- The evidence item has a link. -/
def isLinkedEvidence (links : List EvidenceProjectionLink) (id : Uuid) : Bool :=
  links.any fun link => link.evidenceItemId = some id ∧ link.status = .linked

/-- The content item has a link. -/
def isLinkedContent (links : List EvidenceProjectionLink) (id : Uuid) : Bool :=
  links.any fun link => link.contentItemId = some id ∧ link.status = .linked

/-- A link with its evidence item and its content: the first one of each is its canonical one. -/
def linkedLink (links : List EvidenceProjectionLink) (evidenceId : Uuid) (contentId : Option Uuid)
    (now : Int) (link : EvidenceProjectionLink) : EvidenceProjectionLink :=
  { link with
    evidenceItemId := some evidenceId
    contentItemId := contentId
    canonicalEvidence := !isLinkedEvidence links evidenceId
    canonicalContent := contentId.any fun id => !isLinkedContent links id
    status := .linked
    linkedAt := some now
    safeErrorCode := none
    nextRetryAt := none
    updatedAt := now }

/-- `_link_one`, under the locks, with the identifiers the database gives. -/
def linkLocked (store : Store) (id : Uuid) (located : Located) (now : Int)
    (contentId evidenceId : Uuid) : Except Failure Store := do
  let held ← holdRows store id located
  let policy ← refusing [.projectionContractError, .valueError] "evidence_projection_contract_invalid"
    (lockedPolicy library held)
  demand (fitsProvenance store located held policy) "evidence_projection_provenance_invalid"
  let (content, store) ← contentFor library store held.projection held.raw contentId
  let (evidence, store) ← evidenceFor library store held.projection held.observation held.raw content
    evidenceId
  pure { store with
    links := Table.modify EvidenceProjectionLink.id store.links id
      (linkedLink store.links evidence.id (content.map ContentItem.id) now) }

end Checks

end NewsCollect.Evidence
