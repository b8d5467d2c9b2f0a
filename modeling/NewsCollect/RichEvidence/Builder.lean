/-
**Building packets.**

The linked revisions of an evidence item are loaded with all that stands behind them, checked one by
one, put in the order of their times, and assembled. The loads of a transaction see one state of the
tables, and return their rows in an order of their own.

* `Arrival`: the order in which the loads return their rows.
* `checkRow`, `build`: the revision of a row, and the packet of an evidence item.
* `buildOne`, `listPackets`: the packet of an item, and the packets of a scan.
-/

import NewsCollect.Library.Unordered
import NewsCollect.Providers.OperationPolicy
import NewsCollect.RichEvidence.Packets

namespace NewsCollect.RichEvidence

open Calendar Collection Evidence Providers SafeProjection Text Unordered

/-! ### Loading -/

/-- A linked projection, with its observation, its run and its target. -/
structure LinkedRow where
  link : EvidenceProjectionLink
  projection : Projection
  observation : Observation
  run : Run
  target : Option Target

/-- The row of a link, if all that is joined is there and the projection is ready. -/
def linkedRow (store : Store) (link : EvidenceProjectionLink) : Option LinkedRow :=
  match store.projection link.safeFactProjectionId with
  | none => none
  | some projection =>
      match store.observation projection.observationId with
      | none => none
      | some observation =>
          match store.run observation.collectionRunId with
          | none => none
          | some run =>
              if link.status = .linked ∧ projection.processingStatus = .ready then
                some ⟨link, projection, observation, run, observation.targetId.bind store.target⟩
              else none

/-- The rows of some evidence items. -/
def linkedRows (store : Store) (evidenceIds : List Uuid) : List LinkedRow :=
  (store.links.filter fun link => link.evidenceItemId.any evidenceIds.contains).filterMap
    (linkedRow store)

/-- **The order in which the loads return their rows.** -/
structure Arrival where
  rows : List LinkedRow → List LinkedRow
  raws : List RawItem → List RawItem
  sources : List Source → List Source
  accounts : List SourceAccount → List SourceAccount
  runs : List Run → List Run
  contents : List ContentItem → List ContentItem
  rows_perm : ∀ loaded, (rows loaded).Perm loaded
  raws_perm : ∀ loaded, (raws loaded).Perm loaded
  sources_perm : ∀ loaded, (sources loaded).Perm loaded
  accounts_perm : ∀ loaded, (accounts loaded).Perm loaded
  runs_perm : ∀ loaded, (runs loaded).Perm loaded
  contents_perm : ∀ loaded, (contents loaded).Perm loaded

/-- `_PacketInputs`: dictionaries by identifier. -/
structure PacketInputs where
  rows : Uuid → List LinkedRow
  raws : Uuid → Option RawItem
  sources : Uuid → Option Source
  accounts : Uuid → Option SourceAccount
  firstRuns : Uuid → Option Run
  contents : Uuid → Option ContentItem

/-- `_load_inputs`. -/
def loadInputs (arrival : Arrival) (store : Store) (evidences : List EvidenceItem) : PacketInputs :=
  let resultRows := arrival.rows (linkedRows store (evidences.map EvidenceItem.id))
  let raws := arrival.raws (store.rawItems.filter fun row =>
    (evidences.map EvidenceItem.rawItemId).contains row.id)
  let sources := arrival.sources (store.sources.filter fun row =>
    (evidences.map EvidenceItem.sourceId).contains row.id)
  let accounts := arrival.accounts (store.accounts.filter fun row =>
    (evidences.filterMap EvidenceItem.sourceAccountId).contains row.id)
  let runs := arrival.runs (store.runs.filter fun row =>
    (raws.map RawItem.collectionRunId).contains row.id)
  let contents := arrival.contents (store.contentItems.filter fun row =>
    (evidences.filterMap EvidenceItem.contentItemId ++
      resultRows.filterMap fun row => row.link.contentItemId).contains row.id)
  { rows := fun id => resultRows.filter fun row => row.link.evidenceItemId = some id
    raws := Table.find RawItem.id raws
    sources := Table.find Source.id sources
    accounts := Table.find SourceAccount.id accounts
    firstRuns := Table.find Run.id runs
    contents := Table.find ContentItem.id contents }

/-! ### Checks -/

section Checks

variable (library : StandardLibrary)

/-- `_EXPECTED_TYPE`. -/
def expectedType (provider operation : String) : Option String :=
  [(("marketaux", "news_all"), "marketaux_news"), (("finnhub", "quote"), "finnhub_quote"),
    (("finnhub", "company_news"), "finnhub_company_news"),
    (("eia", "electricity_retail_sales"), "eia_energy_timeseries"),
    (("eia", "electricity_rto_region_data"), "eia_energy_timeseries"),
    (("sec_edgar", "submissions_recent"), "sec_filing")].lookup (provider, operation)

/-- What an evidence item says of the content of its facts. -/
def expectedContent (payload : Object) : Object :=
  [("has_title", .bool (payload.get "title").truthy), ("has_body", .bool false),
    ("has_url", .bool ((payload.get "canonical_url").truthy || (payload.get "official_url").truthy)),
    ("has_snippet", .bool false), ("has_description", .bool false)]

/-- What an evidence item says of the numbers of its facts. -/
def expectedNumeric (provider operation : String) : Object :=
  let isMarket := operation == "quote"
  let isEnergy := provider == "eia"
  [("has_numeric_value", .bool (isMarket || isEnergy)),
    ("numeric_field_count", .int (if isMarket then 7 else if isEnergy then 1 else 0)),
    ("nullable_allowed", .bool isEnergy)]

/-- The plain identity of facts: `str(payload.get("provider_item_id"))`. -/
def plainIdentity (payload : Object) : String :=
  match payload.get "provider_item_id" with
  | .null => "None"
  | value => strOf library value

/-- What a revision is compared with: the policy of its operation, and the identity an older item
would have. -/
structure Expected where
  policy : FactualOperationPolicy
  plain : String
  legacyAllowed : Bool
  legacy : String

/-- An item that kept the identity of an older one. -/
def Expected.adopted (expected : Expected) (evidence : EvidenceItem) : Bool :=
  evidence.providerItemId == some expected.legacy && evidence.providerItemId != some expected.plain &&
    expected.legacyAllowed

/-- What a row is compared with. -/
def expectedOf (row : LinkedRow) : Result Expected := do
  let projection := row.projection
  let policy ← match factualOperationPolicy projection.provider projection.operationKey
      (some row.observation.providerContractVersion) with
    | .ok policy => pure policy
    | .error raised =>
        if raised.isAny [.valueError] then richError "rich_evidence_contract_version_invalid"
        else .error raised
  let plain := plainIdentity library projection.factualPayload
  let legacyAllowed := legacyOpaqueIdentityOperations.contains
    (projection.provider, projection.operationKey)
  let legacy ← if legacyAllowed then
      legacyProviderItemIdentity library projection.provider projection.operationKey
        projection.factualPayload
    else pure plain
  pure ⟨policy, plain, legacyAllowed, legacy⟩

/-- The evidence item is one of the operation. -/
def fitsOperation (evidence : EvidenceItem) (row : LinkedRow) (expected : Expected) : Bool :=
  let projection := row.projection
  let isMarket := projection.operationKey == "quote"
  expectedType projection.provider projection.operationKey == some evidence.providerItemType &&
    expected.policy.itemType == evidence.providerItemType &&
    expected.policy.evidenceKind == evidence.evidenceKind &&
    expected.policy.sourceType == evidence.sourceType &&
    (if expected.adopted evidence then "link_only" else expected.policy.access) ==
      evidence.accessLevel &&
    (evidence.providerItemId == some expected.plain ||
      evidence.providerItemId == some expected.legacy) &&
    !(expected.legacyAllowed && expected.legacy != expected.plain &&
      evidence.providerItemId == some expected.legacy && !expected.adopted evidence) &&
    evidence.processingStatus == "validated" &&
    evidence.officialSourceFlag ==
      (projection.provider == "eia" || projection.provider == "sec_edgar") &&
    evidence.marketDataFlag == isMarket &&
    evidence.disclosureFlag == (projection.provider == "sec_edgar") &&
    evidence.newsSignalFlag ==
      (projection.operationKey == "news_all" || projection.operationKey == "company_news")

/-- The evidence item is that of its canonical projection. -/
def fitsCanonical (evidence : EvidenceItem) (row : LinkedRow) (expected : Expected) : Bool :=
  let projection := row.projection
  !row.link.canonicalEvidence ||
    ((Json.obj evidence.contentPresence).eq (.obj (expectedContent projection.factualPayload)) &&
      (Json.obj evidence.numericPresence).eq
        (.obj (expectedNumeric projection.provider projection.operationKey)) &&
      (expected.adopted evidence || evidence.providerItemHash == projection.projectionHash))

/-- The rows belong together. -/
def fitsTogether (evidence : EvidenceItem) (raw : RawItem) (row : LinkedRow) : Bool :=
  let ⟨link, projection, observation, run, _⟩ := row
  projection.provider == evidence.provider && projection.rawItemId == raw.id &&
    observation.rawItemId == raw.id && observation.provider == projection.provider &&
    observation.operationKey == projection.operationKey &&
    observation.projectionHash == projection.projectionHash &&
    observation.collectionRunId == run.id && run.targetId == observation.targetId &&
    observation.sourceId == raw.sourceId && observation.sourceAccountId == raw.sourceAccountId &&
    run.sourceId == raw.sourceId && run.sourceAccountId == raw.sourceAccountId &&
    link.safeFactProjectionId == projection.id

/-- The target, where there is one, is of the same source and operation. -/
def fitsTarget (raw : RawItem) (row : LinkedRow) : Bool :=
  match row.observation.targetId, row.target with
  | none, _ => true
  | some _, none => false
  | some targetId, some target =>
      target.id == targetId && target.sourceId == raw.sourceId &&
        target.sourceAccountId == raw.sourceAccountId &&
        target.operationKey == row.observation.operationKey

/-- `_validate_provenance`. -/
def validateProvenance (evidence : EvidenceItem) (raw : RawItem) (row : LinkedRow) : Result Unit := do
  let expected ← expectedOf library row
  require (fitsOperation evidence row expected && fitsCanonical evidence row expected &&
    fitsTogether evidence raw row) .richEvidenceError "rich_evidence_provenance_invalid"
  require (fitsTarget raw row) .richEvidenceError "rich_evidence_provenance_invalid"

/-- The class of the facts of an operation. -/
def factsKind (provider operation : String) : Option FactsKind :=
  [(("marketaux", "news_all"), FactsKind.marketauxNews), (("finnhub", "quote"), .finnhubQuote),
    (("finnhub", "company_news"), .finnhubCompanyNews),
    (("eia", "electricity_retail_sales"), .eiaRetail),
    (("eia", "electricity_rto_region_data"), .eiaRto),
    (("sec_edgar", "submissions_recent"), .secFiling)].lookup (provider, operation)

/-- `_typed_facts`. -/
def typedFacts (provider operation : String) (payload : Object) : Result TypedFacts :=
  match factsKind provider operation with
  | some kind => .ok ⟨kind, payload⟩
  | none => richError "rich_evidence_operation_unknown"

/-- The quality a row has is the one that is computed. -/
def sameQuality (quality : ProjectionQuality) (status : QualityStatus) : Bool :=
  qualityText quality == status.value

/-- The facts of a projection, which are still what they were when it was validated. -/
def checkFacts (projection : Projection) : Result (TypedFacts × ProjectionQuality) := do
  let (normalized, quality) ← match normalizeAndClassify library projection.provider
      projection.operationKey projection.projectionSchemaVersion projection.factualPayload with
    | .ok normal => pure normal
    | .error raised =>
        if raised.isAny [.projectionContractError] then richError "rich_evidence_projection_invalid"
        else .error raised
  require ((Json.obj normalized).eq (.obj projection.factualPayload)) .richEvidenceError
    "rich_evidence_projection_invalid"
  let hash ← canonicalProjectionHash library normalized
  require (hash == projection.projectionHash && sameQuality quality projection.qualityStatus)
    .richEvidenceError "rich_evidence_projection_invalid"
  let facts ← typedFacts projection.provider projection.operationKey normalized
  pure (facts, quality)

/-- A revision, with the run and the target it came from. -/
structure Revised where
  revision : EvidenceRevision
  run : Run
  target : Option Target

/-- **The revision of a row**, which is checked. -/
def checkRow (evidence : EvidenceItem) (raw : RawItem) (row : LinkedRow) : Result Revised := do
  validateProvenance library evidence raw row
  let (facts, quality) ← checkFacts library row.projection
  pure
    { revision :=
        { linkId := row.link.id
          projectionId := row.projection.id
          observationId := row.observation.id
          projectionHash := row.projection.projectionHash
          projectionSchemaVersion := row.projection.projectionSchemaVersion
          operationKey := row.projection.operationKey
          providerContractVersion := row.observation.providerContractVersion
          collectionTargetId := row.observation.targetId
          configRevision := row.observation.configRevision
          linkedAt := row.link.linkedAt
          observedAt := row.observation.observedAt
          quality := quality
          facts := facts }
      run := row.run
      target := row.target }

/-! ### Assembling -/

/-- `_facts_published_at`. -/
def factsPublishedAt (facts : TypedFacts) : Result Int :=
  match facts.values.get "published_at" with
  | .str text =>
      match fromIsoFormat (replaceZ text.toList) with
      | some (here, some offset) =>
          if inRange (here - offset) then .ok (here - offset)
          else raise .overflowError "date value out of range"
      | _ => richError "rich_evidence_time_provenance_invalid"
  | _ => raise .attributeError "replace"

/-- `_identity_mode`. -/
def identityMode (evidence : EvidenceItem) (current : EvidenceRevision) : Result String :=
  if !legacyOpaqueIdentityOperations.contains (evidence.provider, current.operationKey) then
    pure "canonical"
  else do
    let expected ← legacyProviderItemIdentity library evidence.provider current.operationKey
      current.facts.fields
    pure (if evidence.providerItemId == some expected &&
        evidence.providerItemId != (current.facts.values.get "provider_item_id").str? then
      "adopted_legacy_opaque" else "canonical")

/-- `sorted`, of names. -/
def sortedNames (names : List String) : List String := names.mergeSort fun left right => left ≤ right

/-- The name of a field without the end that says what it is. -/
def withoutCoverage (name : String) : String :=
  if "_coverage".toList.isSuffixOf name.toList then
    String.ofList (name.toList.take (name.length - "_coverage".length))
  else name

/-- `_availability`: the fields that are absent, and those that are blocked. -/
def availability (facts : TypedFacts) : List String × List String :=
  (sortedNames ((facts.fields.filter fun entry => isNull entry.2).map Prod.fst),
    sortedNames ((facts.fields.filter fun entry => entry.2.eq (.str "blocked")).map fun entry =>
      withoutCoverage entry.1))

/-- What a packet is assembled from, but for its revisions. -/
structure Draft where
  evidence : EvidenceItem
  raw : RawItem
  current : Revised
  content : ContentReference
  missing : List String
  blocked : List String
  total : Nat

/-- `_assemble`. -/
def assemble (draft : Draft) (revisions : List EvidenceRevision) (reason : String) :
    Result RichEvidencePacket := do
  let current := draft.current.revision
  let evidence := draft.evidence
  let mode ← identityMode library evidence current
  let published ← factsPublishedAt current.facts
  let base : RichEvidencePacket :=
    { packetVersion := 1
      packetDigest := ""
      evidenceId := evidence.id
      rawItemId := draft.raw.id
      provider := evidence.provider
      operationKey := current.operationKey
      evidenceKind := evidence.evidenceKind
      providerItemType := evidence.providerItemType
      accessLevel := evidence.accessLevel
      identityMode := mode
      retentionClass := draft.raw.envelope.retentionClass
      canonicalEventTime := evidence.eventTime
      canonicalObservedAt := evidence.observedAt
      currentPublishedAt := published
      currentObservedAt := current.observedAt
      provenance :=
        { sourceId := evidence.sourceId
          sourceAccountId := evidence.sourceAccountId
          collectionTargetId := draft.current.target.map Target.id
          firstPersistenceRunId := draft.raw.collectionRunId
          configRevision := current.configRevision
          providerContractVersion := current.providerContractVersion }
      content := draft.content
      current := current
      revisions := revisions
      quality := current.quality
      missingFields := draft.missing
      blockedFields := draft.blocked
      truncation := ⟨revisions.length < draft.total, draft.total, revisions.length, reason⟩ }
  let text ← canonicalJson library (.obj (material base))
  pure { base with packetDigest := library.sha256 text }

/-- A packet that fits the budget of bytes: its oldest revisions are left out one by one. -/
def shrink (maxBytes : Nat) (draft : Draft) :
    List EvidenceRevision → String → Result RichEvidencePacket
  | [], reason => do
      let packet ← assemble library draft [] reason
      let size ← encodedSize library packet
      require (size ≤ maxBytes) .richEvidenceError "rich_evidence_packet_budget_exceeded"
      pure packet
  | oldest :: rest, reason => do
      let packet ← assemble library draft (oldest :: rest) reason
      let size ← encodedSize library packet
      if size ≤ maxBytes then pure packet
      else if rest.isEmpty then richError "rich_evidence_packet_budget_exceeded"
      else shrink maxBytes draft rest "serialized_size_budget"

/-- A text that is a value, or nothing that is null. -/
def isText (value : Json) (text : Option String) : Bool := value.eq (textOrNull text)

/-- The content is what the handoff makes of an item, and no more. -/
def fitsContent (evidence : EvidenceItem) (retentionClass operation : String)
    (policy : FactualOperationPolicy) (content : ContentItem) : Bool :=
  content.rawItemId == evidence.rawItemId && content.sourceId == evidence.sourceId &&
    content.sourceAccountId == evidence.sourceAccountId &&
    policy.content == some content.contentKind.value && content.bodyAvailability == .unavailable &&
    content.body.isNone && content.sourceSummary.isNone && content.author.isNone &&
    content.contentHash.isNone && content.sourceUpdatedAt.isNone &&
    content.replyToExternalId.isNone && content.quoteExternalId.isNone &&
    content.repostExternalId.isNone && content.deletedStatus == .unknown &&
    content.metadata.keySubset ["provider", "operation_key", "retention"] &&
    (content.metadata.get "provider").eq (.str evidence.provider) &&
    (content.metadata.get "operation_key").eq (.str operation) &&
    (content.metadata.get "retention").eq (.str retentionClass)

/-- The content is that of the facts it was made from. -/
def fitsFacts (evidence : EvidenceItem) (facts : TypedFacts) (content : ContentItem) : Result Bool :=
  if evidence.provider = "marketaux" ∨ evidence.provider = "finnhub" then
    if (facts.kind = .marketauxNews ∨ facts.kind = .finnhubCompanyNews) ∧
        isText (facts.values.get "title") content.title = true ∧
        isText (facts.values.get "canonical_url") content.canonicalUrl = true ∧
        isText (facts.values.get "canonical_url") content.originalUrl = true ∧
        content.sourcePublishedAt.isSome = true then do
      let published ← factsPublishedAt facts
      pure (content.sourcePublishedAt == some published &&
        isText (if facts.kind = .marketauxNews then facts.values.get "language" else .null)
          content.language)
    else pure false
  else if evidence.provider = "sec_edgar" then
    if facts.kind = .secFiling ∧ isText (facts.values.get "official_url") content.canonicalUrl = true ∧
        isText (facts.values.get "official_url") content.originalUrl = true ∧
        content.sourcePublishedAt.isSome = true then do
      let published ← factsPublishedAt facts
      pure (content.sourcePublishedAt == some published && content.language.isNone)
    else pure false
  else pure true

/-- The content of the one identifier there is. -/
def referenceTo (evidence : EvidenceItem) (retentionClass : String) (rows : List LinkedRow)
    (revisions : List EvidenceRevision) (operation : String) (version : Int)
    (content : Option ContentItem) : Result ContentReference := do
  let canonical ← orRaise (only (rows.filter fun row => row.link.canonicalContent))
    .richEvidenceError "rich_evidence_content_adoption_invalid"
  let revision ← orRaise (revisions.find? fun revision => revision.linkId = canonical.link.id)
    .runtimeError "coroutine raised StopIteration"
  let policy ← match factualOperationPolicy evidence.provider operation (some version) with
    | .ok policy => pure policy
    | .error raised =>
        if raised.isAny [.valueError] then richError "rich_evidence_contract_version_invalid"
        else .error raised
  let content ← orRaise content .richEvidenceError "rich_evidence_content_invalid"
  require (fitsContent evidence retentionClass operation policy content) .richEvidenceError
    "rich_evidence_content_invalid"
  require (!(evidence.provider == "eia" || (evidence.provider == "finnhub" && operation == "quote")))
    .richEvidenceError "rich_evidence_content_invalid"
  let fits ← fitsFacts evidence revision.facts content
  require fits .richEvidenceError "rich_evidence_content_invalid"
  pure ⟨some content.id, some content.contentKind.value, content.title.any (· ≠ ""),
    content.bodyAvailability.value, content.canonicalUrl.any (· ≠ "")⟩

/-- `_content_reference`: the links and the evidence item name one content item, or none. -/
def contentReference (evidence : EvidenceItem) (retentionClass : String) (rows : List LinkedRow)
    (revisions : List EvidenceRevision) (operation : String) (version : Int)
    (contents : Uuid → Option ContentItem) : Result ContentReference :=
  let contentIds := (evidence.contentItemId.toList ++
    rows.filterMap fun row => row.link.contentItemId).dedup
  if contentIds.isEmpty then pure ⟨none, none, false, "unavailable", false⟩
  else
    match only contentIds with
    | some id =>
        referenceTo evidence retentionClass rows revisions operation version (contents id)
    | none => richError "rich_evidence_content_conflict"

/-! ### Building -/

/-- The budgets of a builder. -/
structure Limits where
  maxRevisions : Nat
  maxSerializedBytes : Nat
  maxBatchSize : Nat
  revisions_bound : 1 ≤ maxRevisions ∧ maxRevisions ≤ 500
  bytes_bound : 1024 ≤ maxSerializedBytes ∧ maxSerializedBytes ≤ 2000000
  batch_bound : 1 ≤ maxBatchSize ∧ maxBatchSize ≤ 500

/-- The raw item of an evidence item, with a source, an account and a first run that fit. -/
def rawOf (inputs : PacketInputs) (evidence : EvidenceItem) : Result RawItem :=
  let invalid : Result RawItem := richError "rich_evidence_provenance_invalid"
  match inputs.raws evidence.rawItemId, inputs.sources evidence.sourceId with
  | some raw, some source =>
      match inputs.firstRuns raw.collectionRunId with
      | some firstRun =>
          let account := evidence.sourceAccountId.bind inputs.accounts
          if raw.sourceId == evidence.sourceId && raw.sourceAccountId == evidence.sourceAccountId &&
              source.accessMethod == evidence.provider && firstRun.sourceId == evidence.sourceId &&
              firstRun.sourceAccountId == evidence.sourceAccountId &&
              (evidence.sourceAccountId.isNone || account.isSome) &&
              account.all (fun account => account.sourceId == evidence.sourceId) &&
              raw.envelope.retentionClass == source.retentionClass then .ok raw
          else invalid
      | none => invalid
  | _, _ => invalid

/-- The order of revisions: by their times, and then by their projections. The text of a projection's
identifier has a digit for each of its digits, so that it is compared as a number. -/
def Earlier (left right : Revised) : Prop :=
  left.revision.observedAt < right.revision.observedAt ∨
    left.revision.observedAt = right.revision.observedAt ∧
      left.revision.projectionId ≤ right.revision.projectionId

instance : DecidableRel Earlier := fun _ _ => inferInstanceAs (Decidable (_ ∨ _))

/-- The evidence item has the times of its canonical revision. -/
def checkTimes (evidence : EvidenceItem) (canonical : EvidenceRevision) : Result Unit := do
  let eventTime ← orRaise evidence.eventTime .richEvidenceError
    "rich_evidence_time_provenance_invalid"
  let published ← factsPublishedAt canonical.facts
  require (eventTime == published && evidence.observedAt == canonical.observedAt) .richEvidenceError
    "rich_evidence_time_provenance_invalid"

/-- The packet of revisions in their order. -/
def buildSorted (limits : Limits) (inputs : PacketInputs) (evidence : EvidenceItem) (raw : RawItem)
    (rows : List LinkedRow) (sorted : List Revised) : Result RichEvidencePacket := do
  let current ← orRaise sorted.getLast? .indexError "list index out of range"
  let operation := current.revision.operationKey
  let version := current.revision.providerContractVersion
  let policy ← factualOperationPolicy evidence.provider operation (some version)
  require (policy.retention.contains raw.envelope.retentionClass) .richEvidenceError
    "rich_evidence_retention_policy_invalid"
  let revisions := sorted.map Revised.revision
  let canonical ← orRaise (only (revisions.filter fun revision =>
      (Table.find (fun row => row.link.id) rows revision.linkId).any fun row =>
        row.link.canonicalEvidence)) .richEvidenceError "rich_evidence_canonical_adoption_invalid"
  checkTimes evidence canonical
  let selected := revisions.drop (revisions.length - limits.maxRevisions)
  let content ← contentReference evidence raw.envelope.retentionClass rows revisions operation
    version inputs.contents
  let (missing, blocked) := availability current.revision.facts
  shrink library limits.maxSerializedBytes
    ⟨evidence, raw, current, content, missing, blocked, revisions.length⟩ selected
    (if selected.length < revisions.length then "revision_budget" else "none")

/-- `len(operations) == 1`. -/
def sameOperation (revised : List Revised) : Bool :=
  (revised.map fun revised => revised.revision.operationKey).dedup.length == 1

/-- `_build`. -/
def build (limits : Limits) (inputs : PacketInputs) (evidence : EvidenceItem) :
    Result RichEvidencePacket := do
  let rows := inputs.rows evidence.id
  require (!rows.isEmpty) .richEvidenceError "rich_evidence_linked_projection_missing"
  let raw ← rawOf inputs evidence
  let revised ← rows.mapM (checkRow library evidence raw)
  require (sameOperation revised) .richEvidenceError "rich_evidence_operation_conflict"
  buildSorted library limits inputs evidence raw rows (revised.insertionSort Earlier)

/-- `build_one`. -/
def buildOne (limits : Limits) (arrival : Arrival) (store : Store) (evidenceId : Uuid) :
    Result RichEvidencePacket :=
  match store.evidenceItem evidenceId with
  | none => richError "rich_evidence_not_found"
  | some evidence => build library limits (loadInputs arrival store [evidence]) evidence

end Checks

end NewsCollect.RichEvidence
