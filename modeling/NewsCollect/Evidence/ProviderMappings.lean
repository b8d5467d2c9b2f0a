/-
**Evidence envelopes.**

An item that has been noted becomes an envelope: who provided it, of which kind it is, which of its
fields are there, and an opaque identity, which is the hash of what the provider calls it. The
handoff of facts computes the identities of four older operations once more, from the facts.

* `CommonEvidenceEnvelope`, `validateEvidenceEnvelope`: the envelope and its checks.
* `legacyProviderItemIdentity`: the identity of an older operation, from the facts.
* `mapMarketauxNews`, `mapFinnhubQuote`, `mapEiaEnergyRow`, `mapSecFiling`: the mappers.
-/

import NewsCollect.Providers.FirstVersion

namespace NewsCollect.Evidence

open Calendar Providers SafeProjection Text

/-! ### The contract of an envelope -/

inductive Provider where
  | marketaux
  | finnhub
  | eia
  | secEdgar
deriving DecidableEq, Repr

/-- The text of a provider. -/
def Provider.value : Provider → String
  | marketaux => "marketaux"
  | finnhub => "finnhub"
  | eia => "eia"
  | secEdgar => "sec_edgar"

inductive ProviderItemType where
  | marketauxNews
  | finnhubQuote
  | finnhubCompanyNews
  | eiaEnergyTimeseries
  | secFiling
deriving DecidableEq, Repr

/-- The text of a type of items. -/
def ProviderItemType.value : ProviderItemType → String
  | marketauxNews => "marketaux_news"
  | finnhubQuote => "finnhub_quote"
  | finnhubCompanyNews => "finnhub_company_news"
  | eiaEnergyTimeseries => "eia_energy_timeseries"
  | secFiling => "sec_filing"

inductive EvidenceKind where
  | news
  | marketData
  | energyOfficial
  | disclosure
deriving DecidableEq, Repr

/-- The text of a kind of evidence. -/
def EvidenceKind.value : EvidenceKind → String
  | news => "news"
  | marketData => "market_data"
  | energyOfficial => "energy_official"
  | disclosure => "disclosure"

inductive SourceType where
  | news
  | marketData
  | officialEnergy
  | disclosure
deriving DecidableEq, Repr

/-- The text of a type of sources. -/
def SourceType.value : SourceType → String
  | news => "news"
  | marketData => "market_data"
  | officialEnergy => "official_energy"
  | disclosure => "disclosure"

inductive AccessLevel where
  | publicFulltext
  | publicSummary
  | subscriptionRequired
  | licensed
  | linkOnly
  | blocked
  | unknown
deriving DecidableEq, Repr

/-- The text of an access level. -/
def AccessLevel.value : AccessLevel → String
  | publicFulltext => "public_fulltext"
  | publicSummary => "public_summary"
  | subscriptionRequired => "subscription_required"
  | licensed => "licensed"
  | linkOnly => "link_only"
  | blocked => "blocked"
  | unknown => "unknown"

inductive ProcessingStatus where
  | pending
  | validated
  | blocked
  | invalid
deriving DecidableEq, Repr

/-- The text of a processing status. -/
def ProcessingStatus.value : ProcessingStatus → String
  | pending => "pending"
  | validated => "validated"
  | blocked => "blocked"
  | invalid => "invalid"

structure ContentPresence where
  hasTitle : Bool := false
  hasBody : Bool := false
  hasUrl : Bool := false
  hasSnippet : Bool := false
  hasDescription : Bool := false
deriving DecidableEq, Repr

structure NumericPresence where
  hasNumericValue : Bool := false
  numericFieldCount : Int := 0
  nullableAllowed : Bool := false
deriving DecidableEq, Repr

structure EvidenceError where
  code : String
  field : Option String
  safeMessage : String
deriving DecidableEq, Repr

structure EvidenceFlags where
  officialSource : Bool := false
  marketData : Bool := false
  disclosure : Bool := false
  newsSignal : Bool := false
deriving DecidableEq, Repr

/-- A time with its offset, in microseconds: the time of the clock, and what it is ahead by. -/
abbrev Datetime : Type := Int × Int

/-- An envelope. -/
structure CommonEvidenceEnvelope where
  evidenceVersion : Int
  provider : Provider
  providerItemType : ProviderItemType
  sourceType : SourceType
  sourcePriority : Option Int
  accessLevel : AccessLevel
  providerItemId : Option String
  providerItemHash : Option String
  canonicalSourceReference : Option String
  observedAt : Datetime
  eventTime : Option Datetime
  entityRefs : List String
  assetRefs : List String
  topicRefs : List String
  dedupCandidateKey : Option String
  evidenceKind : EvidenceKind
  evidenceConfidence : Option String
  contentPresence : ContentPresence
  numericPresence : NumericPresence
  flags : EvidenceFlags
  rawPayloadReference : Option String
  processingStatus : ProcessingStatus
  errors : List EvidenceError
deriving DecidableEq, Repr

namespace ProviderItemType

/-- `_KIND_BY_ITEM_TYPE`. -/
def kind : ProviderItemType → EvidenceKind
  | finnhubCompanyNews | marketauxNews => .news
  | finnhubQuote => .marketData
  | eiaEnergyTimeseries => .energyOfficial
  | secFiling => .disclosure

/-- `_PROVIDER_BY_ITEM_TYPE`. -/
def provider : ProviderItemType → Provider
  | finnhubCompanyNews | finnhubQuote => .finnhub
  | marketauxNews => .marketaux
  | eiaEnergyTimeseries => .eia
  | secFiling => .secEdgar

/-- `_SOURCE_BY_ITEM_TYPE`. -/
def source : ProviderItemType → SourceType
  | finnhubCompanyNews | marketauxNews => .news
  | finnhubQuote => .marketData
  | eiaEnergyTimeseries => .officialEnergy
  | secFiling => .disclosure

/-- `_FLAGS_BY_ITEM_TYPE`. -/
def flags : ProviderItemType → EvidenceFlags
  | finnhubCompanyNews | marketauxNews => { newsSignal := true }
  | finnhubQuote => { marketData := true }
  | eiaEnergyTimeseries => { officialSource := true }
  | secFiling => { officialSource := true, disclosure := true }

end ProviderItemType

/-- `SAFE_ERROR_MESSAGES`. -/
def safeErrorMessages : List String :=
  ["Access level must be explicitly classified.",
    "Event time is unavailable; no value was inferred.",
    "Evidence contract value is unknown.",
    "Evidence flags do not match the provider item type.",
    "Evidence kind does not match the provider item type.",
    "Evidence version is not supported.",
    "Numeric field count cannot be negative.",
    "Provider does not match the provider item type.",
    "Provider item hash is missing or invalid.",
    "Provider item ID is unavailable.",
    "Raw payload reference is unsafe.",
    "Source type does not match the provider item type.",
    "The embedded error is not content-safe.",
    "This evidence type must allow nullable numeric values."]

/-- `[0-9a-f]{64}`. -/
def isHash (text : String) : Bool :=
  bounded (fun c => isDigit c || (97 ≤ c.toNat && c.toNat ≤ 102)) 64 64 text.toList

/-- `[a-z][a-z0-9_]*`. -/
def isSafeName (text : String) : Bool :=
  headed isLower (fun c => isLower c || isDigit c || c == '_') text.length text.toList

/-- `lowered.startswith`, of one of some beginnings. -/
def startsWithAny (beginnings : List String) (text : String) : Bool :=
  beginnings.any fun beginning => beginning.toList.isPrefixOf text.toList

/-- `validate_raw_payload_reference`. -/
def validateRawPayloadReference (library : StandardLibrary) : Option String → List EvidenceError
  | none => []
  | some reference =>
      let lowered := library.lower reference
      if ["api_key=", "api_token=", "token=", "authorization", "x-finnhub-token"].any
            (fun marker => contains marker.toList lowered.toList) ||
          startsWithAny ["http://", "https://"] lowered ||
          !startsWithAny ["capture://", "internal://", "local-ref://"] lowered then
        [⟨"unsafe_raw_payload_reference", some "raw_payload_reference",
          "Raw payload reference is unsafe."⟩]
      else []

/-- `_validate_embedded_error`. -/
def isSafeError (error : EvidenceError) : Bool :=
  isSafeName error.code && error.field.all isSafeName && safeErrorMessages.contains error.safeMessage

/-- An error, where its condition holds. -/
def errorIf (condition : Bool) (code : String) (field : Option String) (message : String) :
    List EvidenceError :=
  if condition then [⟨code, field, message⟩] else []

/-- `validate_evidence_envelope`. The values of the enumerations are known by their types. -/
def validateEvidenceEnvelope (library : StandardLibrary) (envelope : CommonEvidenceEnvelope) :
    List EvidenceError :=
  let itemType := envelope.providerItemType
  errorIf (envelope.evidenceVersion != 1) "unsupported_evidence_version" (some "evidence_version")
      "Evidence version is not supported." ++
    errorIf (envelope.provider != itemType.provider) "provider_item_type_mismatch" (some "provider")
      "Provider does not match the provider item type." ++
    errorIf (envelope.evidenceKind != itemType.kind) "evidence_kind_mismatch" (some "evidence_kind")
      "Evidence kind does not match the provider item type." ++
    errorIf (envelope.sourceType != itemType.source) "source_type_mismatch" (some "source_type")
      "Source type does not match the provider item type." ++
    errorIf (envelope.flags != itemType.flags) "evidence_flags_mismatch" none
      "Evidence flags do not match the provider item type." ++
    errorIf (itemType == .eiaEnergyTimeseries && !envelope.numericPresence.nullableAllowed)
      "eia_numeric_nullable_required" (some "numeric_presence")
      "This evidence type must allow nullable numeric values." ++
    errorIf (envelope.accessLevel == .unknown) "access_level_unknown" (some "access_level")
      "Access level must be explicitly classified." ++
    errorIf (!envelope.providerItemHash.any isHash) "provider_item_hash_invalid"
      (some "provider_item_hash") "Provider item hash is missing or invalid." ++
    errorIf envelope.eventTime.isNone "event_time_missing" (some "event_time")
      "Event time is unavailable; no value was inferred." ++
    errorIf (envelope.numericPresence.numericFieldCount < 0) "numeric_field_count_invalid"
      (some "numeric_presence") "Numeric field count cannot be negative." ++
    validateRawPayloadReference library envelope.rawPayloadReference ++
    errorIf (envelope.errors.any fun error => !isSafeError error) "unsafe_embedded_error"
      (some "errors") "The embedded error is not content-safe."

/-! ### Identities -/

/-- `_present`. -/
def isPresent : Json → Bool
  | .null => false
  | .str text => text ≠ ""
  | _ => true

/-- `_parse_datetime`. -/
def parseDatetime (value : Json) : Option Datetime :=
  let ofNumber (numerator : Int) (scale : Nat) : Option Datetime :=
    let instant := timestampMicros numerator scale
    if inRange instant then some (instant, 0) else none
  match value with
  | .int seconds => ofNumber seconds 0
  | .float numerator scale => ofNumber numerator scale
  | .special .minusZero => ofNumber 0 0
  | .str raw =>
      if (strip raw.toList).isEmpty then none
      else
        let zoned := replaceZ (strip raw.toList)
        let whole := if zoned.length = 7 ∧ zoned[4]? = some '-' then zoned ++ ['-', '0', '1'] else zoned
        (fromIsoFormat whole).map fun (here, offset) => (here, offset.getD 0)
  | _ => none

section Identities

variable (library : StandardLibrary)

/-- `_opaque_ref`. -/
def opaqueRef (space : String) (value : Json) : String := space ++ ":" ++ stableHash library value

/-- `_safe_refs`. -/
def safeRefs (space : String) (values : Json) : List String :=
  let candidates := match values with
    | .obj members => Object.keys members |>.map Json.str
    | .arr items => items
    | value => if isPresent value then [value] else []
  (candidates.filter isPresent).map (opaqueRef library space)

/-- `_provider_id`. -/
def providerId (value : Json) : Option String × List EvidenceError :=
  if isPresent value then (some (opaqueRef library "provider-item" value), [])
  else (none, [⟨"provider_item_id_missing", some "provider_item_id",
    "Provider item ID is unavailable."⟩])

/-- `LEGACY_OPAQUE_IDENTITY_OPERATIONS`. -/
def legacyOpaqueIdentityOperations : List (String × String) :=
  [("marketaux", "news_all"), ("finnhub", "quote"), ("eia", "electricity_retail_sales"),
    ("sec_edgar", "submissions_recent")]

/-- What an identity is the hash of: a value, or a tuple of its parts. -/
inductive IdentityValue where
  | single (value : Json)
  | parts (values : List Json)

namespace IdentityValue

/-- The value as it is written. -/
def json : IdentityValue → Json
  | single value => value
  | parts values => .arr values

/-- The value is there, and each of its parts is. -/
def isWhole : IdentityValue → Bool
  | single value => isPresent value
  | parts values => values.all isPresent

end IdentityValue

/-- What a legacy identity is the hash of. -/
def legacyIdentityValue (provider : String) (payload : Object) : Result IdentityValue :=
  if provider = "marketaux" then
    match marketauxIdentity? (payload.get "provider_item_id") with
    | some identity => .ok (.single (.str identity))
    | none => raise .valueError "marketaux_provider_identity_invalid"
  else if provider = "finnhub" then
    .ok (.parts [payload.get "symbol", payload.get "provider_timestamp"])
  else if provider = "eia" then
    .ok (.parts [payload.get "period", payload.get "geography", payload.get "sector"])
  else if provider = "sec_edgar" then .ok (.single (payload.get "accession_number"))
  else raise .valueError "legacy_provider_identity_unsupported"

/-- `legacy_provider_item_identity`. -/
def legacyProviderItemIdentity (provider operation : String) (payload : Object) : Result String := do
  require (legacyOpaqueIdentityOperations.contains (provider, operation)) .valueError
    "legacy_provider_identity_unsupported"
  let value ← legacyIdentityValue provider payload
  require value.isWhole .valueError "legacy_provider_identity_missing"
  pure (opaqueRef library "provider-item" value.json)

/-! ### The mappers -/

/-- What a mapper knows beside the item. -/
structure Context where
  observedAt : Datetime
  sourcePriority : Json := .null
  symbol : Json := .null
  ticker : Json := .null

/-- What a mapper says of an item, beside its hash. -/
structure Mapped where
  itemType : ProviderItemType
  identity : Json
  eventTime : Option Datetime
  contentPresence : ContentPresence := {}
  numericPresence : NumericPresence := {}
  entityRefs : List String := []
  assetRefs : List String := []
  topicRefs : List String := []
  flags : EvidenceFlags

/-- `_base`. Each mapper gives the provider, the source and the kind of its item type. -/
def base (item : Object) (context : Context) (mapped : Mapped) : CommonEvidenceEnvelope :=
  let hash := stableHash library (.obj item)
  let (identity, errors) := providerId library mapped.identity
  { evidenceVersion := 1
    provider := mapped.itemType.provider
    providerItemType := mapped.itemType
    sourceType := mapped.itemType.source
    sourcePriority := context.sourcePriority.int?
    accessLevel := .linkOnly
    providerItemId := identity
    providerItemHash := some hash
    canonicalSourceReference := none
    observedAt := context.observedAt
    eventTime := mapped.eventTime
    entityRefs := mapped.entityRefs
    assetRefs := mapped.assetRefs
    topicRefs := mapped.topicRefs
    dedupCandidateKey := some ("candidate:" ++ hash)
    evidenceKind := mapped.itemType.kind
    evidenceConfidence := none
    contentPresence := mapped.contentPresence
    numericPresence := mapped.numericPresence
    flags := mapped.flags
    rawPayloadReference := some ("internal://evidence/" ++ mapped.itemType.provider.value ++ "/" ++ hash)
    processingStatus := if errors.isEmpty then .validated else .blocked
    errors := errors }

/-- `map_marketaux_news_to_evidence`. -/
def mapMarketauxNews (item : Object) (context : Context) : CommonEvidenceEnvelope :=
  base library item context
    { itemType := .marketauxNews
      identity := item.get "uuid"
      eventTime := parseDatetime (item.get "published_at")
      contentPresence :=
        { hasTitle := isPresent (item.get "title")
          hasUrl := isPresent (item.get "url")
          hasSnippet := isPresent (item.get "snippet")
          hasDescription := isPresent (item.get "description") }
      entityRefs := safeRefs library "entity" (item.get "entities")
      topicRefs := safeRefs library "topic" (item.get "keywords")
      flags := { newsSignal := true } }

/-- How many of the fields of an item are numbers. -/
def numericCount (fields : List String) (item : Object) : Nat :=
  fields.countP fun field => isNumber (item.get field)

/-- A list of parts, if all of them are there. -/
def partsOf (parts : List Json) : Json := if parts.all isPresent then .arr parts else .null

/-- `map_finnhub_quote_to_evidence`. -/
def mapFinnhubQuote (item : Object) (context : Context) : CommonEvidenceEnvelope :=
  let count := numericCount quoteFields item
  base library item context
    { itemType := .finnhubQuote
      identity := partsOf [context.symbol, item.get "t"]
      eventTime := parseDatetime (item.get "t")
      numericPresence := { hasNumericValue := 0 < count, numericFieldCount := count }
      assetRefs := safeRefs library "asset" context.symbol
      flags := { marketData := true } }

/-- `map_eia_energy_row_to_evidence`. -/
def mapEiaEnergyRow (item : Object) (context : Context) : CommonEvidenceEnvelope :=
  let count := numericCount ["price", "value"] item
  base library item context
    { itemType := .eiaEnergyTimeseries
      identity := partsOf [item.get "period", orElse (item.get "stateid") (item.get "stateDescription"),
        orElse (item.get "sectorid") (item.get "sectorName")]
      eventTime := parseDatetime (item.get "period")
      numericPresence :=
        { hasNumericValue := 0 < count, numericFieldCount := count, nullableAllowed := true }
      entityRefs := safeRefs library "entity" (.arr [item.get "stateid", item.get "stateDescription"])
      topicRefs := safeRefs library "topic" (.arr [item.get "sectorid", item.get "sectorName"])
      flags := { officialSource := true } }

/-- `map_sec_filing_to_evidence`. -/
def mapSecFiling (item : Object) (context : Context) : CommonEvidenceEnvelope :=
  base library item context
    { itemType := .secFiling
      identity := item.get "accessionNumber"
      eventTime := ["acceptanceDateTime", "filingDate", "reportDate"].findSome? fun field =>
        parseDatetime (item.get field)
      contentPresence := { hasUrl := isPresent (item.get "primaryDocument") }
      assetRefs := safeRefs library "asset" context.ticker
      topicRefs := safeRefs library "topic" (item.get "form")
      flags := { officialSource := true, disclosure := true } }

end Identities

end NewsCollect.Evidence
