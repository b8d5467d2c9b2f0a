/-
**From what is noted of an item to its evidence.**

The notes of an item, with the hash and the place of its payload, are checked to be of the fields
of their provider and without secrets. They are laid out as a row of the provider once more and
mapped to an envelope, which is checked and handed to the writer.

* `bind`: the notes of an item, with the hash and the place of a raw item.
* `validateProviderProjection`, `mapProjection`: the checks and the row.
* `process`: what is handed to the writer, or why nothing is.
-/

import NewsCollect.Evidence.ProviderMappings

namespace NewsCollect.Evidence

open Collection Providers SafeProjection Text

/-! ### The notes of an item -/

/-- `InMemoryProviderProjectionSidecar.bind`: the notes, with the hash and the place of the payload. -/
def bind (metadata : Object) (payloadHash payloadLocation : Option String) : Object :=
  (metadata.set "payload_hash" (textOrNull payloadHash)).set "payload_reference"
    (textOrNull payloadLocation)

/-- `_SAFE_PROJECTION_FIELDS`, of the providers that are supported. -/
def safeProjectionFields (provider : String) : Option (List String) :=
  let common := ["provider_item_id", "published_at", "field_names", "payload_hash",
    "payload_reference"]
  if provider = "marketaux" then
    some (common ++ ["has_title", "has_description", "has_snippet", "has_source_url"])
  else if provider = "finnhub" then some (common ++ ["symbol", "numeric_field_count"])
  else if provider = "eia" then some (common ++ ["geography", "sector", "has_numeric_value"])
  else if provider = "sec_edgar" then some (common ++ ["ticker", "form", "has_primary_document"])
  else none

/-- `_safe_text`. -/
def isSafeText : Json → Bool
  | .str text => text ≠ "" && !hasMarker text
  | _ => false

/-- A list of safe texts. -/
def areSafeTexts : Json → Bool
  | .arr items => items.all isSafeText
  | _ => false

/-- A reference to a payload that is kept here, without a marker. -/
def isSafeReference : Json → Bool
  | .str text =>
      startsWithAny ["internal://", "capture://", "local-ref://"] text && !hasMarker text
  | _ => false

/-- `isinstance(value, bool)`. -/
def isBool : Json → Bool
  | .bool _ => true
  | _ => false

/-- `isinstance(value, int)`: a boolean is one. -/
def integer? : Json → Option Int
  | .int value => some value
  | .bool value => some (if value then 1 else 0)
  | _ => none

/-- The fields of one provider. -/
def fitsProvider (provider : String) (projection : Object) : Bool :=
  if provider = "marketaux" then
    ["has_title", "has_description", "has_snippet", "has_source_url"].all fun flag =>
      isBool (projection.get flag)
  else if provider = "finnhub" then
    isSafeText (projection.get "symbol") && (integer? (projection.get "numeric_field_count")).isSome
  else if provider = "eia" then
    isSafeText (projection.get "geography") && isSafeText (projection.get "sector") &&
      isBool (projection.get "has_numeric_value")
  else
    isSafeText (projection.get "ticker") && isSafeText (projection.get "form") &&
      isBool (projection.get "has_primary_document")

/-- `validate_provider_projection`. -/
def validateProviderProjection (provider : String) (projection : Object) : Option Object :=
  match safeProjectionFields provider with
  | none => none
  | some fields =>
      if projection.sameKeys fields && isSafeText (projection.get "provider_item_id") &&
          isSafeText (projection.get "published_at") &&
          areSafeTexts (projection.get "field_names") &&
          (projection.get "payload_hash").str?.any isHash &&
          isSafeReference (projection.get "payload_reference") &&
          fitsProvider provider projection then some projection
      else none

/-- `True if value else None`. -/
def trueOrNull (value : Json) : Json := if value.truthy then .bool true else .null

section Process

variable (library : StandardLibrary)

/-- The numbers of a quote: its first fields are zeros. -/
def quoteNumbers (count : Int) : Result Object :=
  if count ≤ quoteFields.length then .ok ((quoteFields.take count.toNat).map fun key => (key, .int 0))
  else raise .indexError "tuple index out of range"

/-- `_map_projection`. -/
def mapProjection (provider : String) (projection : Object) (observedAt : Datetime) :
    Result CommonEvidenceEnvelope :=
  let item := [("published_at", projection.get "published_at")]
  if provider = "marketaux" then
    pure (mapMarketauxNews library (item ++
      [("uuid", projection.get "provider_item_id"), ("title", trueOrNull (projection.get "has_title")),
        ("description", trueOrNull (projection.get "has_description")),
        ("snippet", trueOrNull (projection.get "has_snippet")),
        ("url", trueOrNull (projection.get "has_source_url"))]) { observedAt := observedAt })
  else if provider = "finnhub" then do
    let numbers ← quoteNumbers ((integer? (projection.get "numeric_field_count")).getD 0)
    pure (mapFinnhubQuote library (item ++ [("t", projection.get "published_at")] ++ numbers)
      { observedAt := observedAt, symbol := projection.get "symbol" })
  else if provider = "eia" then
    pure (mapEiaEnergyRow library (item ++
      [("period", projection.get "published_at"), ("stateid", projection.get "geography"),
        ("sectorid", projection.get "sector"),
        ("price", if (projection.get "has_numeric_value").truthy then .int 0 else .null)])
      { observedAt := observedAt })
  else
    pure (mapSecFiling library (item ++
      [("accessionNumber", projection.get "provider_item_id"),
        ("filingDate", projection.get "published_at"), ("form", projection.get "form"),
        ("primaryDocument", trueOrNull (projection.get "has_primary_document"))])
      { observedAt := observedAt, ticker := projection.get "ticker" })

/-- A request of the pipeline. A time without an offset is refused. -/
structure EvidencePipelineRequest where
  rawItemId : Uuid
  sourceId : Uuid
  sourceAccountId : Option Uuid
  provider : String
  sanitizedProjection : Object
  observedAt : Int × Option Int
  correlationId : String

/-- What the writer is handed. -/
structure EvidenceWriteRequest where
  envelope : CommonEvidenceEnvelope
  sourceId : Uuid
  rawItemId : Uuid
  sourceAccountId : Option Uuid
  contentItemId : Option Uuid := none

inductive EvidencePipelineStatus where
  | written
  | duplicate
  | invalid
  | failed
  | skipped
deriving DecidableEq, Repr

/-- What becomes of a request: it is refused with a code, or handed to the writer. -/
inductive Processed where
  | refused (status : EvidencePipelineStatus) (code : String)
  | handed (request : EvidenceWriteRequest)

/-- The envelope of the notes, with the hash and the place of the payload in place of its own. -/
def envelopeOf (provider : String) (projection : Object) (observedAt : Datetime) :
    Result CommonEvidenceEnvelope := do
  let envelope ← mapProjection library provider projection observedAt
  pure { envelope with
    providerItemHash := (projection.get "payload_hash").str?
    rawPayloadReference := (projection.get "payload_reference").str? }

/-- `EvidencePipelineService.process`, up to the writer. An index error leaves it. -/
def process (request : EvidencePipelineRequest) : Result Processed :=
  if !(["marketaux", "finnhub", "eia", "sec_edgar"].contains request.provider) then
    pure (.refused .skipped "provider_unsupported")
  else
    match validateProviderProjection request.provider request.sanitizedProjection, request.observedAt.2 with
    | none, _ => pure (.refused .invalid "projection_invalid")
    | some _, none => pure (.refused .invalid "request_invalid")
    | some projection, some offset =>
        if !isSafeText (.str request.correlationId) then pure (.refused .invalid "request_invalid")
        else
          match envelopeOf library request.provider projection (request.observedAt.1, offset) with
          | .error raised =>
              if raised.isAny [.typeError, .valueError] then pure (.refused .invalid "mapping_failed")
              else .error raised
          | .ok envelope =>
              if validateEvidenceEnvelope library envelope ≠ [] then
                pure (.refused .invalid "envelope_invalid")
              else
                pure (.handed ⟨envelope, request.sourceId, request.rawItemId, request.sourceAccountId,
                  none⟩)

end Process

end NewsCollect.Evidence
