/-
**The bounded adapters.**

A fetch sends one request and makes one page of the answer. Before the request, its configuration
and the continuation are checked; after it, the payloads of the rows are validated, and the cursor
moves to the latest of them.

* `BreadthAdapter.prepare`: the configuration, the state and the request that is sent.
* `BreadthAdapter.factsOf`: the facts of a page.
* `BreadthAdapter.nextCursor`: the cursor after it.
-/

import NewsCollect.Providers.Contracts
import NewsCollect.Providers.RowRules

namespace NewsCollect.Providers

open Collection SafeProjection Text

/-- What is sent: an operation and its parameters. -/
structure Sent where
  operation : String
  params : Object

/-- An answer. The text of `Retry-After` is what the first header of that name has. -/
structure Response where
  statusCode : Int
  retryAfter : Option String
  receivedAt : Int
  body : Json

/-- What becomes of a request that is sent. -/
inductive Transported where
  | tooLarge
  | timedOut
  | failed
  | answered (response : Response)

/-- `BreadthAdapter`, with the name of its credential. -/
structure BreadthAdapter where
  provider : String
  operation : String
  credential : Option String

/-- The name of the credential of a provider. -/
def credentialName (provider : String) : Option String :=
  if provider = "marketaux" then some "MARKETAUX_API_TOKEN"
  else if provider = "finnhub" then some "FINNHUB_API_KEY"
  else if provider = "eia" then some "EIA_API_KEY"
  else if provider = "sec_edgar" then some "SEC_USER_AGENT"
  else none

/-- `request_lineage`. -/
def requestLineage (request : ProviderFetchRequest) (operation : String) :
    Result ContinuationLineage := do
  require (1 ≤ request.configRevision && 1 ≤ request.operationConfigVersion &&
    1 ≤ request.providerContractVersion && 1 ≤ request.cursorVersion) .continuationContractError
    "continuation_lineage_missing"
  pure ⟨uuidText request.targetId, request.configRevision, operation,
    request.operationConfigVersion, request.providerContractVersion, request.cursorVersion,
    request.runMode.value⟩

/-! ### Parameters -/

/-- A parameter for every string of a list. -/
def facetParams (name : String) (values : List String) : Object :=
  values.mapIdx fun index value => (name ++ "[" ++ toString index ++ "]", .str value)

/-- The first seven characters of a bound. -/
def monthOf (config : Object) (key : String) : Json :=
  .str (String.ofList ((strAt config key).toList.take 7))

def marketauxParams (config : Object) (limit page : Int) : Object :=
  [("search", config.get "query"), ("limit", .int limit), ("page", .int page),
    ("published_after", config.get "start"), ("published_before", config.get "end"),
    ("sort", .str "published_asc")] ++
    (if (config.get "language").truthy then [("language", config.get "language")] else []) ++
    (if (config.get "symbols").truthy then
      [("symbols", .str (",".intercalate (stringsAt config "symbols")))] else [])

def retailParams (config : Object) (limit offset : Int) : Object :=
  [("frequency", .str "monthly"), ("data[]", .str "price"), ("offset", .int offset),
    ("length", .int limit), ("start", monthOf config "start"), ("end", monthOf config "end"),
    ("sort[0][column]", .str "period"), ("sort[0][direction]", .str "asc")] ++
    facetParams "facets[stateid]" (stringsAt config "geographies") ++
    facetParams "facets[sectorid]" (stringsAt config "sectors")

def rtoParams (config : Object) (limit offset : Int) : Object :=
  [("frequency", .str "hourly"), ("data[0]", .str "value"), ("start", config.get "start"),
    ("end", config.get "end"), ("offset", .int offset), ("length", .int limit),
    ("sort[0][column]", .str "period"), ("sort[0][direction]", .str "asc"),
    ("sort[1][column]", .str "respondent"), ("sort[1][direction]", .str "asc"),
    ("sort[2][column]", .str "type"), ("sort[2][direction]", .str "asc")] ++
    facetParams "facets[respondent]" (stringsAt config "regions") ++
    facetParams "facets[type]" (stringsAt config "types")

/-- `_params`. -/
def params (provider operation : String) (config : Object) (limit page offset : Int)
    (state : Object) : Result Sent :=
  if provider = "marketaux" then pure ⟨"news_all", marketauxParams config limit page⟩
  else if provider = "finnhub" then
    pure ⟨"company_news", [("symbol", config.get "symbol"), ("from", config.get "start"),
      ("to", config.get "end")]⟩
  else if provider = "eia" then
    if operation = "electricity_retail_sales" then
      pure ⟨operation, retailParams config limit offset⟩
    else pure ⟨"electricity_rto_region_data", rtoParams config limit offset⟩
  else if inHistory state then do
    let _ ← secFile (strAt config "cik") (state.get "file")
    pure ⟨"submissions_history", [("file", state.get "file")]⟩
  else pure ⟨"submissions", [("cik", config.get "cik")]⟩

/-- Fields no request may have. -/
def secretFields : List String :=
  ["api_key", "api_token", "token", "authorization", "x-finnhub-token", "secret", "password"]

/-- `ProviderTransportRequest.__post_init__`, of the parameters: their names are in small letters. -/
def Sent.isSafe (library : StandardLibrary) (sent : Sent) : Bool :=
  !sent.params.any fun entry =>
    secretFields.contains entry.1 || hasSecretValue (strOf library entry.2).toList

/-- `failed`: a result without rows, and with one error. -/
def failedResult (provider : String) (error : ProviderAdapterError) : ProviderFetchResult where
  rawItems := []
  sanitizedMetadata := []
  nextCursor := none
  hasMore := false
  safeErrors := [error]
  provider := provider
  contractVersion := 1
  displayProjections := []
  factualProjections := []
  continuation := none
  rejectedRowHashes := []
  coverageIncomplete := false
  metadata_count := rfl
  display_count := .inl rfl
  factual_count := .inl rfl

/-! ### Before the request -/

/-- A fetch that is about to send its request. -/
structure Prepared where
  config : Object
  lineage : ContinuationLineage
  state : Object
  page : Int
  offset : Int
  sent : Sent

namespace BreadthAdapter

variable (library : StandardLibrary) (digest : Object → String) (adapter : BreadthAdapter)

/-- The state of the continuation of a request: none, where it has none. -/
def requestState (request : ProviderFetchRequest) (config : Object)
    (lineage : ContinuationLineage) : Result Object :=
  match request.continuation with
  | some (entry :: rest) =>
      decodeContinuation digest (entry :: rest) adapter.provider adapter.operation config lineage
  | _ => pure []

/-- The checks before the request is sent. -/
def prepare (request : ProviderFetchRequest) : Result Prepared := do
  require (adapter.credential.isSome && adapter.credential == credentialName adapter.provider)
    .valueError "breadth_credential_missing"
  let config ← breadthConfig adapter.provider adapter.operation request.config
  require ((config.get "window_mode").eq (.str "fixed_window")) .valueError
    "breadth_window_not_resolved"
  require (1 ≤ request.limit && request.limit ≤ 100) .valueError "breadth_limit_invalid"
  let lineage ← requestLineage request adapter.operation
  let state ← requestState digest adapter request config lineage
  require (1 ≤ statePage state && statePage state ≤ 1000 && 0 ≤ stateOffset state &&
    stateOffset state ≤ 10000000) .valueError "breadth_continuation_invalid"
  let sent ← params adapter.provider adapter.operation config request.limit (statePage state)
    (stateOffset state) state
  pure ⟨config, lineage, state, statePage state, stateOffset state, sent⟩

/-- A result without rows, and with one error. -/
def failed (error : ProviderAdapterError) : ProviderFetchResult where
  rawItems := []
  sanitizedMetadata := []
  nextCursor := none
  hasMore := false
  safeErrors := [error]
  provider := adapter.provider
  contractVersion := 2
  displayProjections := []
  factualProjections := []
  continuation := none
  rejectedRowHashes := []
  coverageIncomplete := false
  metadata_count := rfl
  display_count := .inl rfl
  factual_count := .inl rfl

/-! ### After the answer -/

/-- A payload that is validated, or rejected by its identity. -/
def checkPayload (rows : Rows) (payload : Object) : Result Rows :=
  match validateFactualPayload library adapter.provider adapter.operation 1 payload with
  | .ok normal => pure (rows.keep normal)
  | .error raised =>
      if raised.isAny [.valueError] then
        match payload.get "provider_item_id" with
        | .str identity => do
            let hash ← rejectionHash (rowRules library) adapter.provider adapter.operation identity
            pure (rows.reject hash)
        | _ => raise .valueError "breadth_item_untraceable"
      else .error raised

/-- The facts of a page, and the hashes of the rows that are rejected. -/
def factsOf (page : Page) : Result Rows := do
  let checked ← page.payloads.foldlM (checkPayload library adapter) ⟨[], page.rejected⟩
  let facts ← deduplicate (rowRules library) checked.payloads []
  pure ⟨facts, checked.rejected⟩

/-- What is noted of a fact. -/
def metadataOf (fact : Object) : Object :=
  [("provider_item_id", fact.get "provider_item_id"), ("published_at", fact.get "published_at")]

/-- `raw_envelope`: the hash is that of the metadata. -/
def rawEnvelope (response : Response) (fact : Object) : RawItemEnvelope :=
  let hash := match canonicalText library (.obj (metadataOf fact)) with
    | some text => library.sha256 text
    | none => ""
  { externalId := (fact.get "provider_item_id").str?
    fetchedAt := response.receivedAt
    httpStatus := some response.statusCode
    contentType := some "application/json"
    payloadLocation := some ("internal://provider/" ++ adapter.provider ++ "/" ++ hash)
    payloadHash := some hash
    retentionClass :=
      if adapter.provider = "marketaux" ∨ adapter.provider = "sec_edgar" then "link_only"
      else "metadata_only" }

/-- The position of a cursor or of an item. -/
def positionOf (value : Json) : Result (String × String) := do
  let published ← item value "published_at"
  let identity ← item value "provider_item_id"
  match published, identity with
    | .str published, .str identity => pure (published, identity)
    | _, _ => raise .typeError "'<' not supported between instances"

/-- `max(candidates, key=...)`: the first of the greatest. -/
def latest : List Json → Result (Option Json)
  | [] => pure none
  | [value] => do
      -- the key of a lone candidate is read, and compared with nothing
      let _ ← item value "published_at"
      let _ ← item value "provider_item_id"
      pure (some value)
  | first :: rest => do
      let start ← positionOf first
      let greatest ← rest.foldlM (fun held value => do
        let position ← positionOf value
        pure (if keyLe position held.1 then held else (position, value))) (start, first)
      pure (some greatest.2)

/-- The cursor after the page: the latest of the old one and the facts. -/
def nextCursor (cursor : Option String) (facts : List Object) (loads : String → Result Json)
    (dumps : Json → String) : Result (Option String) :=
  match cursor with
  | some text =>
      if text = "" then do
        let watermark ← latest (facts.map fun fact => .obj (metadataOf fact))
        pure (match watermark with
          | some value => some (dumps value)
          | none => cursor)
      else do
        let held ← loads text
        let watermark ← latest (held :: facts.map fun fact => .obj (metadataOf fact))
        pure (match watermark with
          | some value => if value.truthy then some (dumps value) else cursor
          | none => cursor)
  | none => do
      let watermark ← latest (facts.map fun fact => .obj (metadataOf fact))
      pure (watermark.map dumps)

end BreadthAdapter

end NewsCollect.Providers
