/-
**The adapters of the first contract version, from the request to the result.**

Each adapter checks its configuration, sends one request and turns the rows of the answer into
items. An item is what is noted of its row, the facts of the row as they are validated, and the raw
envelope that carries the hash of the notes.

* `Stop`: an error that becomes a result, or an exception that leaves the adapter.
* `marketauxItem`, `quoteItem`, `retailItem`, `filingItem`: an item of a row.
* `FirstAdapter.fetch`: the result of the one request.
-/

import NewsCollect.Providers.BreadthFetch
import NewsCollect.Providers.SinglePage

namespace NewsCollect.Providers

open Calendar Collection SafeProjection Text

/-- How an adapter ends early: with an error in its result, or with an exception. -/
inductive Stop where
  | failed (error : ProviderAdapterError)
  | raised (error : PyError)
deriving DecidableEq, Repr

/-- What an adapter computes before its result. -/
abbrev Attempt (α : Type) : Type := Except Stop α

namespace Attempt

/-- What leaves the adapter when it raises. -/
def of {α : Type} : Result α → Attempt α
  | .ok value => .ok value
  | .error raised => .error (.raised raised)

/-- An error of the adapter. -/
def fail {α : Type} (code : ProviderAdapterErrorCode) (message : String) (retryable : Bool := false) :
    Attempt α :=
  .error (.failed ⟨code, message, retryable, none⟩)

/-- An error unless the condition holds. -/
def ensure (condition : Bool) (code : ProviderAdapterErrorCode) (message : String) : Attempt Unit :=
  if condition then .ok () else fail code message

/-- A value that has to be there. -/
def given {α : Type} (value : Option α) (code : ProviderAdapterErrorCode) (message : String) :
    Attempt α :=
  match value with
  | some value => .ok value
  | none => fail code message

end Attempt

open Attempt

/-- The error of a status, if it is one. -/
def statusError (statusCode : Int) (retryAfter : Option (Nat × Nat)) : Option ProviderAdapterError :=
  if statusCode = 429 then some ⟨.rateLimited, "provider_rate_limited", true, retryAfter⟩
  else if 500 ≤ statusCode then some ⟨.upstreamError, "provider_upstream_failed", true, none⟩
  else if 200 ≤ statusCode ∧ statusCode < 300 then none
  else some ⟨.upstreamError, "provider_request_rejected", false, none⟩

/-- The answer of the transport, unless it is an error. -/
def answered (retryAfter : Response → Option (Nat × Nat)) : Transported → Attempt Response
  | .timedOut => fail .timeout "provider_request_timed_out" true
  | .tooLarge => fail .contractInvalid "provider_response_too_large"
  | .failed => fail .upstreamError "provider_transport_failed" true
  | .answered response =>
      match statusError response.statusCode (retryAfter response) with
      | some error => .error (.failed error)
      | none => .ok response

/-- An item: what is noted of its row, its facts, what is shown of it, and its raw envelope. -/
structure Item where
  raw : RawItemEnvelope
  metadata : Object
  factual : Object
  display : Object

/-- The pair a cursor is made of. -/
def Item.position (item : Item) : String × String :=
  (strAt item.metadata "published_at", strAt item.metadata "provider_item_id")

/-- `max`, of pairs of strings. -/
def latestPosition : List (String × String) → String × String
  | [] => ("", "")
  | first :: rest => rest.foldl (fun held position => if keyLe position held then held else position) first

section Fetch

variable (library : StandardLibrary)

mutual

/-- `json.dumps(value, sort_keys=True, separators=(",", ":"))`, with the names of the floats that are
no JSON. -/
def stableText : Json → String
  | .null => "null"
  | .bool value => if value then "true" else "false"
  | .int value => toString value
  | .float numerator scale => library.floatText numerator scale
  | .special .minusZero => "-0.0"
  | .special .nan => "NaN"
  | .special .infinity => "Infinity"
  | .special .minusInfinity => "-Infinity"
  | .str text => quoted text
  | .arr items => "[" ++ ",".intercalate (stableItems items) ++ "]"
  | .obj members => "\x7b" ++ ",".intercalate (((stableMembers members).mergeSort fun left right =>
      left.1 ≤ right.1).map fun entry => quoted entry.1 ++ ":" ++ entry.2) ++ "\x7d"

def stableItems : List Json → List String
  | [] => []
  | item :: items => stableText item :: stableItems items

def stableMembers : List (String × Json) → List (String × String)
  | [] => []
  | (key, value) :: members => (key, stableText value) :: stableMembers members

end

/-- `stable_hash`. -/
def stableHash (value : Json) : String := library.sha256 (stableText library value)

/-- `raw_envelope`. -/
def rawEnvelope (provider : String) (identity : String) (metadata : Object) (response : Response)
    (retentionClass : String) : RawItemEnvelope :=
  let hash := stableHash library (.obj metadata)
  { externalId := some identity
    fetchedAt := response.receivedAt
    httpStatus := some response.statusCode
    contentType := some "application/json"
    payloadLocation := some ("internal://provider/" ++ provider ++ "/" ++ hash)
    payloadHash := some hash
    retentionClass := retentionClass }

/-- The facts of an item, which have to fit their contract. -/
def validated (provider operation : String) (factual : Object) : Attempt Object :=
  match validateFactualPayload library provider operation 1 factual with
  | .ok normal => .ok normal
  | .error raised =>
      if raised.isAny [.projectionContractError] then
        fail .contractInvalid "provider_factual_contract_invalid"
      else .error (.raised raised)

/-- The text of a cursor. -/
def positionCursor (position : String × String) : String :=
  stableText library (.obj [("provider_item_id", .str position.2),
    ("published_at", .str position.1)])

/-- The result of the items of an answer. -/
def resultOf (provider : String) (items : List Item) (hasMore : Bool) : ProviderFetchResult where
  rawItems := items.map Item.raw
  sanitizedMetadata := items.map Item.metadata
  nextCursor := some (positionCursor library (latestPosition (items.map Item.position)))
  hasMore := hasMore
  safeErrors := []
  provider := provider
  contractVersion := 1
  displayProjections := items.map Item.display
  factualProjections := items.map Item.factual
  continuation := none
  rejectedRowHashes := []
  coverageIncomplete := false
  metadata_count := by simp
  display_count := .inr (by simp)
  factual_count := .inr (by simp)

/-- The transport, which a request with a secret does not reach. -/
def sendSafely (transport : Sent → Transported) (sent : Sent) : Transported :=
  if sent.isSafe library then transport sent else .failed

/-! ### News -/

/-- `_validate_request`. -/
def marketauxRequestError (now : Int) (request : ProviderFetchRequest) : Option String :=
  if !(1 ≤ request.limit && request.limit ≤ 3) then some "provider_record_limit_invalid"
  else if request.deadlineAt ≤ now then some "provider_deadline_invalid"
  else marketauxConfigError library request.config

/-- `_decode_cursor`, of a cursor that is there. -/
def decodePosition (loads : String → Result Json) (cursor : String) : Attempt (Option (String × String)) :=
  match loads cursor with
  | .ok (.obj held) =>
      match Object.get held "published_at", Object.get held "provider_item_id" with
      | .str published, .str identity =>
          pure (if hasMarker published || hasMarker identity then none else some (published, identity))
      | _, _ => pure none
  | .ok _ => pure none
  | .error raised =>
      if raised.isAny [.typeError, .valueError] then pure none else .error (.raised raised)

/-- `_published_after_param`, of years of four digits. -/
def publishedAfter (published : String) : Attempt (Option String) :=
  match fromIsoFormat (replaceZ published.toList) with
  | some (here, some offset) =>
      if inRange (here - offset) then
        pure (some (String.ofList ((isoFormat (here - offset) 0).take 19)))
      else .error (.raised ⟨.overflowError, "date value out of range"⟩)
  | _ => pure none

/-- What a cursor adds to the parameters. -/
def cursorParams (loads : String → Result Json) : Option String → Attempt Object
  | none => pure []
  | some cursor => do
      let position ← decodePosition loads cursor
      let position ← given position .configInvalid "provider_cursor_invalid"
      let after ← publishedAfter position.1
      let after ← given after .configInvalid "provider_cursor_invalid"
      pure [("published_after", .str after)]

/-- The request for a page of news. -/
def marketauxSent (request : ProviderFetchRequest) (after : Object) : Sent :=
  let config := request.config
  ⟨"news_all", [("search", .str (strOf library (config.getD "query" (.str "")))),
      ("limit", .int request.limit), ("page", .int 1)] ++
    (if isPlainText (config.get "language") then [("language", config.get "language")] else []) ++
    (match config.get "symbols" with
      | .arr (first :: rest) => [("symbols", .str (",".intercalate ((first :: rest).map (strOf library))))]
      | _ => []) ++ after⟩

/-- `_retry_after`: the seconds of the header, up to an hour. -/
def retryAfter (response : Response) : Option (Nat × Nat) :=
  match response.retryAfter.bind library.toFloat with
  | some (.float numerator scale) =>
      if 0 ≤ numerator ∧ numerator ≤ 3600 * 2 ^ scale then some (numerator.toNat, scale) else none
  | some (.special .minusZero) => some (0, 0)
  | _ => none

/-- `_response_items`. -/
def responseItems (body : Json) : Option (List Object) :=
  match body with
  | .obj body =>
      match Object.get body "data" with
      | .arr data => data.mapM Json.obj?
      | _ => none
  | _ => none

/-- What is noted of a news item. -/
def marketauxMetadata (item : Object) : Object :=
  [("provider_item_id", item.get "provider_item_id"), ("published_at", item.get "published_at"),
    ("field_names", item.get "field_names"), ("has_title", .bool (!isNull (item.get "display_title"))),
    ("has_description", .bool false), ("has_snippet", .bool false),
    ("has_source_url", .bool (!isNull (item.get "display_url")))]

/-- What is shown of a news item. -/
def marketauxDisplay (item : Object) : Object :=
  [("provider_item_id", item.get "provider_item_id"), ("published_at", item.get "published_at")] ++
    (if isNull (item.get "display_title") then [] else [("display_title", item.get "display_title")]) ++
    (if isNull (item.get "display_url") then [] else [("display_url", item.get "display_url")])

/-- The item of a row of news. -/
def marketauxItem (config : Object) (response : Response) (row : Object) : Attempt Item := do
  let sanitized ← Attempt.of (sanitizeItem library row)
  let sanitized ← given sanitized .contractInvalid "provider_item_identity_invalid"
  let factual ← validated library "marketaux" "news_all" (marketauxPayload config sanitized)
  let metadata := marketauxMetadata sanitized
  pure ⟨rawEnvelope library "marketaux" (strAt sanitized "provider_item_id") metadata response
    "metadata_only", metadata, factual, marketauxDisplay sanitized⟩

/-- `MarketauxRealAdapter.fetch`. -/
def marketauxFetch (loads : String → Result Json) (transport : Sent → Transported) (now : Int)
    (credential : Option String) (request : ProviderFetchRequest) : Attempt ProviderFetchResult := do
  ensure (credential == some "MARKETAUX_API_TOKEN") .configInvalid "provider_runtime_credential_missing"
  match marketauxRequestError library now request with
    | some message => fail .configInvalid message
    | none => do
        let after ← cursorParams loads request.cursor
        let sent := marketauxSent library request after
        if !sent.isSafe library then
          .error (.raised ⟨.valueError, "provider_transport_request_contains_secret"⟩)
        else do
          let response ← answered (retryAfter library) (transport sent)
          let rows ← given (responseItems response.body) .contractInvalid
            "provider_response_shape_invalid"
          let items ← (rows.take request.limit.toNat).mapM
            (marketauxItem library request.config response)
          ensure (!items.isEmpty) .contractInvalid "provider_response_empty"
          pure (resultOf library "marketaux" items (request.limit < rows.length))

/-! ### Quotes -/

/-- The number of a quote, if it is finite: an integer that is too large raises. -/
def finiteNumber : Json → Attempt Bool
  | .int value =>
      if value.natAbs < floatBound then pure true
      else .error (.raised ⟨.overflowError, "int too large to convert to float"⟩)
  | .float _ _ => pure true
  | .special value => pure (value == .minusZero)
  | _ => pure false

/-- What is noted of a quote. -/
def quoteMetadata (identity published symbol : String) (body : Object) : Object :=
  [("provider_item_id", .str identity), ("published_at", .str published),
    ("field_names", .arr (safeFieldNames body)), ("symbol", .str symbol),
    ("numeric_field_count", .int quoteFields.length)]

/-- The item of a quote. -/
def quoteItem (symbol : String) (response : Response) (body : Object) : Attempt Item := do
  let seconds ← given (body.get "t").int? .contractInvalid "provider_response_shape_invalid"
  let published ← given (isoTimestamp (.int seconds)) .contractInvalid "provider_quote_no_data"
  ensure (0 < seconds && 1970 < ((Text.number (published.toList.take 4)).getD 0)) .contractInvalid
    "provider_quote_no_data"
  let finite ← quoteFields.mapM fun key => finiteNumber (body.get key)
  ensure (finite.all id) .contractInvalid "provider_response_shape_invalid"
  ensure (!quoteFields.all fun key => (body.get key).eq (.int 0)) .contractInvalid
    "provider_quote_no_data"
  let factual ← validated library "finnhub" "quote" (quotePayload symbol published seconds body)
  let identity := symbol ++ ":" ++ toString seconds
  let metadata := quoteMetadata identity published symbol body
  pure ⟨rawEnvelope library "finnhub" identity metadata response "metadata_only", metadata, factual,
    [("provider_item_id", .str identity), ("published_at", .str published),
      ("display_title", .str ("Finnhub quote update — " ++ symbol))]⟩

/-- `FinnhubAdapter.fetch`. -/
def finnhubFetch (transport : Sent → Transported) (credential : Option String)
    (request : ProviderFetchRequest) : Attempt ProviderFetchResult := do
  ensure (credential == some "FINNHUB_API_KEY") .configInvalid "provider_runtime_credential_missing"
  ensure (request.limit == 1) .configInvalid "provider_config_invalid"
  let symbol ← given (quoteSymbol request.config) .configInvalid "provider_config_invalid"
  let response ← answered (fun _ => none) (sendSafely library transport
    ⟨"quote", [("symbol", .str (upperText symbol))]⟩)
  let body ← given response.body.obj? .contractInvalid "provider_response_shape_invalid"
  let item ← quoteItem library (upperText symbol) response body
  pure (resultOf library "finnhub" [item] false)

/-! ### Prices -/

/-- `isinstance(value, (int, float))`, of a value that is no boolean. -/
def isNumber : Json → Bool
  | .int _ | .float _ _ | .special _ => true
  | _ => false

/-- What is noted of a price. -/
def retailMetadata (identity published geography sector : String) (row : Object) : Object :=
  [("provider_item_id", .str identity), ("published_at", .str published),
    ("field_names", .arr (safeFieldNames row)), ("geography", .str geography),
    ("sector", .str sector), ("has_numeric_value", .bool true)]

/-- The item of a row of prices. -/
def retailItem (response : Response) (row : Json) : Attempt Item := do
  let row ← given row.obj? .contractInvalid "provider_response_shape_invalid"
  let invalid := "provider_item_identity_invalid"
  let published ← given (isoTimestamp (Object.get row "period")) .contractInvalid invalid
  let geography ← given (safeIdentifier 255 (orElse (Object.get row "stateid")
    (Object.get row "stateDescription"))) .contractInvalid invalid
  let sector ← given (safeIdentifier 255 (orElse (Object.get row "sectorid")
    (Object.get row "sectorName"))) .contractInvalid invalid
  ensure (isNumber (Object.get row "price")) .contractInvalid invalid
  let period := strOf library (Object.get row "period")
  -- the series is named before the facts are validated, so that its error leaves the adapter
  let series ← Attempt.of (eiaSeriesIdentity (.str geography) (.str sector) (.str "price"))
  let unit := (safeIdentifier 255 (orElse (Object.get row "price-units")
    (Object.get row "unit"))).getD "unknown"
  let factual ← validated library "eia" "electricity_retail_sales" (retailPayload (some published)
    series period geography sector (Object.get row "price") (.str unit))
  let identity := period ++ ":" ++ geography ++ ":" ++ sector
  let metadata := retailMetadata identity published geography sector row
  pure ⟨rawEnvelope library "eia" identity metadata response "metadata_only", metadata, factual,
    [("provider_item_id", .str identity), ("published_at", .str published),
      ("display_title", .str ("EIA electricity update — " ++ period))]⟩

/-- The rows of an answer. -/
def retailRows (body : Json) : Option (List Json) :=
  match body with
  | .obj body =>
      match Object.get body "response" with
      | .obj response => (Object.get response "data").arr?.filter (!·.isEmpty)
      | _ => none
  | _ => none

/-- `EiaAdapter.fetch`. -/
def eiaFetch (transport : Sent → Transported) (credential : Option String)
    (request : ProviderFetchRequest) : Attempt ProviderFetchResult := do
  ensure (credential == some "EIA_API_KEY") .configInvalid "provider_runtime_credential_missing"
  ensure (1 ≤ request.limit && request.limit ≤ 5 &&
    (request.config.get "dataset").eq (.str "electricity")) .configInvalid "provider_config_invalid"
  let response ← answered (fun _ => none) (sendSafely library transport
    ⟨"electricity_retail_sales", [("data[]", .str "price"), ("frequency", .str "monthly"),
      ("length", .int request.limit), ("sort[0][column]", .str "period"),
      ("sort[0][direction]", .str "desc")]⟩)
  let rows ← given (retailRows response.body) .contractInvalid "provider_response_shape_invalid"
  let items ← (rows.take request.limit.toNat).mapM (retailItem library response)
  pure (resultOf library "eia" items (request.limit < rows.length))

/-! ### Filings -/

/-- `_recent_rows`: the rows of the columns, as many as the shortest has. -/
def recentRows (body : Json) : List Object :=
  match body with
  | .obj body =>
      match Object.get body "filings" with
      | .obj filings =>
          match Object.get filings "recent" with
          | .obj recent =>
              let columns := recent.filterMap fun entry => entry.2.arr?.map (entry.1, ·)
              let size := ((columns.map fun column => column.2.length).min?).getD 0
              (List.range size).map fun index =>
                columns.map fun column => (column.1, column.2.getD index .null)
          | _ => []
      | _ => []
  | _ => []

/-- What is noted of a filing. -/
def filingMetadata (accession published ticker form : String) (row : Object) : Object :=
  [("provider_item_id", .str accession), ("published_at", .str published),
    ("field_names", .arr (safeFieldNames row)), ("ticker", .str ticker), ("form", .str form),
    ("has_primary_document", .bool true)]

/-- The item of a row of filings. -/
def filingItem (ticker cik : String) (response : Response) (row : Object) : Attempt Item := do
  let invalid := "provider_item_identity_invalid"
  let accession ← given (safeIdentifier 255 (row.get "accessionNumber")) .contractInvalid invalid
  let form ← given (safeIdentifier 50 (row.get "form")) .contractInvalid invalid
  let published ← given (isoTimestamp (row.get "filingDate")) .contractInvalid invalid
  let document ← given (safeIdentifier 255 (row.get "primaryDocument")) .contractInvalid
    "provider_item_reference_invalid"
  let url ← Attempt.of (secOfficialUrl cik accession document)
  let factual ← validated library "sec_edgar" "submissions_recent" (filingPayload (.str cik)
    (.str ticker) (some published) accession (strOf library (row.get "filingDate")) (.str form)
    (.str document) url)
  let metadata := filingMetadata accession published ticker form row
  pure ⟨rawEnvelope library "sec_edgar" accession metadata response "link_only", metadata, factual,
    [("provider_item_id", .str accession), ("published_at", .str published),
      ("display_title", .str ("SEC " ++ form ++ " filing — " ++ ticker))]⟩

/-- `SecEdgarAdapter.fetch`. -/
def secFetch (transport : Sent → Transported) (credential : Option String)
    (request : ProviderFetchRequest) : Attempt ProviderFetchResult := do
  ensure (credential == some "SEC_USER_AGENT") .configInvalid "provider_runtime_credential_missing"
  ensure (1 ≤ request.limit && request.limit ≤ 10) .configInvalid "provider_config_invalid"
  let filer ← given (filerOf request.config) .configInvalid "provider_config_invalid"
  let cik := String.ofList (zfill 10 filer.2.toList)
  let response ← answered (fun _ => none) (sendSafely library transport
    ⟨"submissions", [("cik", .str cik)]⟩)
  let rows := recentRows response.body
  ensure (!rows.isEmpty) .contractInvalid "provider_response_shape_invalid"
  let items ← (rows.take request.limit.toNat).mapM
    (filingItem library (upperText filer.1) cik response)
  pure (resultOf library "sec_edgar" items (request.limit < rows.length))

end Fetch

/-! ### The adapters -/

/-- The adapters of the first version. -/
inductive FirstAdapter where
  | marketaux
  | finnhub
  | eia
  | secEdgar
deriving DecidableEq, Repr

namespace FirstAdapter

/-- `provider_key`. -/
def provider : FirstAdapter → String
  | marketaux => "marketaux"
  | finnhub => "finnhub"
  | eia => "eia"
  | secEdgar => "sec_edgar"

/-- The operation whose contract the facts of the adapter fit. -/
def operation : FirstAdapter → String
  | marketaux => "news_all"
  | finnhub => "quote"
  | eia => "electricity_retail_sales"
  | secEdgar => "submissions_recent"

/-- What the adapter computes. -/
def attempt (library : StandardLibrary) (loads : String → Result Json)
    (transport : Sent → Transported) (now : Int) (credential : Option String)
    (request : ProviderFetchRequest) : FirstAdapter → Attempt ProviderFetchResult
  | marketaux => marketauxFetch library loads transport now credential request
  | finnhub => finnhubFetch library transport credential request
  | eia => eiaFetch library transport credential request
  | secEdgar => secFetch library transport credential request

/-- `fetch`. -/
def fetch (library : StandardLibrary) (loads : String → Result Json)
    (transport : Sent → Transported) (now : Int) (credential : Option String)
    (request : ProviderFetchRequest) (adapter : FirstAdapter) : Result ProviderFetchResult :=
  match adapter.attempt library loads transport now credential request with
  | .ok result => .ok result
  | .error (.failed error) => .ok (failedResult adapter.provider error)
  | .error (.raised error) => .error error

end FirstAdapter

end NewsCollect.Providers
