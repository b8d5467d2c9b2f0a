/-
**Factual payloads.**

What is known of an item is a payload of one of six contracts. A payload is checked for secret
markers, then field by field, and its fields are put into a normal form. Its hash is that of its
canonical JSON text.

* `StandardLibrary`: the functions of Python's library that are not defined here.
* `textOf`, `number`, `timestamp`, `symbolOf`, `facetOf`: the normal forms of the fields.
* `validateFactualPayload`, `normalizeAndClassify`, `canonicalProjectionHash`.
-/

import NewsCollect.Errors
import NewsCollect.Library.Contract
import NewsCollect.Library.IsoFormat
import NewsCollect.Library.Words

namespace NewsCollect.SafeProjection

open Calendar Contract Text

/-- `urlsplit(...)`. The port is computed when it is asked for. -/
structure SplitUrl where
  scheme : String
  netloc : String
  path : String
  query : String
  hostname : Option String
  username : Option String
  password : Option String
  port : Result (Option Nat)

/-- **The functions of the standard library** that are not defined here: hashes, addresses, the
text of a finite float and the number a text spells, small letters beyond ASCII, and the text of a
value that is not one. -/
structure StandardLibrary where
  sha256 : String → String
  urlsplit : String → Result SplitUrl
  floatText : Int → Nat → String
  parseQsl : String → Result (List (String × String))
  urlencode : List (String × String) → Result String
  urlunsplit : String → String → String → String → String → String
  toFloat : String → Option Json
  lower : String → String
  str : Json → String

/-! ### Markers -/

/-- The markers of a secret. -/
def markers : List String :=
  ["apikey", "api_key", "api-key", "apitoken", "api_token", "api-token", "authorization",
    "x-finnhub-token", "token", "secret", "password"]

/-- `_SECRET.search(text)`. -/
def hasMarker (text : String) : Bool := containsAny markers text.toList

mutual

/-- `_reject_unsafe`: a marker in a key or in a text, at any depth. -/
def isUnsafe : Json → Bool
  | .obj members => isUnsafeMembers members
  | .arr items => isUnsafeItems items
  | .str text => hasMarker text
  | _ => false

def isUnsafeItems : List Json → Bool
  | [] => false
  | item :: items => isUnsafe item || isUnsafeItems items

def isUnsafeMembers : List (String × Json) → Bool
  | [] => false
  | (key, value) :: rest => hasMarker key || isUnsafe value || isUnsafeMembers rest

end

/-! ### The normal forms of fields -/

def contractError {α : Type} (message : String) : Result α :=
  raise .projectionContractError message

/-- `_text`. -/
def textOf (maximum : Nat) : Json → Result String
  | .str raw =>
      let normalized := collapse raw.toList
      if normalized.isEmpty || maximum < normalized.length || containsAny markers normalized then
        contractError "projection_text_invalid"
      else .ok (String.ofList normalized)
  | _ => contractError "projection_text_invalid"

/-- `_text`, as a field. -/
def text (maximum : Nat) (value : Json) : Result Json := (textOf maximum value).map Json.str

/-- `_text(..., optional=True)`. -/
def optionalText (maximum : Nat) : Json → Result Json
  | .null => .ok .null
  | value => text maximum value

/-- The least integer that is too large for a float. -/
def floatBound : Nat := 2 ^ 1024 - 2 ^ 970

/-- `_number`: `float(value)` raises for an integer that is too large. -/
def number : Json → Result Json
  | .int value =>
      if value.natAbs < floatBound then .ok (.int value)
      else raise .overflowError "int too large to convert to float"
  | .float numerator scale => .ok (.float numerator scale)
  | .special .minusZero => .ok (.special .minusZero)
  | _ => contractError "projection_number_invalid"

/-- `_timestamp`: `astimezone(UTC)` raises where the year leaves its range. -/
def timestampOf : Json → Result String
  | .str raw =>
      match fromIsoFormat (replaceZ raw.toList) with
      | some (here, some offset) =>
          if inRange (here - offset) then .ok (String.ofList (isoFormat (here - offset) 0))
          else raise .overflowError "date value out of range"
      | _ => contractError "projection_timestamp_invalid"
  | _ => contractError "projection_timestamp_invalid"

def timestamp (value : Json) : Result Json := (timestampOf value).map Json.str

/-- `datetime.fromtimestamp(seconds, tz=UTC).isoformat()`. -/
def secondsText (seconds : Int) : Option String :=
  let instant := epoch + seconds * second
  if inRange instant then some (String.ofList (isoFormat instant 0)) else none

/-- `^[A-Z][A-Z0-9.-]{0,19}$`. -/
def isSymbol (text : List Char) : Bool :=
  headed isUpper (fun c => isUpper c || isDigit c || c == '.' || c == '-') 19 text

/-- `_symbol`. -/
def symbolOf (value : Json) : Result String := do
  let normalized ← textOf 20 value
  match upper normalized.toList with
    | some symbol =>
        if isSymbol symbol then pure (String.ofList symbol)
        else contractError "projection_symbol_invalid"
    | none => contractError "projection_symbol_invalid"

def symbol (value : Json) : Result Json := (symbolOf value).map Json.str

/-- `"/" in text or "\\" in text`; the third test of the source, for `"://"`, is one of a slash. -/
def hasSlash (text : List Char) : Bool := text.any fun c => c == '/' || c == '\\'

/-- `_opaque_id`. -/
def opaqueId (value : Json) : Result Json := do
  let normalized ← textOf 255 value
  if hasSlash normalized.toList then contractError "projection_provider_identity_invalid"
  else pure (.str normalized)

/-- `_facet`. -/
def facetOf (value : Json) : Result String := do
  let normalized ← textOf 100 value
  if hasSlash normalized.toList || (slug normalized.toList).isEmpty then
    contractError "projection_eia_facet_invalid"
  else pure (String.ofList (slug normalized.toList))

def facet (value : Json) : Result Json := (facetOf value).map Json.str

/-- `eia_series_identity`. -/
def eiaSeriesIdentity (geography sector metric : Json) : Result String := do
  let geography ← facetOf geography
  let sector ← facetOf sector
  let metric ← facetOf metric
  pure ("electricity/retail-sales/" ++ geography ++ "/" ++ sector ++ "/" ++ metric)

/-- `int(text)` of a text of digits. -/
def intOf (text : List Char) : Option Nat :=
  text.foldl (fun total c => total.bind fun value =>
    (decimalValue c).map fun digit => value * 10 + digit) (some 0)

/-- `sec_official_url`. -/
def secOfficialUrl (cik accession primaryDocument : String) : Result String :=
  match intOf cik.toList with
  | some filer =>
      .ok ("https://www.sec.gov/Archives/edgar/data/" ++ toString filer ++ "/" ++
        String.ofList (accession.toList.filter (· ≠ '-')) ++ "/" ++ primaryDocument)
  | none => raise .valueError "invalid literal for int() with base 10"

/-- `[A-Za-z0-9][A-Za-z0-9._:-]{0,254}`. -/
def isMarketauxIdentity (text : List Char) : Bool :=
  let inside := fun c => isUpper c || isLower c || isDigit c
  headed inside (fun c => inside c || c == '.' || c == '_' || c == ':' || c == '-') 254 text

/-- `normalize_marketaux_provider_identity`, where it does not raise. -/
def marketauxIdentity? : Json → Option String
  | .str value =>
      if isMarketauxIdentity (strip value.toList) then some (String.ofList (strip value.toList))
      else none
  | _ => none

def marketauxIdentity (value : Json) : Result Json :=
  match marketauxIdentity? value with
  | some identity => .ok (.str identity)
  | none => contractError "projection_provider_identity_invalid"

/-- A value that has to be this one. -/
def exactly (expected : Json) (message : String) (value : Json) : Result Unit :=
  require (value.eq expected) .projectionContractError message

/-! ### Contracts -/

/-- `_exact`, and the steps of a contract. -/
def contract (keys : List String) (steps : List (Step PyError)) (payload : Object) :
    Result Object :=
  if payload.sameKeys keys then run steps payload
  else contractError "projection_payload_fields_invalid"

/-- A check of one field. -/
def checkField (key : String) (holds : Json → Result Unit) : Step PyError :=
  .check [key] fun values => holds (values.headD .null)

section Contracts

variable (library : StandardLibrary)

/-- `_public_url`. -/
def isPublicUrl : Json → Result Bool
  | .str value =>
      if 4000 < value.length || hasMarker value then .ok false
      else do
        let parsed ← library.urlsplit value
        pure ((parsed.scheme == "http" || parsed.scheme == "https") &&
          parsed.hostname.any (· ≠ "") && parsed.username.isNone && parsed.password.isNone)
  | _ => .ok false

/-- An address that is public, or absent. -/
def publicUrl (value : Json) : Result Unit :=
  match value with
  | .null => .ok ()
  | value => do
      let isPublic ← isPublicUrl library value
      require isPublic .projectionContractError "projection_url_invalid"

/-- The query of a news item. -/
def query (value : Json) : Result Json := do
  let query ← textOf 500 value
  require (!contains "://".toList query.toList) .projectionContractError
    "projection_query_invalid"
  pure (.str query)

/-- `^[A-Za-z]{2,3}(?:-[A-Za-z0-9]{2,8})?$`. -/
def isLanguage (text : List Char) : Bool :=
  let letter := fun c => isUpper c || isLower c
  bounded letter 2 3 (text.takeWhile letter) &&
    match text.dropWhile letter with
    | [] => true
    | c :: region => c == '-' && bounded (fun c => letter c || isDigit c) 2 8 region

/-- The language of a news item, in small letters. -/
def language : Json → Result Json
  | .null => .ok .null
  | value => do
      let language ← textOf 12 value
      require (isLanguage language.toList) .projectionContractError "projection_language_invalid"
      pure (.str (String.ofList (language.toList.flatMap lowerChar)))

/-- The symbols of a news item. -/
def symbols : Json → Result Json
  | .null => .ok .null
  | .arr items => do
      require (items.length ≤ 10 && items.all Json.isStr) .projectionContractError
        "projection_symbols_invalid"
      let symbols ← items.mapM symbol
      pure (.arr symbols)
  | _ => contractError "projection_symbols_invalid"

def marketauxKeys : List String :=
  ["provider_item_id", "published_at", "title", "canonical_url", "source_identity", "query",
    "language", "symbols", "description_coverage", "snippet_coverage"]

/-- `_marketaux`. -/
def marketauxSteps : List (Step PyError) :=
  [.field "provider_item_id" marketauxIdentity, .field "query" query,
    .field "published_at" timestamp, .field "title" (optionalText 2000),
    .field "source_identity" (optionalText 2000), .field "language" language,
    .field "symbols" symbols, checkField "canonical_url" (publicUrl library),
    checkField "description_coverage" (exactly (.str "blocked") "projection_coverage_invalid"),
    checkField "snippet_coverage" (exactly (.str "blocked") "projection_coverage_invalid")]

/-- The provider's timestamp of a quote: a positive integer. -/
def providerTimestamp : Json → Result Unit
  | .int seconds =>
      require (0 < seconds) .projectionContractError "projection_provider_timestamp_invalid"
  | _ => contractError "projection_provider_timestamp_invalid"

/-- The identity of a quote is its symbol and its timestamp. -/
def quoteIdentity : List Json → Result Unit
  | [.str symbol, .int seconds, identity] =>
      exactly (.str (symbol ++ ":" ++ toString seconds)) "projection_provider_identity_invalid"
        identity
  | _ => contractError "projection_provider_identity_invalid"

/-- The time of a quote is that of its timestamp. -/
def quoteTime : List Json → Result Unit
  | [.int seconds, published] =>
      match secondsText seconds with
      | some time => exactly (.str time) "projection_provider_identity_invalid" published
      | none => contractError "projection_provider_timestamp_invalid"
  | _ => contractError "projection_provider_identity_invalid"

def quoteKeys : List String :=
  ["provider_item_id", "published_at", "symbol", "provider_timestamp", "c", "d", "dp", "h", "l",
    "o", "pc", "currency", "exchange"]

/-- `_finnhub`. -/
def quoteSteps : List (Step PyError) :=
  [.field "published_at" timestamp, .field "symbol" symbol, .field "currency" (text 100),
    .field "exchange" (text 100), checkField "provider_timestamp" providerTimestamp,
    .check ["symbol", "provider_timestamp", "provider_item_id"] quoteIdentity,
    .check ["provider_timestamp", "published_at"] quoteTime] ++
    ["c", "d", "dp", "h", "l", "o", "pc"].map fun key => .field key number

/-- `^(\d{4})-(\d{2})$`, with a month. -/
def isMonth (text : List Char) : Bool :=
  shaped [isDecimal, isDecimal, isDecimal, isDecimal, (· == '-'), isDecimal, isDecimal] text &&
    (intOf (text.drop 5)).any fun month => 1 ≤ month && month ≤ 12

def eiaPeriod : Json → Result Unit
  | .str period =>
      require (isMonth period.toList) .projectionContractError "projection_eia_period_invalid"
  | _ => contractError "projection_eia_period_invalid"

/-- The dataset of a price. -/
def eiaDataset (value : Json) : Result Json := do
  let dataset ← textOf 100 value
  require (dataset == "electricity") .projectionContractError "projection_eia_series_invalid"
  pure (.str dataset)

/-- The series of a price is that of its facets. -/
def eiaSeries : List Json → Result Unit
  | [geography, sector, metric, series] => do
      let expected ← eiaSeriesIdentity geography sector metric
      exactly (.str expected) "projection_eia_series_invalid" series
  | _ => contractError "projection_eia_series_invalid"

def eiaKeys : List String :=
  ["provider_item_id", "published_at", "period", "dataset", "series_identity", "geography",
    "sector", "metric", "value", "unit"]

/-- `_eia`. -/
def eiaSteps : List (Step PyError) :=
  [.field "provider_item_id" opaqueId, .field "published_at" timestamp,
    checkField "period" eiaPeriod, .field "dataset" eiaDataset, .field "geography" facet,
    .field "sector" facet, .field "metric" facet,
    .check ["geography", "sector", "metric", "series_identity"] eiaSeries,
    .field "unit" (text 100), .field "value" number]

/-- `^\d{10}$` and `^\d{10}-\d{2}-\d{6}$`. -/
def secReference : List Json → Result Unit
  | [.str cik, .str accession] =>
      require (shaped (List.replicate 10 isDecimal) cik.toList &&
          shaped (List.replicate 10 isDecimal ++ [(· == '-'), isDecimal, isDecimal, (· == '-')] ++
            List.replicate 6 isDecimal) accession.toList)
        .projectionContractError "projection_sec_reference_invalid"
  | _ => contractError "projection_sec_reference_invalid"

/-- A date in the calendar format. -/
def secFilingDate : Json → Result Unit
  | .str date =>
      require ((isoDate date.toList).any fun parsed => parsed.text == date.toList)
        .projectionContractError "projection_sec_reference_invalid"
  | _ => contractError "projection_sec_reference_invalid"

/-- `^[A-Za-z0-9][A-Za-z0-9._-]{0,254}$`. -/
def isDocument (text : List Char) : Bool :=
  let inside := fun c => isUpper c || isLower c || isDigit c
  headed inside (fun c => inside c || c == '.' || c == '_' || c == '-') 254 text

def secDocument : Json → Result Unit
  | .str document =>
      require (isDocument document.toList && !contains "..".toList document.toList)
        .projectionContractError "projection_sec_reference_invalid"
  | _ => contractError "projection_sec_reference_invalid"

/-- The identity of a filing is its accession number. -/
def secIdentity : List Json → Result Unit
  | [identity, accession] => exactly accession "projection_provider_identity_invalid" identity
  | _ => contractError "projection_provider_identity_invalid"

/-- The address of a filing is the official one. -/
def secUrl : List Json → Result Unit
  | [.str cik, .str accession, .str document, source, url] => do
      let expected ← secOfficialUrl cik accession document
      require (source matches .bool true) .projectionContractError
        "projection_sec_reference_invalid"
      exactly (.str expected) "projection_sec_reference_invalid" url
  | _ => contractError "projection_sec_reference_invalid"

def secKeys : List String :=
  ["provider_item_id", "published_at", "cik", "ticker", "accession_number", "filing_date", "form",
    "primary_document", "official_url", "official_source"]

/-- `_sec`, but for the file. -/
def secSteps : List (Step PyError) :=
  [.field "published_at" timestamp, .field "cik" (text 10), .field "accession_number" (text 20),
    .field "primary_document" (text 255), .check ["cik", "accession_number"] secReference,
    checkField "filing_date" secFilingDate, checkField "primary_document" secDocument,
    .check ["provider_item_id", "accession_number"] secIdentity, .field "ticker" symbol,
    .field "form" (text 50),
    .check ["cik", "accession_number", "primary_document", "official_source", "official_url"]
      secUrl]

/-- `CIK\d{10}(?:-submissions-\d{3})?\.json`. -/
def isSubmissionsFile (text : List Char) : Bool :=
  let word := fun (text : String) => text.toList.map fun c => (· == c)
  let filer := word "CIK" ++ List.replicate 10 isDecimal
  shaped (filer ++ word ".json") text ||
    shaped (filer ++ word "-submissions-" ++ List.replicate 3 isDecimal ++ word ".json") text

/-- The file a filing has been read from, if it is named. -/
def secFile (cik reference : Json) : Result Unit :=
  match cik, reference with
  | .str cik, .str reference =>
      require (isSubmissionsFile reference.toList && ("CIK" ++ cik).toList.isPrefixOf
        reference.toList) .projectionContractError "projection_sec_reference_invalid"
  | _, _ => contractError "projection_sec_reference_invalid"

/-- `_sec`. -/
def sec (payload : Object) : Result Object := do
  let result ← contract secKeys secSteps (payload.without ["submissions_file"])
  match payload.get "submissions_file" with
    | .null => pure result
    | reference => do
        secFile (result.get "cik") reference
        pure (result.set "submissions_file" reference)

/-- The identity of an item of company news. -/
def newsIdentity : Json → Result Unit
  | .str identity =>
      require ("company-news:".toList.isPrefixOf identity.toList) .projectionContractError
        "projection_provider_identity_invalid"
  | _ => contractError "projection_provider_identity_invalid"

def companyNewsKeys : List String :=
  ["provider_item_id", "published_at", "title", "canonical_url", "source_identity", "symbol",
    "category", "summary_coverage"]

/-- `_company_news`. -/
def companyNewsSteps : List (Step PyError) :=
  [.field "provider_item_id" opaqueId, checkField "provider_item_id" newsIdentity,
    .field "published_at" timestamp, .field "symbol" symbol, .field "title" (optionalText 2000),
    .field "source_identity" (optionalText 2000), .field "category" (optionalText 2000),
    checkField "canonical_url" (publicUrl library),
    checkField "summary_coverage" (exactly (.str "blocked") "projection_coverage_invalid")]

/-- `[A-Z0-9-]{1,12}`. -/
def isRegion (text : List Char) : Bool :=
  bounded (fun c => isUpper c || isDigit c || c == '-') 1 12 text

/-- `rto_series_identity`. -/
def rtoSeriesIdentity (region metric : String) : Result String :=
  if isRegion region.toList && (metric == "D" || metric == "NG") then
    .ok ("electricity/rto/region-data/" ++ region ++ "/" ++ metric)
  else contractError "projection_rto_series_invalid"

/-- `str(value)`, of the values whose text may be a region. -/
def regionText : Json → String
  | .str text => text
  | .int value => toString value
  | _ => ""

/-- `\d{4}-\d{2}-\d{2}T\d{2}`. -/
def isHour (text : List Char) : Bool :=
  shaped [isDecimal, isDecimal, isDecimal, isDecimal, (· == '-'), isDecimal, isDecimal, (· == '-'),
    isDecimal, isDecimal, (· == 'T'), isDecimal, isDecimal] text

def rtoPeriod : Json → Result Unit
  | .str period => do
      require (isHour period.toList) .projectionContractError "projection_rto_period_invalid"
      let _ ← timestampOf (.str (period ++ ":00:00+00:00"))
      pure ()
  | _ => contractError "projection_rto_period_invalid"

/-- `"rto:" + sha256(...)`. -/
def rtoIdentity (series period : String) : String :=
  "rto:" ++ library.sha256 (series ++ ":" ++ period)

/-- The series and the identity of a value are those of its region, metric and period. -/
def rtoSeries : List Json → Result Unit
  | [.str period, region, metric, series, identity] => do
      let expected ← rtoSeriesIdentity (regionText region) (regionText metric)
      exactly (.str expected) "projection_rto_identity_invalid" series
      exactly (.str (rtoIdentity library expected period)) "projection_rto_identity_invalid" identity
  | _ => contractError "projection_rto_identity_invalid"

/-- The time of a value is that of its period. -/
def rtoTime : List Json → Result Unit
  | [.str period, published] => do
      let timestamp ← timestampOf (.str (period ++ ":00:00+00:00"))
      exactly (.str timestamp) "projection_rto_identity_invalid" published
  | _ => contractError "projection_rto_identity_invalid"

def rtoKeys : List String :=
  ["provider_item_id", "published_at", "period", "dataset", "series_identity", "region", "metric",
    "value", "unit"]

/-- `_rto`. -/
def rtoSteps : List (Step PyError) :=
  [checkField "dataset" (exactly (.str "electricity_rto_region_data")
      "projection_rto_series_invalid"),
    checkField "period" rtoPeriod,
    .check ["period", "region", "metric", "series_identity", "provider_item_id"]
      (rtoSeries library),
    .field "published_at" timestamp, .check ["period", "published_at"] rtoTime,
    .field "value" number, .field "unit" (text 100)]

/-- `validate_factual_payload`. -/
def validateFactualPayload (provider operation : String) (schemaVersion : Int) (payload : Object) :
    Result Object :=
  if schemaVersion ≠ 1 then contractError "projection_contract_unknown"
  else if isUnsafe (.obj payload) then contractError "projection_secret_marker_detected"
  else
    match provider, operation with
    | "marketaux", "news_all" => contract marketauxKeys (marketauxSteps library) payload
    | "finnhub", "quote" => contract quoteKeys quoteSteps payload
    | "finnhub", "company_news" => contract companyNewsKeys (companyNewsSteps library) payload
    | "eia", "electricity_retail_sales" => contract eiaKeys eiaSteps payload
    | "eia", "electricity_rto_region_data" => contract rtoKeys (rtoSteps library) payload
    | "sec_edgar", "submissions_recent" => sec payload
    | _, _ => contractError "projection_contract_unknown"

end Contracts

/-! ### Quality and hash -/

inductive ProjectionQuality where
  | complete
  | partialFacts
deriving DecidableEq, Repr

/-- What the quality of a payload is decided by: fields that may be absent, or unknown. -/
def isPartial (provider operation : String) (normalized : Object) : Bool :=
  if (provider, operation) = ("marketaux", "news_all") ∨
      (provider, operation) = ("finnhub", "company_news") then
    ["title", "canonical_url", "source_identity"].any fun key =>
      (normalized.get key) matches .null
  else if provider = "finnhub" then
    ["currency", "exchange"].any fun key => (normalized.get key).eq (.str "unknown")
  else if provider = "eia" then (normalized.get "unit").eq (.str "unknown")
  else false

/-- `normalize_and_classify_factual_payload`. -/
def normalizeAndClassify (library : StandardLibrary) (provider operation : String)
    (schemaVersion : Int) (payload : Object) : Result (Object × ProjectionQuality) := do
  let normalized ← validateFactualPayload library provider operation schemaVersion payload
  pure (normalized, if isPartial provider operation normalized then .partialFacts else .complete)

/-- A code unit in four hexadecimal digits. -/
def hexUnit (unit : Nat) : List Char :=
  '\\' :: 'u' :: [unit / 4096 % 16, unit / 256 % 16, unit / 16 % 16, unit % 16].map fun digit =>
    Char.ofNat (if digit < 10 then 48 + digit else 87 + digit)

/-- A character of a JSON text in ASCII. -/
def escapeChar (c : Char) : List Char :=
  if c = '"' ∨ c = '\\' then ['\\', c]
  else if 32 ≤ c.toNat ∧ c.toNat < 127 then [c]
  else if c.toNat = 10 then ['\\', 'n']
  else if c.toNat = 13 then ['\\', 'r']
  else if c.toNat = 9 then ['\\', 't']
  else if c.toNat = 8 then ['\\', 'b']
  else if c.toNat = 12 then ['\\', 'f']
  else if c.toNat < 0x10000 then hexUnit c.toNat
  else hexUnit (0xD800 + (c.toNat - 0x10000) / 0x400) ++ hexUnit (0xDC00 + (c.toNat - 0x10000) % 0x400)

/-- A JSON text in quotes. -/
def quoted (text : String) : String :=
  String.ofList ('"' :: text.toList.flatMap escapeChar ++ ['"'])

section Canonical

variable (library : StandardLibrary)

mutual

/-- `json.dumps(value, sort_keys=True, separators=(",", ":"), allow_nan=False)`, where it does not
raise. -/
def canonicalText : Json → Option String
  | .null => some "null"
  | .bool value => some (if value then "true" else "false")
  | .int value => some (toString value)
  | .float numerator scale => some (library.floatText numerator scale)
  | .special .minusZero => some "-0.0"
  | .special _ => none
  | .str text => some (quoted text)
  | .arr items => (canonicalItems items).map fun texts => "[" ++ ",".intercalate texts ++ "]"
  | .obj members => (canonicalMembers members).map fun texts =>
      "\x7b" ++ ",".intercalate ((texts.mergeSort fun left right => left.1 ≤ right.1).map fun entry =>
        quoted entry.1 ++ ":" ++ entry.2) ++ "\x7d"

def canonicalItems : List Json → Option (List String)
  | [] => some []
  | item :: items => do
      let first ← canonicalText item
      let rest ← canonicalItems items
      pure (first :: rest)

def canonicalMembers : List (String × Json) → Option (List (String × String))
  | [] => some []
  | (key, value) :: members => do
      let first ← canonicalText value
      let rest ← canonicalMembers members
      pure ((key, first) :: rest)

end

/-- `canonical_projection_hash`. -/
def canonicalProjectionHash (payload : Object) : Result String :=
  match canonicalText library (.obj payload) with
  | some text => .ok (library.sha256 text)
  | none => contractError "projection_payload_not_canonical_json"

end Canonical

end NewsCollect.SafeProjection
