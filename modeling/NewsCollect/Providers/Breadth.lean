/-
**The pages of the bounded adapters.**

One fetch of a bounded operation reads one response body. `payloads` turns it into the rows to
store, tells whether the provider has more, and computes the state to continue from. The rows of a
page go through rules of other modules (sanitising, hashing, canonical addresses); those are the
fields of `RowRules`, and nothing here depends on what they compute.

* `marketauxPayloads`, `finnhubPayloads`, `eiaPayloads`, `secPayloads`: one function a provider.
* `payloads`: the dispatch between them.
-/

import NewsCollect.Providers.BreadthConfig
import NewsCollect.Providers.Continuation
import NewsCollect.Providers.Payloads

namespace NewsCollect.Providers

open Calendar Text

/-- The rules the adapter takes from other modules. -/
structure RowRules where
  sanitizeItem : Object → Result (Option Object)
  canonicalUrl : Json → Result (Option String)
  sha256 : String → String
  canonicalHash : Object → Result String
  toFloat : String → Option Json
  eiaSeries : String → String → Result String
  rtoSeries : String → String → Result String
  officialUrl : String → String → Json → String

/-- One page: the rows, whether there are more, and the state to continue from. -/
structure Page where
  payloads : List Object
  more : Bool
  progress : Object
  rejected : List String

/-- The rows read so far, and the hashes of those rejected. -/
structure Rows where
  payloads : List Object
  rejected : List String

def Rows.keep (rows : Rows) (payload : Object) : Rows :=
  { rows with payloads := rows.payloads ++ [payload] }

def Rows.reject (rows : Rows) (hash : String) : Rows :=
  { rows with rejected := rows.rejected ++ [hash] }

section Values

/-- A string under a key. -/
def strAt (config : Object) (key : String) : String := ((config.get key).str?).getD ""

/-- The strings of a list. -/
def stringsAt (config : Object) (key : String) : List String :=
  (((config.get key).arr?).getD []).filterMap Json.str?

/-- The instant of a number of seconds since 1970, a double of so many binary places. -/
def timestampMicros (numerator : Int) (scale : Nat) : Int :=
  fromTimestamp (numerator.tdiv (2 ^ scale)) ((numerator.tmod (2 ^ scale) : Int) / 2 ^ scale)

/-- `iso_timestamp`. -/
def isoTimestamp (value : Json) : Option String :=
  let ofNumber (numerator : Int) (scale : Nat) : Option String :=
    let instant := timestampMicros numerator scale
    if inRange instant then some (String.ofList (isoFormat instant 0)) else none
  match value with
  | .int seconds => ofNumber seconds 0
  | .float numerator scale => ofNumber numerator scale
  | .special .minusZero => ofNumber 0 0
  | .str text =>
      if text = "" then none
      else
        let zoned := replaceZ text.toList
        let whole := if zoned.length = 7 ∧ zoned[4]? = some '-' then zoned ++ ['-', '0', '1'] else zoned
        (fromIsoFormat whole).map fun (here, offset) =>
          String.ofList (isoFormat here (offset.getD 0))
  | _ => none

/-- `[A-Za-z0-9_-]{1,160}`. -/
def isIdentity (text : List Char) : Bool :=
  bounded (fun c => isUpper c || isLower c || isDigit c || c == '_' || c == '-') 1 160 text

/-- The markers of a secret, whatever the case of their letters. -/
def hasSecret (text : String) : Bool :=
  containsAny ["apikey", "api_key", "api-key", "apitoken", "api_token", "api-token",
    "authorization", "secret", "password"] text.toList

/-- `_rejection_hash`. -/
def rejectionHash (rules : RowRules) (provider operation identity : String) : Result String :=
  if identity = "" ∨ 512 < identity.length ∨ hasSecret identity then
    raise .valueError "breadth_item_untraceable"
  else .ok (rules.sha256 (provider ++ ":" ++ operation ++ ":" ++ identity))

/-- `_key`: the last key of a state. -/
def lastKey (state : Object) : Result (String × String) :=
  match state.getD "last_key" (.arr [.str "", .str ""]) with
  | .arr [.str first, .str second] =>
      if first.length ≤ 200 ∧ second.length ≤ 200 then .ok (first, second)
      else raise .valueError "breadth_continuation_invalid"
  | _ => raise .valueError "breadth_continuation_invalid"

/-- The order of pairs of strings. -/
def keyLe (left right : String × String) : Bool :=
  left.1 < right.1 || (left.1 == right.1 && left.2 ≤ right.2)

/-- `sort(key=...)`: a stable sort by a pair of strings. -/
def sortByKey (key : Object → String × String) (rows : List Object) : List Object :=
  rows.mergeSort fun left right => keyLe (key left) (key right)

/-- `_deduplicate_payloads`: one payload an identity; two with one identity must have one hash. -/
def deduplicate (rules : RowRules) :
    List Object → List (String × String × Object) → Result (List Object)
  | [], held => .ok (held.map fun entry => entry.2.2)
  | payload :: rest, held =>
      match payload.get "provider_item_id" with
      | .str identity => do
          let digest ← rules.canonicalHash payload
          match held.lookup identity with
            | some prior =>
                if prior.1 = digest then deduplicate rules rest held
                else raise .valueError "breadth_duplicate_identity_conflict"
            | none => deduplicate rules rest (held ++ [(identity, digest, payload)])
      | _ => raise .valueError "breadth_item_untraceable"

end Values

/-! ### News pages by number -/

/-- One row of a news page. -/
def marketauxRow (rules : RowRules) (config : Object) (rows : Rows) (row : Json) : Result Rows :=
  match row with
  | .obj row => do
      let sanitized ← rules.sanitizeItem row
      match sanitized with
        | none =>
            match Object.get row "uuid" with
              | .str identity => do
                  require (isIdentity identity.toList) .valueError "breadth_item_untraceable"
                  let hash ← rejectionHash rules "marketaux" "news_all" identity
                  pure (rows.reject hash)
              | _ => raise .valueError "breadth_item_untraceable"
        | some item => pure (rows.keep (marketauxPayload config item))
  | _ => raise .valueError "breadth_response_invalid"

/-- The number of all matches, of which the page has some. -/
def foundCount (body : Json) : Option Int :=
  match body.obj?.map (Object.get · "meta") with
  | some (.obj held) => (Object.get held "found").int?
  | _ => none

/-- The page, from what its rows gave and the number of all matches. -/
def marketauxPage (read : Rows) (rows limit : Nat) (page : Int) : Option Int → Result Page
  | some found => do
      let before : Int := (page - 1) * limit
      let after : Int := before + rows
      require (0 ≤ found && found ≤ 10000000) .valueError "breadth_pagination_invalid"
      require (!(found < after || (rows == 0 && before < found))) .valueError
        "breadth_pagination_invalid"
      require (!(after < found && rows ≠ limit)) .valueError "breadth_pagination_invalid"
      pure ⟨read.payloads, after < found, [("page", .int (page + 1))], read.rejected⟩
  | none => raise .valueError "breadth_pagination_invalid"

def marketauxRows (rules : RowRules) (body : Json) (config : Object) (limit : Nat) (page : Int)
    (rejected : List String) : Json → Result Page
  | .arr rows => do
      require (rows.length ≤ limit) .valueError "breadth_response_invalid"
      let read ← rows.foldlM (marketauxRow rules config) ⟨[], rejected⟩
      marketauxPage read rows.length limit page (foundCount body)
  | _ => raise .valueError "breadth_response_invalid"

def marketauxPayloads (rules : RowRules) (body : Json) (config : Object) (limit : Nat) (page : Int)
    (rejected : List String) : Result Page := do
  let data ← item body "data"
  marketauxRows rules body config limit page rejected data

/-! ### News pages by key -/

/-- The identity of a row of company news, if it is one. -/
def newsIdentity : Json → Option String
  | .int value => if isIdentity (toString value).toList then some (toString value) else none
  | .str text => if isIdentity text.toList then some text else none
  | _ => none

/-- The pair company news are ordered by. -/
def newsKey (payload : Object) : String × String :=
  (strAt payload "published_at", strAt payload "provider_item_id")

/-- An identity that is present, and is none. -/
def invalidIdentity (identity : Json) : Bool := !isNull identity && (newsIdentity identity).isNone

/-- The identity of a row by its number. -/
def idIdentity (identity : Json) : String :=
  "company-news:id:" ++ (newsIdentity identity).getD ""

/-- The identity of a row by its address. -/
def urlIdentity (rules : RowRules) (url : Option String) : String :=
  "company-news:url:" ++ rules.sha256 (url.getD "")

/-- The hash of a rejected row. -/
def rejectNews (rules : RowRules) (rows : Rows) (identity : String) : Result Rows := do
  let hash ← rejectionHash rules "finnhub" "company_news" identity
  pure (rows.reject hash)

/-- A row with an identity: rejected without a timestamp, left out outside the window. -/
def newsPayload (rules : RowRules) (config row : Object) (rows : Rows) (url : Option String)
    (identity : String) : Result Rows :=
  match isoTimestamp (row.get "datetime") with
  | none => rejectNews rules rows identity
  | some published =>
      if strAt config "start" ≤ String.ofList (published.toList.take 10) ∧
          String.ofList (published.toList.take 10) ≤ strAt config "end" then
        pure (rows.keep (companyNewsPayload config row url identity published))
      else pure rows

/-- A row whose address is canonical, or absent. -/
def addressedNews (rules : RowRules) (config row : Object) (rows : Rows) (url : Option String) :
    Result Rows :=
  if invalidIdentity (row.get "id") then do
    require url.isSome .valueError "breadth_item_untraceable"
    rejectNews rules rows (urlIdentity rules url)
  else do
    require (!(isNull (row.get "id") && url.isNone)) .valueError "breadth_item_untraceable"
    newsPayload rules config row rows url
      (if isNull (row.get "id") then urlIdentity rules url else idIdentity (row.get "id"))

/-- One row of company news. -/
def finnhubRow (rules : RowRules) (config : Object) (rows : Rows) (row : Json) : Result Rows :=
  match row with
  | .obj row =>
      match rules.canonicalUrl (Object.get row "url") with
      | .ok url => addressedNews rules config row rows url
      | .error raised =>
          if raised.isAny [.valueError] ∧ !isNull (Object.get row "id") ∧
              !invalidIdentity (Object.get row "id") then
            rejectNews rules rows (idIdentity (Object.get row "id"))
          else .error raised
  | _ => raise .valueError "breadth_response_invalid"

/-- The state after a page: the last key emitted, if any. -/
def newsProgress (emitted : List Object) : Object :=
  match emitted.getLast? with
  | some final => [("last_key", .arr [final.get "published_at", final.get "provider_item_id"])]
  | none => []

def finnhubPayloads (rules : RowRules) (body : Json) (config : Object) (limit : Nat)
    (state : Object) (rejected : List String) : Result Page :=
  match body with
  | .arr rows => do
      let read ← rows.foldlM (finnhubRow rules config) ⟨[], rejected⟩
      let last ← lastKey state
      let later := (sortByKey newsKey read.payloads).filter fun payload =>
        !keyLe (newsKey payload) last
      let kept ← deduplicate rules later []
      pure ⟨kept.take limit, limit < kept.length, newsProgress (kept.take limit), read.rejected⟩
  | _ => raise .valueError "breadth_response_invalid"

/-! ### Series pages by offset -/

/-- `[A-Za-z0-9-]{1,20}`. -/
def isRetailText (text : List Char) : Bool :=
  bounded (fun c => isUpper c || isLower c || isDigit c || c == '-') 1 20 text

/-- `[A-Z0-9:T-]{1,30}`. -/
def isRtoText (text : List Char) : Bool :=
  bounded (fun c => isUpper c || isDigit c || c == ':' || c == '-') 1 30 text

/-- `\d{4}-(0[1-9]|1[0-2])`. -/
def isMonthPeriod (text : List Char) : Bool :=
  shaped [isDecimal, isDecimal, isDecimal, isDecimal, (· == '-'), (· == '0'),
      fun c => 49 ≤ c.toNat && c.toNat < 58] text ||
    shaped [isDecimal, isDecimal, isDecimal, isDecimal, (· == '-'), (· == '1'), oneOf "012"] text

/-- `\d{4}-\d{2}-\d{2}T\d{2}`. -/
def isHourPeriod (text : List Char) : Bool :=
  shaped [isDecimal, isDecimal, isDecimal, isDecimal, (· == '-'), isDecimal, isDecimal, (· == '-'),
    isDecimal, isDecimal, (· == 'T'), isDecimal, isDecimal] text

/-- A text value that spells a number becomes that number. -/
def numeric (rules : RowRules) : Json → Json
  | .str text => (rules.toFloat text).getD (.str text)
  | value => value

/-- `value or default`. -/
def orElse (value default : Json) : Json := if value.truthy then value else default

/-- One row of retail sales. -/
def retailRow (rules : RowRules) (operation : String) (config : Object) (rows : Rows)
    (row : Object) : Result Rows :=
  match row.get "stateid", row.get "sectorid", row.get "period" with
  | .str geography, .str sector, .str period =>
      if !(isRetailText geography.toList && isRetailText sector.toList &&
          isRetailText period.toList) then
        raise .valueError "breadth_item_untraceable"
      else if !((stringsAt config "geographies").contains geography &&
          (stringsAt config "sectors").contains sector) then pure rows
      else if !isMonthPeriod period.toList then do
        let hash ← rejectionHash rules "eia" operation
          ("retail:" ++ period ++ ":" ++ geography ++ ":" ++ sector)
        pure (rows.reject hash)
      else if !(String.ofList ((strAt config "start").toList.take 7) ≤ period &&
          period ≤ String.ofList ((strAt config "end").toList.take 7)) then pure rows
      else do
        let series ← rules.eiaSeries geography sector
        pure (rows.keep (retailPayload (isoTimestamp (.str period)) series period geography sector
          (numeric rules (row.get "price")) (orElse (row.get "price-units") (.str "unknown"))))
  | _, _, _ => raise .valueError "breadth_item_untraceable"

/-- One row of regional operating data. -/
def rtoRow (rules : RowRules) (operation : String) (config : Object) (rows : Rows)
    (row : Object) : Result Rows :=
  match row.get "respondent", row.get "type", row.get "period" with
  | .str region, .str metric, .str period =>
      if !(isRtoText region.toList && isRtoText metric.toList && isRtoText period.toList) then
        raise .valueError "breadth_item_untraceable"
      else if !((stringsAt config "regions").contains region &&
          (stringsAt config "types").contains metric) then pure rows
      else if !isHourPeriod period.toList then do
        let hash ← rejectionHash rules "eia" operation
          ("rto:" ++ region ++ ":" ++ metric ++ ":" ++ period)
        pure (rows.reject hash)
      else if !(strAt config "start" ≤ period && period ≤ strAt config "end") then pure rows
      else do
        let series ← rules.rtoSeries region metric
        pure (rows.keep (rtoPayload rules.sha256 operation series period region metric
          (numeric rules (row.get "value")) (orElse (row.get "value-units") (.str "unknown"))))
  | _, _, _ => raise .valueError "breadth_item_untraceable"

/-- One row of a series page. -/
def eiaRow (rules : RowRules) (operation : String) (config : Object) (rows : Rows) (row : Json) :
    Result Rows :=
  match row with
  | .obj row =>
      if operation = "electricity_retail_sales" then retailRow rules operation config rows row
      else rtoRow rules operation config rows row
  | _ => raise .valueError "breadth_response_invalid"

/-- The page, from what its rows gave and the number of all rows. -/
def eiaPage (read : Rows) (rows : Nat) (offset : Int) : Option Int → Result Page
  | some total => do
      let confirmed : Int := offset + rows
      require (0 ≤ total && total ≤ 10000000) .valueError "breadth_pagination_invalid"
      require (!(total < confirmed || (rows == 0 && offset < total))) .valueError
        "breadth_pagination_invalid"
      require (!(confirmed < total && rows == 0)) .valueError "breadth_pagination_invalid"
      pure ⟨read.payloads, confirmed < total, [("offset", .int confirmed)], read.rejected⟩
  | none => raise .valueError "breadth_pagination_invalid"

def eiaRows (rules : RowRules) (operation : String) (response : Json) (config : Object)
    (limit : Nat) (offset : Int) (rejected : List String) : Json → Result Page
  | .arr rows => do
      require (rows.length ≤ limit) .valueError "breadth_response_invalid"
      let read ← rows.foldlM (eiaRow rules operation config) ⟨[], rejected⟩
      eiaPage read rows.length offset
        ((response.obj?.map (Object.get · "total")).bind Json.int?)
  | _ => raise .valueError "breadth_response_invalid"

def eiaPayloads (rules : RowRules) (operation : String) (body : Json) (config : Object)
    (limit : Nat) (offset : Int) (rejected : List String) : Result Page := do
  let response ← item body "response"
  let data ← item response "data"
  eiaRows rules operation response config limit offset rejected data

/-! ### Filings -/

/-- `_file`: a file name of this filer. -/
def secFile (cik : String) (name : Json) : Result String :=
  match name with
  | .str text =>
      if shaped (("CIK" ++ cik ++ "-submissions-").toList.map (fun c => (· == c)) ++
          List.replicate 3 isDecimal ++ ".json".toList.map (fun c => (· == c))) text.toList then
        .ok text
      else raise .valueError "sec_history_reference_invalid"
  | _ => raise .valueError "sec_history_reference_invalid"

/-- The columns of a body: of a history file the body itself, else its recent filings. -/
def secBody (body : Json) (history : Bool) : Result Object :=
  match body with
  | .obj body =>
      if history then .ok body
      else
        match Object.get body "filings" with
        | .obj filings =>
            match Object.get filings "recent", Object.get filings "files" with
            | .obj recent, .arr _ => .ok recent
            | _, _ => raise .valueError "breadth_response_invalid"
        | _ => raise .valueError "breadth_response_invalid"
  | _ => raise .valueError "breadth_response_invalid"

/-- `_sec_rows`: the rows of four columns of one length. -/
def secRows (body : Json) (history : Bool) : Result (List Object) := do
  let columns ← secBody body history
  match columns.get "accessionNumber", columns.get "filingDate", columns.get "form",
      columns.get "primaryDocument" with
  | .arr accessions, .arr dates, .arr forms, .arr documents =>
      require (accessions.length == dates.length && dates.length == forms.length &&
        forms.length == documents.length) .valueError "breadth_response_invalid"
      pure ((accessions.zip (dates.zip (forms.zip documents))).map fun row =>
        [("accessionNumber", row.1), ("filingDate", row.2.1), ("form", row.2.2.1),
          ("primaryDocument", row.2.2.2)])
  | _, _, _, _ => raise .valueError "breadth_response_invalid"

/-- `\d{10}-\d{2}-\d{6}`. -/
def isAccession (text : List Char) : Bool :=
  shaped (List.replicate 10 isDecimal ++ [(· == '-'), isDecimal, isDecimal, (· == '-')] ++
    List.replicate 6 isDecimal) text

/-- `[A-Z0-9-]{1,20}`. -/
def isForm (text : List Char) : Bool :=
  bounded (fun c => isUpper c || isDigit c || c == '-') 1 20 text

/-- The references to history files that overlap the window. -/
def secReference (config : Object) (files : List String) (reference : Json) :
    Result (List String) :=
  match reference with
  | .obj reference => do
      require (["name", "filingFrom", "filingTo"].all (Object.has reference)) .valueError
        "sec_history_reference_invalid"
      let name ← secFile (strAt config "cik") (Object.get reference "name")
      match Object.get reference "filingFrom", Object.get reference "filingTo" with
        | .str first, .str last =>
            match isoDate first.toList, isoDate last.toList with
            | some parsedFrom, some parsedTo => do
                require (parsedFrom.days ≤ parsedTo.days) .valueError
                  "sec_history_reference_invalid"
                pure (if strAt config "start" ≤ last ∧ first ≤ strAt config "end" then
                  files ++ [name] else files)
            | _, _ => raise .valueError "sec_history_reference_invalid"
        | _, _ => raise .valueError "sec_history_reference_invalid"
  | _ => raise .valueError "sec_history_reference_invalid"

/-- A filing, and whether it is rejected for good. -/
structure Filing where
  accession : String
  filingDate : String
  form : Json
  document : Json
  permanentInvalid : Bool

/-- The date of a filing, if it has one. -/
def filingDate (row : Object) : Option String :=
  match row.get "filingDate" with
  | .str date => if (isoDate date.toList).isSome then some date else none
  | _ => none

/-- A date outside the window. -/
def outsideWindow (config : Object) : Option String → Bool
  | some date => !(strAt config "start" ≤ date && date ≤ strAt config "end")
  | none => false

/-- The filing of a row, unless the window or the forms leave it out. -/
def filingOf (config row : Object) : Result (Option Filing) :=
  match row.get "accessionNumber" with
  | .str accession =>
      if !isAccession accession.toList then raise .valueError "breadth_item_untraceable"
      else if outsideWindow config (filingDate row) then pure none
      else if isShaped isForm (row.get "form") &&
          !(((config.get "forms").arr?).getD []).any (row.get "form").eq then pure none
      else
        pure (some ⟨accession, (filingDate row).getD "", row.get "form", row.get "primaryDocument",
          (filingDate row).isNone || !isShaped isForm (row.get "form")⟩)
  | _ => raise .valueError "breadth_item_untraceable"

/-- The filings of the rows, in order. -/
def filingsOf (config : Object) : List Object → Result (List Filing)
  | [] => pure []
  | row :: rest => do
      let filing ← filingOf config row
      let filings ← filingsOf config rest
      pure (filing.toList ++ filings)

/-- The pair filings are ordered by. -/
def Filing.key (filing : Filing) : String × String := (filing.filingDate, filing.accession)

/-- One filing: its row, or the hash of a rejected one. -/
def secRow (rules : RowRules) (config state : Object) (rows : Rows) (filing : Filing) :
    Result Rows :=
  if filing.permanentInvalid then do
    let hash ← rejectionHash rules "sec_edgar" "submissions_recent" filing.accession
    pure (rows.reject hash)
  else
    pure (rows.keep (filingPayload (config.get "cik") (config.get "ticker")
      (isoTimestamp (.str filing.filingDate)) filing.accession filing.filingDate filing.form
      filing.document (rules.officialUrl (strAt config "cik") filing.accession filing.document) ++
      [("submissions_file", state.getD "file" (.str ("CIK" ++ strAt config "cik" ++ ".json")))]))

/-- `body.get("filings", {}).get("files", [])`. -/
def historyReferences (body : Json) : List Json :=
  match body.obj?.map (Object.get · "filings") with
  | some (.obj filings) => ((Object.get filings "files").arr?).getD []
  | _ => []

/-- The history files still to read: those of the state, or those the first response names. -/
def secFiles (body : Json) (config state : Object) : Result (List String) := do
  let names := ((state.getD "files" (.arr [])).arr?).getD []
  require (names.length ≤ intAt config "max_history_files") .valueError
    "breadth_history_budget_exceeded"
  let held ← names.mapM (secFile (strAt config "cik"))
  if state.isEmpty then do
    let files ← (historyReferences body).foldlM (secReference config) held
    require (files.length ≤ intAt config "max_history_files") .valueError
      "breadth_history_budget_exceeded"
    pure files
  else pure held

/-- The filings after the last key, in order. -/
def secLater (filings : List Filing) (last : String × String) : List Filing :=
  (filings.mergeSort fun left right => keyLe left.key right.key).filter fun filing =>
    !keyLe filing.key last

/-- The page: more of this body, or the next history file, or no more. -/
def secPage (kept : List Object) (limit : Nat) (state : Object) (files rejected : List String) :
    Result Page :=
  if limit < kept.length then
    match (kept.take limit).getLast? with
    | some final =>
        pure ⟨kept.take limit, true,
          [("last_key", .arr [final.get "filing_date", final.get "provider_item_id"]),
            ("file", state.get "file"), ("files", .arr (files.map Json.str))], rejected⟩
    | none => raise .indexError "list index out of range"
  else
    match files with
    | file :: rest =>
        pure ⟨kept.take limit, true, [("file", .str file), ("files", .arr (rest.map Json.str))],
          rejected⟩
    | [] => pure ⟨kept.take limit, false, [], rejected⟩

/-- `state.get("file") is not None`. -/
def inHistory (state : Object) : Bool :=
  match state.get "file" with
  | .null => false
  | _ => true

def secPayloads (rules : RowRules) (body : Json) (config : Object) (limit : Nat) (state : Object)
    (rejected : List String) : Result Page := do
  let rows ← secRows body (inHistory state)
  let files ← secFiles body config state
  let filings ← filingsOf config rows
  let last ← lastKey state
  let read ← (secLater filings last).foldlM (secRow rules config state) ⟨[], rejected⟩
  let kept ← deduplicate rules read.payloads []
  secPage kept limit state files read.rejected

/-- `state.get("page", 1)`. -/
def statePage (state : Object) : Int := ((state.getD "page" (.int 1)).int?).getD 1

/-- `state.get("offset", 0)`. -/
def stateOffset (state : Object) : Int := ((state.getD "offset" (.int 0)).int?).getD 0

/-- `_payloads`. -/
def payloads (rules : RowRules) (provider operation : String) (body : Json) (config : Object)
    (limit : Nat) (page offset : Int) (state : Object) (rejected : List String) : Result Page :=
  if provider = "marketaux" then marketauxPayloads rules body config limit page rejected
  else if provider = "finnhub" then finnhubPayloads rules body config limit state rejected
  else if provider = "eia" then eiaPayloads rules operation body config limit offset rejected
  else secPayloads rules body config limit state rejected

end NewsCollect.Providers
