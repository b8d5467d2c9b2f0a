/-
**The result of a bounded fetch.**

An answer becomes a page: its rows are read and validated, the cursor of the request moves to the
latest of them, and the continuation keeps what the provider has more of. Whatever is wrong with the
configuration, the transport or the answer becomes an error of the result.

* `sortedText`: the text of a cursor.
* `BreadthAdapter.readPage`: the result of an answer.
* `BreadthAdapter.fetch`: the request, the answer and their errors.
-/

import NewsCollect.Providers.FirstVersion

namespace NewsCollect.Providers

open Collection SafeProjection Text

section Text

variable (library : StandardLibrary)

mutual

/-- `json.dumps(value, sort_keys=True)`, with the names of the floats that are no JSON. -/
def sortedText : Json → String
  | .null => "null"
  | .bool value => if value then "true" else "false"
  | .int value => toString value
  | .float numerator scale => library.floatText numerator scale
  | .special .minusZero => "-0.0"
  | .special .nan => "NaN"
  | .special .infinity => "Infinity"
  | .special .minusInfinity => "-Infinity"
  | .str text => quoted text
  | .arr items => "[" ++ ", ".intercalate (sortedItems items) ++ "]"
  | .obj members => "\x7b" ++ ", ".intercalate (((sortedMembers members).mergeSort fun left right =>
      left.1 ≤ right.1).map fun entry => quoted entry.1 ++ ": " ++ entry.2) ++ "\x7d"

def sortedItems : List Json → List String
  | [] => []
  | item :: items => sortedText item :: sortedItems items

def sortedMembers : List (String × Json) → List (String × String)
  | [] => []
  | (key, value) :: members => (key, sortedText value) :: sortedMembers members

end

end Text

namespace BreadthAdapter

variable (library : StandardLibrary) (digest : Object → String) (loads : String → Result Json)
  (adapter : BreadthAdapter)

/-- The thousandth page of news is the last one, whatever there is more. -/
def isIncomplete (prepared : Prepared) (page : Page) : Bool :=
  adapter.provider == "marketaux" && prepared.page == 1000 && page.more

/-- The continuation behind a page, if there is more. -/
def continuationAfter (prepared : Prepared) (page : Page) : Result (Option Object) :=
  if page.more && !isIncomplete adapter prepared page then do
    let continuation ← encodeContinuation digest adapter.provider adapter.operation prepared.config
      prepared.lineage page.progress
    pure (some continuation)
  else pure none

/-- The result of an answer that is read. -/
def readPage (request : ProviderFetchRequest) (prepared : Prepared) (response : Response) :
    Result ProviderFetchResult := do
  let page ← payloads (rowRules library) adapter.provider adapter.operation response.body
    prepared.config request.limit.toNat prepared.page prepared.offset prepared.state []
  let facts ← factsOf library adapter page
  let next ← nextCursor request.cursor facts.payloads loads (sortedText library)
  let continuation ← continuationAfter digest adapter prepared page
  ProviderFetchResult.make
    { rawItems := facts.payloads.map (rawEnvelope library adapter response)
      sanitizedMetadata := facts.payloads.map metadataOf
      nextCursor := next
      hasMore := page.more && !isIncomplete adapter prepared page
      safeErrors := []
      provider := adapter.provider
      contractVersion := 2
      displayProjections := []
      factualProjections := facts.payloads
      continuation := continuation
      rejectedRowHashes := facts.rejected
      coverageIncomplete := isIncomplete adapter prepared page }

/-- The result of an answer: an error of its status, or that of a page that cannot be read. -/
def receive (request : ProviderFetchRequest) (prepared : Prepared) (response : Response) :
    Result ProviderFetchResult :=
  match statusError response.statusCode none with
  | some error =>
      .ok (failed adapter { error with retryAfterSeconds := retryAfter library response })
  | none =>
      match readPage library digest loads adapter request prepared response with
      | .ok result => .ok result
      | .error raised =>
          if raised.isAny [.valueError, .typeError, .keyError, .indexError, .overflowError] then
            .ok (failed adapter ⟨.contractInvalid, "breadth_response_invalid", false, none⟩)
          else .error raised

/-- `fetch`. -/
def fetch (transport : Sent → Transported) (request : ProviderFetchRequest) :
    Result ProviderFetchResult :=
  match prepare digest adapter request with
  | .error raised =>
      if raised.isAny [.valueError, .typeError, .keyError] then
        .ok (failed adapter ⟨.configInvalid, "breadth_config_invalid", false, none⟩)
      else .error raised
  | .ok prepared =>
      match sendSafely library transport prepared.sent with
      | .tooLarge =>
          .ok (failed adapter ⟨.contractInvalid, "provider_response_too_large", false, none⟩)
      | .timedOut => .ok (failed adapter ⟨.timeout, "provider_request_timed_out", true, none⟩)
      | .failed => .ok (failed adapter ⟨.upstreamError, "breadth_transport_failed", true, none⟩)
      | .answered response => receive library digest loads adapter request prepared response

end BreadthAdapter

end NewsCollect.Providers
