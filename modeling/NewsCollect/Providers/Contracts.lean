/-
**The contract of the provider adapters.**

What the worker asks an adapter for and what it is handed back. A result is checked when it is
built, so that its rows, its metadata and its facts are of one number.

* `ProviderFetchResult`: a result, with the counts it was checked for.
* `ProviderFetchResult.make`: building one, which may raise.
-/

import NewsCollect.Collection.Rows
import NewsCollect.Errors

namespace NewsCollect.Providers

open Collection

inductive ProviderAdapterErrorCode where
  | configInvalid
  | contractInvalid
  | rateLimited
  | timeout
  | upstreamError
deriving DecidableEq, Repr

/-- An error of an adapter. The seconds to wait are a fraction over a power of two. -/
structure ProviderAdapterError where
  code : ProviderAdapterErrorCode
  safeMessage : String
  retryable : Bool
  retryAfterSeconds : Option (Nat × Nat)
deriving DecidableEq, Repr

/-- `min(max(int(retry_after or 30), 1), 900)`. -/
def retryDelay : Option (Nat × Nat) → Int
  | some (numerator, scale) =>
      if numerator = 0 then 30 else min (max (numerator / 2 ^ scale : Nat) 1) 900
  | none => 30

/-- What an adapter is asked for. -/
structure ProviderFetchRequest where
  cursor : Option String
  config : Object
  limit : Int
  deadlineAt : Int
  maxResponseBytes : Int
  requestTimeoutSeconds : Int
  continuation : Option Object
  targetId : Uuid
  configRevision : Int
  operationConfigVersion : Int
  providerContractVersion : Int
  cursorVersion : Int
  runMode : RunMode

/-- `ProviderFetchRequest.__post_init__`. -/
def ProviderFetchRequest.make (request : ProviderFetchRequest) : Result ProviderFetchRequest := do
  require (1024 ≤ request.maxResponseBytes && request.maxResponseBytes ≤ 10000000) .valueError
    "provider_response_budget_invalid"
  require (1 ≤ request.requestTimeoutSeconds && request.requestTimeoutSeconds ≤ 60) .valueError
    "provider_timeout_budget_invalid"
  pure request

/-- The fields of a fetch result. -/
structure FetchFields where
  rawItems : List RawItemEnvelope
  sanitizedMetadata : List Object
  nextCursor : Option String
  hasMore : Bool
  safeErrors : List ProviderAdapterError
  provider : String
  contractVersion : Int
  displayProjections : List Object
  factualProjections : List Object
  continuation : Option Object
  rejectedRowHashes : List String
  coverageIncomplete : Bool

/-- **A fetch result**: its rows, metadata and projections are as many. -/
structure ProviderFetchResult extends FetchFields where
  metadata_count : rawItems.length = sanitizedMetadata.length
  display_count : displayProjections = [] ∨ rawItems.length = displayProjections.length
  factual_count : factualProjections = [] ∨ rawItems.length = factualProjections.length

/-- `ProviderFetchResult.__post_init__`. -/
def ProviderFetchResult.make (fields : FetchFields) : Result ProviderFetchResult :=
  if metadata : fields.rawItems.length = fields.sanitizedMetadata.length then
    if display : fields.displayProjections = [] ∨
        fields.rawItems.length = fields.displayProjections.length then
      if factual : fields.factualProjections = [] ∨
          fields.rawItems.length = fields.factualProjections.length then
        .ok ⟨fields, metadata, display, factual⟩
      else raise .valueError "provider_result_factual_count_mismatch"
    else raise .valueError "provider_result_display_count_mismatch"
  else raise .valueError "provider_result_metadata_count_mismatch"

end NewsCollect.Providers
