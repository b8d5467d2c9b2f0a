/-
**The bridge from the provider adapters to the legacy runner.**

The legacy runner collects through a narrower contract: a batch of items with the cursor after it.
The bridge turns the result of a provider adapter into a batch, and decides by the texts of two
cursors whether one follows the other.

* `CollectionErrorCode`, `ClassifiedCollectionError`: the errors of the legacy contract.
* `CursorRelation`, `StrictCursorPolicy.classify`, `SnapshotCursorPolicy.classify`: the relation of
  two cursors.
* `fetchBatch`: the batch of a result.
-/

import NewsCollect.Collection.Cursors
import NewsCollect.Providers.Breadth
import NewsCollect.Providers.Contracts

namespace NewsCollect.Collection

open Calendar Providers

/-! ### Errors -/

inductive CollectionErrorCode where
  | timeout
  | network
  | rateLimited
  | upstream5xx
  | upstreamRetryable
  | databaseUnavailable
  | lockLost
  | auth
  | forbidden
  | notFound
  | contractInvalid
  | configInvalid
  | cancelled
  | staleRun
  | unknown
deriving DecidableEq, Repr

namespace CollectionErrorCode

def value : CollectionErrorCode → String
  | timeout => "COLLECTION_TIMEOUT"
  | network => "COLLECTION_NETWORK"
  | rateLimited => "COLLECTION_RATE_LIMITED"
  | upstream5xx => "COLLECTION_UPSTREAM_5XX"
  | upstreamRetryable => "COLLECTION_UPSTREAM_RETRYABLE"
  | databaseUnavailable => "COLLECTION_DATABASE_UNAVAILABLE"
  | lockLost => "COLLECTION_LOCK_LOST"
  | auth => "COLLECTION_AUTH"
  | forbidden => "COLLECTION_FORBIDDEN"
  | notFound => "COLLECTION_NOT_FOUND"
  | contractInvalid => "COLLECTION_CONTRACT_INVALID"
  | configInvalid => "COLLECTION_CONFIG_INVALID"
  | cancelled => "COLLECTION_CANCELLED"
  | staleRun => "COLLECTION_STALE_RUN"
  | unknown => "COLLECTION_UNKNOWN"

/-- `code in RETRYABLE_CODES`. -/
def retryable : CollectionErrorCode → Bool
  | timeout | network | rateLimited | upstream5xx | upstreamRetryable | databaseUnavailable
  | lockLost => true
  | _ => false

end CollectionErrorCode

/-- A classified error. The seconds to wait are a fraction over a power of two. -/
structure ClassifiedCollectionError where
  code : CollectionErrorCode
  redactedDetail : String
  retryAfter : Option (Nat × Nat)
deriving DecidableEq, Repr

/-! ### The order of cursors -/

inductive CursorRelation where
  | advance
  | unchanged
  | invalid
deriving DecidableEq, Repr

section Policies

variable (loads : String → Result Json)

/-- `_cursor_value`: the texts of the time and of the identity. -/
def cursorValue (cursor : String) : Result (Option (String × String)) :=
  match loads cursor with
  | .ok (.obj value) =>
      match Object.get value "published_at", Object.get value "provider_item_id" with
      | .str published, .str identity => .ok (some (published, identity))
      | _, _ => .ok none
  | .ok _ => .ok none
  | .error raised => if raised.isAny [.typeError, .valueError] then .ok none else .error raised

/-- A policy that answers a repeated cursor in this way. -/
def classifyRepeated (repeated : CursorRelation) (current : Option String) (candidate : String) :
    Result CursorRelation := do
  match ← cursorValue loads candidate with
  | none => pure .invalid
  | some candidateValue =>
      match current with
      | none => pure .advance
      | some current => do
          match ← cursorValue loads current with
          | none => pure .invalid
          | some currentValue =>
              pure (if !keyLe currentValue candidateValue then .invalid
                else if candidateValue = currentValue then repeated else .advance)

/-- `StrictCursorPolicy.classify`. -/
def StrictCursorPolicy.classify (current : Option String) (candidate : String) :
    Result CursorRelation :=
  classifyRepeated loads .invalid current candidate

/-- `SnapshotCursorPolicy.classify`. -/
def SnapshotCursorPolicy.classify (current : Option String) (candidate : String) :
    Result CursorRelation :=
  classifyRepeated loads .unchanged current candidate

/-- The providers whose snapshots may repeat a cursor. -/
def snapshotProviders : List String := ["eia", "sec_edgar"]

/-- `_CURSOR_POLICIES.get(provider_key, _STRICT_CURSOR_POLICY)`. -/
def classify (provider : String) (current : Option String) (candidate : String) :
    Result CursorRelation :=
  if provider ∈ snapshotProviders then SnapshotCursorPolicy.classify loads current candidate
  else StrictCursorPolicy.classify loads current candidate

/-- `is_cursor_successor`. -/
def isCursorSuccessor (provider : String) (current : Option String) (candidate : String) :
    Result Bool := do
  let relation ← classify loads provider current candidate
  pure (relation != .invalid)

end Policies

/-! ### Batches -/

/-- A batch of the legacy contract. -/
structure FetchBatch where
  items : List RawItemEnvelope
  nextCursor : Option String
  lastPublishedAt : Option Int
  hasMore : Bool

/-- What the runner knows of a cursor. -/
structure CursorSnapshot where
  cursorType : Option String
  cursorValue : Option String
  lastPublishedAt : Option Int
deriving DecidableEq

/-- `_collection_error`. -/
def collectionError (error : ProviderAdapterError) : ClassifiedCollectionError where
  code :=
    match error.code with
    | .configInvalid => .configInvalid
    | .contractInvalid => .contractInvalid
    | .rateLimited => .rateLimited
    | .timeout => .timeout
    | .upstreamError => if error.retryable then .upstreamRetryable else .contractInvalid
  redactedDetail := error.safeMessage
  retryAfter := error.retryAfterSeconds

/-- `_last_published_at`: the latest of the times that have a zone. -/
def lastPublishedAt (metadata : List Object) : Option Int :=
  (metadata.filterMap fun item =>
    match item.get "published_at" with
    | .str text =>
        match publishedTime text with
        | .ok (here, some offset) => some (here - offset)
        | _ => none
    | _ => none).max?

/-- How the fetch of a batch ends early: with a classified error, or with another exception. -/
inductive BatchError where
  | classified (error : ClassifiedCollectionError)
  | raised (error : PyError)

/-- `ProviderCollectionAdapter.fetch`, of the result of the adapter. The observer, if there is one,
sees a result before it becomes a batch. -/
def fetchBatch (loads : String → Result Json) (provider : String)
    (observe : ProviderFetchResult → Result Unit) (snapshot : CursorSnapshot)
    (result : ProviderFetchResult) : Except BatchError FetchBatch :=
  match result.safeErrors with
  | error :: _ => .error (.classified (collectionError error))
  | [] =>
      if result.provider ≠ provider then
        .error (.classified ⟨.contractInvalid, "provider result identity mismatch", none⟩)
      else
        let relation := match result.nextCursor with
          | some next => classify loads provider snapshot.cursorValue next
          | none => .ok .invalid
        match relation with
        | .error raised => .error (.raised raised)
        | .ok .unchanged => .ok ⟨[], result.nextCursor, snapshot.lastPublishedAt, false⟩
        | .ok _ =>
            match observe result with
            | .ok () =>
                .ok ⟨result.rawItems, result.nextCursor, lastPublishedAt result.sanitizedMetadata,
                  result.hasMore⟩
            | .error raised =>
                if raised.isAny [.typeError, .valueError] then
                  .error (.classified
                    ⟨.contractInvalid, "provider projection sidecar rejected result", none⟩)
                else .error (.raised raised)

end NewsCollect.Collection
