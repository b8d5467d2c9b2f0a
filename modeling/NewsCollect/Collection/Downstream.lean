/-
**Storing a fetch result.**

Every item of a result is stored with an observation by the run and a projection of its facts. An
item the source already has is not stored again, and neither is an observation the run has already
made under the same key.

* `persistFetchResult`: one result, in one transaction.
* `Extends`: what a run may add to the tables.
* `persistFetchResult_step`: the rows it adds are the run's, and every item is new or a duplicate.
-/

import NewsCollect.Collection.Cursors
import NewsCollect.Providers.Contracts

namespace NewsCollect.Collection

open Providers

/-- Functions of other modules the collection depends on: how a cursor is read, the hash of an
object, the normal form and the quality of a payload, and the key of the observations of a page. -/
structure Rules where
  reader : Reader
  canonicalProjectionHash : Object → String
  normalizeAndClassify : String → String → Object → Result (Object × String)
  observationKey : Object → String

structure DownstreamCounts where
  fetched : Nat
  new : Nat
  duplicates : Nat
deriving DecidableEq, Repr

/-- What the rows of one result have in common. -/
structure ItemContext where
  runId : Uuid
  sourceId : Uuid
  sourceAccountId : Option Uuid
  provider : String
  targetId : Option Uuid
  operationKey : String
  configRevision : Option Int
  providerContractVersion : Int
  observationKey : String
  now : Int

/-- The fields of the facts of each operation. -/
def factualFields (provider operation : String) : Option (List String) :=
  if (provider, operation) = ("marketaux", "news_all") then
    some ["provider_item_id", "published_at", "title", "canonical_url", "source_identity", "query",
      "language", "symbols", "description_coverage", "snippet_coverage"]
  else if (provider, operation) = ("finnhub", "quote") then
    some ["provider_item_id", "published_at", "symbol", "provider_timestamp", "c", "d", "dp", "h",
      "l", "o", "pc", "currency", "exchange"]
  else if (provider, operation) = ("eia", "electricity_retail_sales") then
    some ["provider_item_id", "published_at", "period", "dataset", "series_identity", "geography",
      "sector", "metric", "value", "unit"]
  else if (provider, operation) = ("sec_edgar", "submissions_recent") then
    some ["provider_item_id", "published_at", "cik", "ticker", "accession_number", "filing_date",
      "form", "primary_document", "official_url", "official_source"]
  else none

/-- `_factual_payload`. -/
def factualPayload (provider operation : String) (metadata : Object) : Result Object :=
  if (provider, operation) = ("finnhub", "company_news") ∨
      (provider, operation) = ("eia", "electricity_rto_region_data") then .ok metadata
  else
    match factualFields provider operation with
    | none => raise .downstreamPersistenceError "safe_fact_projection_contract_unknown"
    | some fields =>
        let facts := fields.map fun field => (field, metadata.get field)
        if provider = "sec_edgar" ∧ metadata.has "submissions_file" then
          .ok (Object.set facts "submissions_file" (metadata.get "submissions_file"))
        else .ok facts

/-- An item that is the same as this one: by its identity, else by its hash. -/
def sameItem (envelope : RawItemEnvelope) (sourceId : Uuid) (row : RawItem) : Bool :=
  row.sourceId = sourceId ∧ row.envelope.externalId = envelope.externalId ∧
    (envelope.externalId = none → row.envelope.payloadHash = envelope.payloadHash)

/-- `_raw_item`: the item of an envelope, and whether it has been inserted. -/
def rawItem (db : Database) (context : ItemContext) (envelope : RawItemEnvelope) :
    Result ((Uuid × Bool) × Database) :=
  if envelope.externalId = none ∧ envelope.payloadHash = none then
    raise .downstreamPersistenceError "raw_item_identity_missing"
  else
    match db.rawItems.find? (sameItem envelope context.sourceId) with
    | some row => .ok ((row.id, false), db)
    | none => .ok ((db.fresh, true),
        { db with
          rawItems := db.rawItems ++
            [⟨db.fresh, context.sourceId, context.sourceAccountId, context.runId, envelope⟩]
          issued := db.issued + 1 })

/-- The last of some observations, by the time and the identifier of their rows. -/
def latest : List Observation → Option Observation
  | [] => none
  | row :: rows =>
      match latest rows with
      | none => some row
      | some other =>
          if row.createdAt < other.createdAt ∨ row.createdAt = other.createdAt ∧ row.id < other.id
          then some other else some row

/-- The kind of an observation. -/
def observationKind (db : Database) (rawItemId : Uuid) (inserted : Bool) (hash : String) :
    ObservationKind :=
  if inserted then .firstSeen
  else
    match latest (db.observations.filter fun row => row.rawItemId = rawItemId) with
    | some row => if row.projectionHash = hash then .duplicateSameProjection else .revisionCandidate
    | none => .revisionCandidate

/-- `_observation`. -/
def observation (db : Database) (context : ItemContext) (rawItemId : Uuid) (inserted : Bool)
    (observedAt : Int) (hash : String) : Result (Uuid × Database) :=
  match db.observations.find? fun row => row.collectionRunId = context.runId ∧
      row.rawItemId = rawItemId ∧ row.observationKey = context.observationKey with
  | some row =>
      if row.projectionHash = hash then .ok (row.id, db)
      else raise .downstreamPersistenceError "raw_item_observation_idempotency_failed"
  | none => .ok (db.fresh,
      { db with
        observations := db.observations ++
          [⟨db.fresh, context.runId, rawItemId, context.targetId, context.sourceId,
            context.sourceAccountId, context.provider, context.operationKey,
            context.configRevision, context.providerContractVersion, observedAt, hash,
            observationKind db rawItemId inserted hash, context.observationKey, context.now⟩]
        issued := db.issued + 1 })

/-- The row of the facts of an observation, which wait for their validation. -/
def pendingProjection (db : Database) (context : ItemContext) (observationId rawItemId : Uuid)
    (payload : Object) (hash : String) (status : QualityStatus) : Projection where
  id := db.fresh
  observationId := observationId
  rawItemId := rawItemId
  provider := context.provider
  operationKey := context.operationKey
  projectionSchemaVersion := 1
  factualPayload := payload
  projectionHash := hash
  qualityStatus := status
  processingStatus := .pending
  safeErrorCode := none
  attemptCount := 0
  nextRetryAt := none
  processedAt := none
  createdAt := context.now
  updatedAt := context.now

/-- `_projection`. -/
def projection (db : Database) (context : ItemContext) (observationId rawItemId : Uuid)
    (payload : Object) (hash quality : String) : Result Database :=
  match QualityStatus.parse quality with
  | none => raise .valueError "is not a valid SafeProjectionQualityStatus"
  | some status =>
      match db.projections.find? fun row => row.observationId = observationId ∧
          row.projectionSchemaVersion = 1 with
      | some row =>
          if row.projectionHash = hash then .ok db
          else raise .downstreamPersistenceError "safe_fact_projection_idempotency_failed"
      | none => .ok
          { db with
            projections := db.projections ++
              [pendingProjection db context observationId rawItemId payload hash status]
            issued := db.issued + 1 }

/-- One item of a result. -/
def persistItem (rules : Rules) (context : ItemContext) (state : Database × DownstreamCounts)
    (entry : RawItemEnvelope × Object) : Result (Database × DownstreamCounts) := do
  let facts ← factualPayload context.provider context.operationKey entry.2
  let (payload, quality) ← rules.normalizeAndClassify context.provider context.operationKey facts
  let hash := rules.canonicalProjectionHash payload
  let ((rawItemId, inserted), db) ← rawItem state.1 context entry.1
  let (observationId, db) ← observation db context rawItemId inserted entry.1.fetchedAt hash
  let db ← projection db context observationId rawItemId payload hash quality
  pure (db, if inserted then { state.2 with new := state.2.new + 1 }
    else { state.2 with duplicates := state.2.duplicates + 1 })

/-- `persist_fetch_result`. -/
def persistFetchResult (rules : Rules) (db : Database) (context : ItemContext)
    (result : ProviderFetchResult) : Result (DownstreamCounts × Database) := do
  require (result.factualProjections.length == result.rawItems.length)
    .downstreamPersistenceError "safe_fact_projection_missing"
  let (db, counts) ← (result.rawItems.zip result.factualProjections).foldlM
    (persistItem rules context) (db, ⟨result.rawItems.length, 0, 0⟩)
  pure (counts, db)

/-! ### What storing a result adds -/

/-- **What a run may add.** Nothing else is written, and every new item and observation is the
run's. -/
structure Extends (runId : Uuid) (db db' : Database) : Prop where
  sources_eq : db'.sources = db.sources
  accounts_eq : db'.accounts = db.accounts
  targets_eq : db'.targets = db.targets
  runs_eq : db'.runs = db.runs
  cursors_eq : db'.cursors = db.cursors
  supply_eq : db'.supply = db.supply
  issued_le : db.issued ≤ db'.issued
  rawItems_eq : ∃ added, db'.rawItems = db.rawItems ++ added ∧
    ∀ row ∈ added, row.collectionRunId = runId
  observations_eq : ∃ added, db'.observations = db.observations ++ added ∧
    ∀ row ∈ added, row.collectionRunId = runId

namespace Extends

variable {runId : Uuid} {db db' db'' : Database}

theorem refl (runId : Uuid) (db : Database) : Extends runId db db :=
  ⟨rfl, rfl, rfl, rfl, rfl, rfl, Nat.le_refl _, ⟨[], by simp⟩, ⟨[], by simp⟩⟩

theorem trans (first : Extends runId db db') (second : Extends runId db' db'') :
    Extends runId db db'' := by
  obtain ⟨items, itemsEq, itemsRun⟩ := first.rawItems_eq
  obtain ⟨moreItems, moreItemsEq, moreItemsRun⟩ := second.rawItems_eq
  obtain ⟨seen, seenEq, seenRun⟩ := first.observations_eq
  obtain ⟨moreSeen, moreSeenEq, moreSeenRun⟩ := second.observations_eq
  refine ⟨second.sources_eq.trans first.sources_eq, second.accounts_eq.trans first.accounts_eq,
    second.targets_eq.trans first.targets_eq, second.runs_eq.trans first.runs_eq,
    second.cursors_eq.trans first.cursors_eq, second.supply_eq.trans first.supply_eq,
    Nat.le_trans first.issued_le second.issued_le, ⟨items ++ moreItems, ?_, ?_⟩,
    ⟨seen ++ moreSeen, ?_, ?_⟩⟩
  · rw [moreItemsEq, itemsEq, List.append_assoc]
  · intro row member
    exact (List.mem_append.1 member).elim (itemsRun row) (moreItemsRun row)
  · rw [moreSeenEq, seenEq, List.append_assoc]
  · intro row member
    exact (List.mem_append.1 member).elim (seenRun row) (moreSeenRun row)

end Extends

variable {rules : Rules} {context : ItemContext} {db db' : Database}

theorem rawItem_extends {envelope : RawItemEnvelope} {found : Uuid × Bool}
    (ok : rawItem db context envelope = .ok (found, db')) : Extends context.runId db db' := by
  unfold rawItem at ok
  split at ok
  · simp [raise] at ok
  · split at ok
    · obtain ⟨-, rfl⟩ := Prod.mk.inj (Except.ok.inj ok)
      exact .refl _ _
    · obtain ⟨-, rfl⟩ := Prod.mk.inj (Except.ok.inj ok)
      exact ⟨rfl, rfl, rfl, rfl, rfl, rfl, Nat.le_succ _, ⟨_, rfl, by simp⟩, ⟨[], by simp⟩⟩

theorem observation_extends {rawItemId observationId : Uuid} {inserted : Bool} {observedAt : Int}
    {hash : String}
    (ok : observation db context rawItemId inserted observedAt hash = .ok (observationId, db')) :
    Extends context.runId db db' := by
  unfold observation at ok
  split at ok
  · split at ok
    · obtain ⟨-, rfl⟩ := Prod.mk.inj (Except.ok.inj ok)
      exact .refl _ _
    · simp [raise] at ok
  · obtain ⟨-, rfl⟩ := Prod.mk.inj (Except.ok.inj ok)
    exact ⟨rfl, rfl, rfl, rfl, rfl, rfl, Nat.le_succ _, ⟨[], by simp⟩, ⟨_, rfl, by simp⟩⟩

theorem projection_extends {observationId rawItemId : Uuid} {payload : Object}
    {hash quality : String}
    (ok : projection db context observationId rawItemId payload hash quality = .ok db') :
    Extends context.runId db db' := by
  unfold projection at ok
  split at ok
  · simp [raise] at ok
  · split at ok
    · split at ok
      · obtain rfl := Except.ok.inj ok
        exact .refl _ _
      · simp [raise] at ok
    · obtain rfl := Except.ok.inj ok
      exact ⟨rfl, rfl, rfl, rfl, rfl, rfl, Nat.le_succ _, ⟨[], by simp⟩, ⟨[], by simp⟩⟩

/-- One item adds rows of the run, and counts once. -/
theorem persistItem_step {state next : Database × DownstreamCounts}
    {entry : RawItemEnvelope × Object} (ok : persistItem rules context state entry = .ok next) :
    Extends context.runId state.1 next.1 ∧ next.2.fetched = state.2.fetched ∧
      next.2.new + next.2.duplicates = state.2.new + state.2.duplicates + 1 := by
  obtain ⟨facts, -, ok⟩ := bind_eq_ok.1 ok
  obtain ⟨⟨payload, quality⟩, -, ok⟩ := bind_eq_ok.1 ok
  obtain ⟨⟨⟨rawItemId, inserted⟩, first⟩, stored, ok⟩ := bind_eq_ok.1 ok
  obtain ⟨⟨observationId, second⟩, observed, ok⟩ := bind_eq_ok.1 ok
  obtain ⟨third, projected, ok⟩ := bind_eq_ok.1 ok
  obtain rfl := pure_eq_ok.1 ok
  refine ⟨(rawItem_extends stored).trans ((observation_extends observed).trans
    (projection_extends projected)), ?_⟩
  cases inserted with
  | true => exact ⟨rfl, by simp only [if_true]; omega⟩
  | false => exact ⟨rfl, by simp only [Bool.false_eq_true, if_false]; omega⟩

/-- The loop over the items. -/
theorem persistItems_step {entries : List (RawItemEnvelope × Object)}
    {state last : Database × DownstreamCounts}
    (ran : entries.foldlM (persistItem rules context) state = .ok last) :
    Extends context.runId state.1 last.1 ∧ last.2.fetched = state.2.fetched ∧
      last.2.new + last.2.duplicates = state.2.new + state.2.duplicates + entries.length := by
  induction entries generalizing state with
  | nil =>
      obtain rfl := pure_eq_ok.1 ran
      exact ⟨.refl _ _, rfl, rfl⟩
  | cons entry entries ih =>
      obtain ⟨next, stepped, rest⟩ := bind_eq_ok.1 ran
      obtain ⟨adds, same, counted⟩ := persistItem_step stepped
      obtain ⟨addsRest, sameRest, countedRest⟩ := ih rest
      refine ⟨adds.trans addsRest, sameRest.trans same, ?_⟩
      rw [countedRest, counted, List.length_cons]
      omega

/-- **Storing a result** adds rows of the run, and counts every item as new or as a duplicate. -/
theorem persistFetchResult_step {result : ProviderFetchResult} {counts : DownstreamCounts}
    (ok : persistFetchResult rules db context result = .ok (counts, db')) :
    Extends context.runId db db' ∧ counts.fetched = result.rawItems.length ∧
      counts.new + counts.duplicates = counts.fetched := by
  obtain ⟨sized, ok⟩ := check_eq_ok.1 ok
  obtain ⟨⟨last, total⟩, ran, ok⟩ := bind_eq_ok.1 ok
  obtain ⟨rfl, rfl⟩ := Prod.mk.inj (pure_eq_ok.1 ok)
  obtain ⟨adds, fetched, counted⟩ := persistItems_step ran
  have length : (result.rawItems.zip result.factualProjections).length =
      result.rawItems.length := by
    rw [List.length_zip, beq_iff_eq.1 (require_eq_ok.1 sized), Nat.min_self]
  simp only [length, Nat.zero_add] at counted
  exact ⟨adds, fetched, counted.trans fetched.symm⟩

end NewsCollect.Collection
