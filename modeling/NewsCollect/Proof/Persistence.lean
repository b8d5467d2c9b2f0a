/-
**A page is stored once.**

Every item of a page finds its row, its observation and its facts by their keys, or inserts them;
whatever it has found or inserted is found again when the page is stored a second time.

* `Keyed`: no key occurs twice, and every observation has one row of facts.
* `ItemStored`: an item of a page has been stored.
* `persistItem_stored`, `persistItem_again`: an item is stored once.
* `stored_once`: the pages of every history.
-/

import NewsCollect.Collection.Control

namespace NewsCollect.Collection

open Providers

/-! ### Keys -/

/-- What a source knows an item by: its identity, else its hash. -/
def identityOf (sourceId : Uuid) (envelope : RawItemEnvelope) :
    Uuid × Option String × Option String :=
  (sourceId, envelope.externalId,
    if envelope.externalId = none then envelope.payloadHash else none)

def RawItem.identity (row : RawItem) : Uuid × Option String × Option String :=
  identityOf row.sourceId row.envelope

/-- What a run knows an observation by. -/
def Observation.key (row : Observation) : Uuid × Uuid × String :=
  (row.collectionRunId, row.rawItemId, row.observationKey)

/-- A row of facts is about an observation. -/
structure Describes (facts : Projection) (seen : Observation) : Prop where
  observationId_eq : facts.observationId = seen.id
  rawItemId_eq : facts.rawItemId = seen.rawItemId
  provider_eq : facts.provider = seen.provider
  operationKey_eq : facts.operationKey = seen.operationKey
  projectionHash_eq : facts.projectionHash = seen.projectionHash
  version_eq : facts.projectionSchemaVersion = 1

/-- An identifier that is among the first ones of a supply. -/
def Given (supply : Supply) (issued : Nat) (id : Uuid) : Prop := ∃ n < issued, supply.id n = id

theorem Given.mono {supply : Supply} {issued later : Nat} {id : Uuid}
    (given : Given supply issued id) (le : issued ≤ later) : Given supply later id :=
  given.imp fun _ ⟨below, named⟩ => ⟨Nat.lt_of_lt_of_le below le, named⟩

/-- A given identifier is not the next one. -/
theorem Given.ne_next {supply : Supply} {issued : Nat} {id : Uuid}
    (given : Given supply issued id) : id ≠ supply.id issued := by
  obtain ⟨n, below, rfl⟩ := given
  intro same
  have := supply.injective same
  omega

/-- **No key occurs twice**, every identifier has been given, and every observation has one row of
facts. -/
structure Keyed (db : Database) : Prop where
  itemsGiven : ∀ row ∈ db.rawItems, Given db.supply db.issued row.id
  items : (db.rawItems.map RawItem.identity).Nodup
  itemIds : (db.rawItems.map RawItem.id).Nodup
  observationsGiven : ∀ row ∈ db.observations, Given db.supply db.issued row.id
  observations : (db.observations.map Observation.key).Nodup
  observationIds : (db.observations.map Observation.id).Nodup
  facts : List.Forall₂ Describes db.projections db.observations

theorem sameItem_iff {envelope : RawItemEnvelope} {sourceId : Uuid} {row : RawItem} :
    sameItem envelope sourceId row = true ↔ row.identity = identityOf sourceId envelope := by
  simp only [sameItem, RawItem.identity, identityOf, decide_eq_true_eq, Prod.mk.injEq]
  refine and_congr_right fun _ => and_congr_right fun external => ?_
  rw [external]
  by_cases unnamed : envelope.externalId = none <;> simp [unnamed]

/-- An item is looked for by its identity. -/
theorem find_sameItem (db : Database) (envelope : RawItemEnvelope) (sourceId : Uuid) :
    db.rawItems.find? (sameItem envelope sourceId) =
      Table.find RawItem.identity db.rawItems (identityOf sourceId envelope) := by
  refine congrArg (db.rawItems.find? ·) (funext fun row => ?_)
  rw [Bool.eq_iff_iff, sameItem_iff, decide_eq_true_eq]

/-- An observation is looked for by its key. -/
theorem find_observation (db : Database) (runId rawItemId : Uuid) (key : String) :
    (db.observations.find? fun row => row.collectionRunId = runId ∧ row.rawItemId = rawItemId ∧
        row.observationKey = key) =
      Table.find Observation.key db.observations (runId, rawItemId, key) := by
  refine congrArg (db.observations.find? ·) (funext fun row => ?_)
  simp [Observation.key]

namespace Keyed

variable {db : Database}

/-- The tables before anything has been stored. -/
theorem empty (items : db.rawItems = []) (observations : db.observations = [])
    (facts : db.projections = []) : Keyed db := by
  constructor <;> simp [items, observations, facts]

/-- The row of facts of an observation. -/
theorem exists_facts (keyed : Keyed db) {seen : Observation} (member : seen ∈ db.observations) :
    ∃ facts ∈ db.projections, Describes facts seen := by
  obtain ⟨n, below, rfl⟩ := List.mem_iff_getElem.1 member
  have length := keyed.facts.length_eq
  exact ⟨db.projections[n], List.getElem_mem _, keyed.facts.get (length ▸ below) below⟩

theorem projections_observationId (keyed : Keyed db) :
    db.projections.map Projection.observationId = db.observations.map Observation.id := by
  refine List.forall₂_eq_eq_eq ▸ List.forall₂_map_left_iff.2 (List.forall₂_map_right_iff.2 ?_)
  exact keyed.facts.imp fun _ _ describes => describes.observationId_eq

end Keyed

/-! ### One item -/

/-- The normal form and the quality of the facts of an item. -/
def factsOf (rules : Rules) (context : ItemContext) (metadata : Object) :
    Result (Object × String) := do
  let facts ← factualPayload context.provider context.operationKey metadata
  rules.normalizeAndClassify context.provider context.operationKey facts

/-- **An item of a page has been stored**, with an observation of these facts. -/
structure ItemStored (rules : Rules) (context : ItemContext) (db : Database)
    (entry : RawItemEnvelope × Object) (hash : String) (item : RawItem) (seen : Observation) :
    Prop where
  identified : ¬(entry.1.externalId = none ∧ entry.1.payloadHash = none)
  facts : ∃ payload quality status, factsOf rules context entry.2 = .ok (payload, quality) ∧
    QualityStatus.parse quality = some status ∧ rules.canonicalProjectionHash payload = hash
  item_mem : item ∈ db.rawItems
  identity_eq : item.identity = identityOf context.sourceId entry.1
  seen_mem : seen ∈ db.observations
  key_eq : seen.key = (context.runId, item.id, context.observationKey)
  hash_eq : seen.projectionHash = hash

/-- What has been stored is still there. -/
theorem ItemStored.mono {rules : Rules} {context : ItemContext} {db db' : Database}
    {entry : RawItemEnvelope × Object} {hash : String} {item : RawItem} {seen : Observation}
    (stored : ItemStored rules context db entry hash item seen)
    (items : ∀ row ∈ db.rawItems, row ∈ db'.rawItems)
    (observations : ∀ row ∈ db.observations, row ∈ db'.observations) :
    ItemStored rules context db' entry hash item seen :=
  ⟨stored.identified, stored.facts, items _ stored.item_mem, stored.identity_eq,
    observations _ stored.seen_mem, stored.key_eq, stored.hash_eq⟩

section Item

variable {rules : Rules} {context : ItemContext} {db db' : Database}

theorem Extends.item_mem {runId : Uuid} (extends' : Extends runId db db') (row : RawItem)
    (member : row ∈ db.rawItems) : row ∈ db'.rawItems := by
  obtain ⟨added, same, -⟩ := extends'.rawItems_eq
  exact same ▸ List.mem_append_left _ member

theorem Extends.observation_mem {runId : Uuid} (extends' : Extends runId db db')
    (row : Observation) (member : row ∈ db.observations) : row ∈ db'.observations := by
  obtain ⟨added, same, -⟩ := extends'.observations_eq
  exact same ▸ List.mem_append_left _ member

/-- The item of an envelope is found or inserted. -/
theorem rawItem_keyed {envelope : RawItemEnvelope} {id : Uuid} {inserted : Bool} (keyed : Keyed db)
    (ok : rawItem db context envelope = .ok ((id, inserted), db')) :
    Keyed db' ∧ ¬(envelope.externalId = none ∧ envelope.payloadHash = none) ∧
      ∃ item ∈ db'.rawItems, item.id = id ∧
        item.identity = identityOf context.sourceId envelope := by
  unfold rawItem at ok
  split at ok
  · cases ok
  · next identified =>
    rw [find_sameItem] at ok
    split at ok
    · next row found =>
      obtain ⟨⟨rfl, rfl⟩, rfl⟩ := by simpa using ok
      exact ⟨keyed, identified, row, Table.mem_of_find _ found, rfl, Table.key_of_find _ found⟩
    · next absent =>
      obtain ⟨⟨rfl, rfl⟩, rfl⟩ := by simpa using ok
      refine ⟨?_, identified, _, List.mem_append_right _ (List.mem_singleton_self _), rfl, rfl⟩
      have fresh : Table.find RawItem.id db.rawItems db.fresh = none :=
        (Table.find_eq_none _).2 fun row member => (keyed.itemsGiven row member).ne_next
      refine ⟨?_, Table.nodup_append _ keyed.items absent,
        Table.nodup_append _ keyed.itemIds fresh, ?_, keyed.observations, keyed.observationIds,
        keyed.facts⟩
      · intro row member
        obtain old | new := List.mem_append.1 member
        · exact (keyed.itemsGiven row old).mono (Nat.le_succ _)
        · obtain rfl := List.mem_singleton.1 new
          exact ⟨db.issued, Nat.lt_succ_self _, rfl⟩
      · intro row member
        exact (keyed.observationsGiven row member).mono (Nat.le_succ _)

/-- The observation of an item and its facts are found or inserted. -/
theorem observation_keyed {rawItemId observationId : Uuid} {inserted : Bool} {observedAt : Int}
    {payload : Object} {hash quality : String} {db₁ : Database} (keyed : Keyed db)
    (observed : observation db context rawItemId inserted observedAt hash = .ok (observationId, db₁))
    (projected : projection db₁ context observationId rawItemId payload hash quality = .ok db') :
    Keyed db' ∧ (∃ status, QualityStatus.parse quality = some status) ∧
      ∃ seen ∈ db'.observations, seen.key = (context.runId, rawItemId, context.observationKey) ∧
        seen.projectionHash = hash := by
  unfold observation at observed
  rw [find_observation] at observed
  unfold projection at projected
  split at projected
  · cases projected
  · next status parsed =>
    split at observed
    · next seen found =>
      split at observed
      · next same =>
        obtain ⟨rfl, rfl⟩ := Prod.mk.inj (Except.ok.inj observed)
        have member := Table.mem_of_find _ found
        obtain ⟨facts, present, describes⟩ := keyed.exists_facts member
        have unchanged : db' = db := by
          split at projected
          · split at projected
            · exact (Except.ok.inj projected).symm
            · cases projected
          · next absent =>
            have := List.find?_eq_none.1 absent facts present
            simp [describes.observationId_eq, describes.version_eq] at this
        subst unchanged
        exact ⟨keyed, ⟨status, parsed⟩, seen, member, Table.key_of_find _ found, same⟩
      · cases observed
    · next absent =>
      obtain ⟨rfl, rfl⟩ := Prod.mk.inj (Except.ok.inj observed)
      have unused : ∀ row ∈ db.projections, row.observationId ≠ db.fresh := by
        intro row member
        have named := List.mem_map_of_mem (f := Projection.observationId) member
        rw [keyed.projections_observationId] at named
        obtain ⟨seen, present, same⟩ := List.mem_map.1 named
        exact same ▸ (keyed.observationsGiven seen present).ne_next
      rw [List.find?_eq_none.2 fun row member => by simp [unused row member]] at projected
      obtain rfl := Except.ok.inj projected
      refine ⟨?_, ⟨status, parsed⟩, _, List.mem_append_right _ (List.mem_singleton_self _), rfl,
        rfl⟩
      have fresh : Table.find Observation.id db.observations db.fresh = none :=
        (Table.find_eq_none _).2 fun row member =>
          (keyed.observationsGiven row member).ne_next
      refine ⟨?_, keyed.items, keyed.itemIds, ?_, Table.nodup_append _ keyed.observations absent,
        Table.nodup_append _ keyed.observationIds fresh, ?_⟩
      · intro row member
        exact (keyed.itemsGiven row member).mono (Nat.le_add_right _ 2)
      · intro row member
        obtain old | new := List.mem_append.1 member
        · exact (keyed.observationsGiven row old).mono (Nat.le_add_right _ 2)
        · obtain rfl := List.mem_singleton.1 new
          exact ⟨db.issued, Nat.lt_add_of_pos_right (Nat.succ_pos 1), rfl⟩
      · exact List.rel_append keyed.facts (.cons ⟨rfl, rfl, rfl, rfl, rfl, rfl⟩ .nil)

end Item

/-! ### A page -/

section Page

variable {rules : Rules} {context again : ItemContext} {db db' : Database}
  {entry : RawItemEnvelope × Object} {hash : String} {item : RawItem} {seen : Observation}

/-- **One item is stored**, under keys of its own. -/
theorem persistItem_stored {state next : Database × DownstreamCounts} (keyed : Keyed state.1)
    (ok : persistItem rules context state entry = .ok next) :
    Keyed next.1 ∧ ∃ hash item seen, ItemStored rules context next.1 entry hash item seen := by
  obtain ⟨facts, factual, ok⟩ := bind_eq_ok.1 ok
  obtain ⟨⟨payload, quality⟩, normalized, ok⟩ := bind_eq_ok.1 ok
  obtain ⟨⟨⟨rawItemId, inserted⟩, first⟩, found, ok⟩ := bind_eq_ok.1 ok
  obtain ⟨⟨observationId, second⟩, observed, ok⟩ := bind_eq_ok.1 ok
  obtain ⟨third, projected, ok⟩ := bind_eq_ok.1 ok
  obtain rfl := pure_eq_ok.1 ok
  obtain ⟨keyed, identified, item, present, rfl, identity⟩ := rawItem_keyed keyed found
  obtain ⟨keyed, ⟨status, parsed⟩, seen, member, key, same⟩ :=
    observation_keyed keyed observed projected
  have grows := (observation_extends observed).trans (projection_extends projected)
  refine ⟨keyed, _, item, seen, identified, ⟨payload, quality, status, ?_, parsed, rfl⟩,
    grows.item_mem item present, identity, member, key, same⟩
  exact bind_eq_ok.2 ⟨facts, factual, normalized⟩

/-- The items of a page are stored, one after the other. -/
theorem persistItems_stored {entries : List (RawItemEnvelope × Object)}
    {state last : Database × DownstreamCounts} (keyed : Keyed state.1)
    (ran : entries.foldlM (persistItem rules context) state = .ok last) :
    Keyed last.1 ∧
      ∀ entry ∈ entries, ∃ hash item seen, ItemStored rules context last.1 entry hash item seen := by
  induction entries generalizing state with
  | nil =>
      obtain rfl := pure_eq_ok.1 ran
      exact ⟨keyed, fun _ member => by simp at member⟩
  | cons first entries ih =>
      obtain ⟨next, stepped, rest⟩ := bind_eq_ok.1 ran
      obtain ⟨keyed, hash, item, seen, stored⟩ := persistItem_stored keyed stepped
      obtain ⟨keyed, others⟩ := ih keyed rest
      have grows := (persistItems_step rest).1
      refine ⟨keyed, fun entry member => ?_⟩
      obtain rfl | later := List.mem_cons.1 member
      · exact ⟨hash, item, seen, stored.mono grows.item_mem grows.observation_mem⟩
      · exact others entry later

/-- The same page, for the same run and under the same key. -/
structure SamePage (context again : ItemContext) : Prop where
  runId_eq : again.runId = context.runId
  sourceId_eq : again.sourceId = context.sourceId
  provider_eq : again.provider = context.provider
  operationKey_eq : again.operationKey = context.operationKey
  observationKey_eq : again.observationKey = context.observationKey

theorem SamePage.factsOf_eq (same : SamePage context again) (metadata : Object) :
    factsOf rules again metadata = factsOf rules context metadata := by
  simp only [factsOf, same.provider_eq, same.operationKey_eq]

/-- **An item that has been stored is a duplicate**, and nothing is written. -/
theorem persistItem_again (keyed : Keyed db) (stored : ItemStored rules context db entry hash item seen)
    (same : SamePage context again) (counts : DownstreamCounts) :
    persistItem rules again (db, counts) entry =
      .ok (db, { counts with duplicates := counts.duplicates + 1 }) := by
  obtain ⟨payload, quality, status, normalized, parsed, rfl⟩ := stored.facts
  rw [← same.factsOf_eq] at normalized
  obtain ⟨facts, factual, normalized⟩ := bind_eq_ok.1 normalized
  have found : rawItem db again entry.1 = .ok ((item.id, false), db) := by
    have here : Table.find RawItem.identity db.rawItems (identityOf again.sourceId entry.1) =
        some item := by
      rw [same.sourceId_eq, ← stored.identity_eq]
      exact Table.find_of_mem _ keyed.items stored.item_mem
    rw [rawItem, if_neg stored.identified, find_sameItem, here]
  have observed : observation db again item.id false entry.1.fetchedAt
      (rules.canonicalProjectionHash payload) = .ok (seen.id, db) := by
    have here : Table.find Observation.key db.observations
        (again.runId, item.id, again.observationKey) = some seen := by
      rw [same.runId_eq, same.observationKey_eq, ← stored.key_eq]
      exact Table.find_of_mem _ keyed.observations stored.seen_mem
    rw [observation, find_observation, here]
    exact if_pos stored.hash_eq
  have projected : projection db again seen.id item.id payload
      (rules.canonicalProjectionHash payload) quality = .ok db := by
    obtain ⟨facts, present, describes⟩ := keyed.exists_facts stored.seen_mem
    unfold projection
    simp only [parsed]
    split
    · next other found =>
      -- The facts of an observation are found by its identifier, which no other one has.
      have member := List.mem_of_find?_eq_some found
      have named := List.find?_some found
      simp only [decide_eq_true_eq] at named
      obtain ⟨n, below, rfl⟩ := List.mem_iff_getElem.1 member
      have about := keyed.facts.get below (keyed.facts.length_eq ▸ below)
      have identifier := about.observationId_eq.symm.trans named.1
      have same := List.inj_on_of_nodup_map keyed.observationIds
        (List.getElem_mem (keyed.facts.length_eq ▸ below)) stored.seen_mem identifier
      exact if_pos (about.projectionHash_eq.trans ((congrArg _ same).trans stored.hash_eq))
    · next absent =>
      have := List.find?_eq_none.1 absent facts present
      simp [describes.observationId_eq, describes.version_eq] at this
  simp only [persistItem, factual, normalized, found, observed, projected, bind, Except.bind, pure,
    Except.pure, Bool.false_eq_true, if_false]

/-- The items of a page that has been stored are duplicates. -/
theorem persistItems_again {entries : List (RawItemEnvelope × Object)} (keyed : Keyed db)
    (stored : ∀ entry ∈ entries, ∃ hash item seen, ItemStored rules context db entry hash item seen)
    (same : SamePage context again) (counts : DownstreamCounts) :
    entries.foldlM (persistItem rules again) (db, counts) =
      .ok (db, { counts with duplicates := counts.duplicates + entries.length }) := by
  induction entries generalizing counts with
  | nil => rfl
  | cons entry entries ih =>
      obtain ⟨hash, item, seen, here⟩ := stored entry List.mem_cons_self
      rw [List.foldlM_cons, persistItem_again keyed here same]
      refine (ih (fun other member => stored other (List.mem_cons_of_mem _ member)) _).trans ?_
      simp only [List.length_cons]
      congr 3
      omega

end Page

/-! ### Histories -/

/-- The items of a page, with their facts. -/
def entriesOf (result : ProviderFetchResult) : List (RawItemEnvelope × Object) :=
  result.rawItems.zip result.factualProjections

/-- A page in a transaction of its own: what it raises is rolled back. -/
def commitPage (rules : Rules) (db : Database) (context : ItemContext)
    (result : ProviderFetchResult) : Result DownstreamCounts × Database :=
  match persistFetchResult rules db context result with
  | .ok (counts, db') => (.ok counts, db')
  | .error raised => (.error raised, db)

/-- **The histories**: pages, and transactions that write other tables. -/
inductive Stores (rules : Rules) : Database → Database → Prop where
  | refl (db : Database) : Stores rules db db
  | page {first db : Database} (before : Stores rules first db) (context : ItemContext)
      (result : ProviderFetchResult) : Stores rules first (commitPage rules db context result).2
  | elsewhere {first db db' : Database} (before : Stores rules first db)
      (rawItems_eq : db'.rawItems = db.rawItems) (observations_eq : db'.observations = db.observations)
      (projections_eq : db'.projections = db.projections) (supply_eq : db'.supply = db.supply)
      (issued_le : db.issued ≤ db'.issued) : Stores rules first db'

/-- **Nothing is there twice**, and every observation has its facts once. -/
structure Once (db : Database) : Prop where
  items : ∀ row ∈ db.rawItems, db.rawItems.countP (sameItem row.envelope row.sourceId) = 1
  observations : ∀ row ∈ db.observations, db.observations.countP (fun other =>
    other.collectionRunId = row.collectionRunId ∧ other.rawItemId = row.rawItemId ∧
      other.observationKey = row.observationKey) = 1
  facts : ∀ row ∈ db.observations, db.projections.countP (fun facts =>
    facts.observationId = row.id ∧ facts.projectionSchemaVersion = 1) = 1

section Histories

variable {rules : Rules} {context again : ItemContext} {first db db' : Database}
  {result : ProviderFetchResult}

theorem Keyed.once (keyed : Keyed db) : Once db := by
  refine ⟨fun row member => ?_, fun row member => ?_, fun row member => ?_⟩
  · rw [← Table.countP_of_mem _ keyed.items member]
    exact List.countP_congr fun other _ => by rw [sameItem_iff, decide_eq_true_eq]; rfl
  · rw [← Table.countP_of_mem _ keyed.observations member]
    exact List.countP_congr fun other _ => by simp [Observation.key]
  · obtain ⟨facts, present, describes⟩ := keyed.exists_facts member
    have distinct : (db.projections.map Projection.observationId).Nodup :=
      keyed.projections_observationId ▸ keyed.observationIds
    rw [← Table.countP_of_mem _ distinct present]
    refine List.countP_congr fun other among => ?_
    obtain ⟨n, below, rfl⟩ := List.mem_iff_getElem.1 among
    have about := keyed.facts.get below (keyed.facts.length_eq ▸ below)
    have version : db.projections[n].projectionSchemaVersion = 1 := about.version_eq
    simp [version, describes.observationId_eq]

/-- What a page has stored. -/
theorem commitPage_stored {counts : DownstreamCounts} (keyed : Keyed db)
    (stored : commitPage rules db context result = (.ok counts, db')) :
    Extends context.runId db db' ∧ Keyed db' ∧ counts.fetched = result.rawItems.length ∧
      counts.new + counts.duplicates = counts.fetched ∧
      ∀ entry ∈ entriesOf result, ∃ hash item seen,
        ItemStored rules context db' entry hash item seen := by
  unfold commitPage at stored
  split at stored
  · next done =>
    obtain ⟨same, rfl⟩ := Prod.mk.inj stored
    obtain rfl := Except.ok.inj same
    obtain ⟨grows, fetched, counted⟩ := persistFetchResult_step done
    obtain ⟨sized, done⟩ := check_eq_ok.1 done
    obtain ⟨⟨last, total⟩, ran, done⟩ := bind_eq_ok.1 done
    obtain ⟨rfl, rfl⟩ := Prod.mk.inj (pure_eq_ok.1 done)
    obtain ⟨keyed, each⟩ := persistItems_stored keyed ran
    exact ⟨grows, keyed, fetched, counted, each⟩
  · cases (Prod.mk.inj stored).1

/-- A page that raises leaves the tables. -/
theorem commitPage_raised {raised : PyError}
    (failed : commitPage rules db context result = (.error raised, db')) : db' = db := by
  unfold commitPage at failed
  split at failed
  · cases (Prod.mk.inj failed).1
  · exact (Prod.mk.inj failed).2.symm

/-- What a history keeps: the keys, and what has been stored. -/
theorem Stores.keyed (reached : Stores rules first db) (keyed : Keyed first) :
    Keyed db ∧ (∀ row ∈ first.rawItems, row ∈ db.rawItems) ∧
      ∀ row ∈ first.observations, row ∈ db.observations := by
  induction reached with
  | refl => exact ⟨keyed, fun _ member => member, fun _ member => member⟩
  | page before context result ih =>
      obtain ⟨keyed, items, observations⟩ := ih
      cases outcome : commitPage rules _ context result with
      | mk reply db' =>
          cases reply with
          | error raised =>
              obtain rfl := commitPage_raised outcome
              exact ⟨keyed, items, observations⟩
          | ok counts =>
              obtain ⟨grows, keyed, -⟩ := commitPage_stored keyed outcome
              exact ⟨keyed, fun row member => grows.item_mem row (items row member),
                fun row member => grows.observation_mem row (observations row member)⟩
  | elsewhere before rawItems observations projections supply issued ih =>
      obtain ⟨keyed, items, seen⟩ := ih
      refine ⟨⟨?_, ?_, ?_, ?_, ?_, ?_, ?_⟩, rawItems ▸ items, observations ▸ seen⟩
      · rw [rawItems, supply]
        exact fun row member => (keyed.itemsGiven row member).mono issued
      · rw [rawItems]
        exact keyed.items
      · rw [rawItems]
        exact keyed.itemIds
      · rw [observations, supply]
        exact fun row member => (keyed.observationsGiven row member).mono issued
      · rw [observations]
        exact keyed.observations
      · rw [observations]
        exact keyed.observationIds
      · rw [projections, observations]
        exact keyed.facts

/-- The hash of the facts of an item. -/
def hashOf (rules : Rules) (context : ItemContext) (entry : RawItemEnvelope × Object) :
    Result String :=
  (factsOf rules context entry.2).map fun facts => rules.canonicalProjectionHash facts.1

theorem ItemStored.hashOf_eq {entry : RawItemEnvelope × Object} {hash : String} {item : RawItem}
    {seen : Observation} (stored : ItemStored rules context db entry hash item seen) :
    hashOf rules context entry = .ok hash := by
  obtain ⟨payload, quality, status, normalized, -, rfl⟩ := stored.facts
  rw [hashOf, normalized]
  rfl

/-- One item under one key has one hash. -/
theorem ItemStored.unique (keyed : Keyed db) {entry other : RawItemEnvelope × Object}
    {hash hash' : String} {item item' : RawItem} {seen seen' : Observation}
    (stored : ItemStored rules context db entry hash item seen)
    (stored' : ItemStored rules again db other hash' item' seen') (same : SamePage context again)
    (identity : identityOf context.sourceId other.1 = identityOf context.sourceId entry.1) :
    hash' = hash := by
  have items : item' = item := by
    refine List.inj_on_of_nodup_map keyed.items stored'.item_mem stored.item_mem ?_
    rw [stored'.identity_eq, stored.identity_eq, same.sourceId_eq, identity]
  have observations : seen' = seen := by
    refine List.inj_on_of_nodup_map keyed.observations stored'.seen_mem stored.seen_mem ?_
    rw [stored'.key_eq, stored.key_eq, same.runId_eq, same.observationKey_eq, items]
  rw [← stored'.hash_eq, ← stored.hash_eq, observations]

/-- **A page is stored once and as a whole**, in every history: nothing is there twice, every item
is counted, the page again is all duplicates and writes nothing, and with an item of another hash
it raises and writes nothing. -/
theorem stored_once {outcome : Result DownstreamCounts} (keyed : Keyed first)
    (reached : Stores rules first db)
    (page : commitPage rules db context result = (outcome, db')) :
    Once db' ∧ (∀ raised, outcome = .error raised → db' = db) ∧
      ∀ counts, outcome = .ok counts →
        counts.new + counts.duplicates = counts.fetched ∧
        counts.fetched = result.rawItems.length ∧
        (∀ entry ∈ entriesOf result, ∃ hash item seen,
          ItemStored rules context db' entry hash item seen) ∧
        ∀ later again, Stores rules db' later → SamePage context again →
          commitPage rules later again result =
            (.ok ⟨result.rawItems.length, 0, result.rawItems.length⟩, later) ∧
          ∀ changed : ProviderFetchResult,
            (∃ entry ∈ entriesOf result, ∃ entry' ∈ entriesOf changed,
              identityOf context.sourceId entry'.1 = identityOf context.sourceId entry.1 ∧
                hashOf rules context entry' ≠ hashOf rules context entry) →
            ∃ raised, commitPage rules later again changed = (.error raised, later) := by
  have known := (reached.keyed keyed).1
  have after : Keyed db' := by
    have next := (Stores.page reached context result).keyed keyed
    rw [page] at next
    exact next.1
  refine ⟨after.once, ?_, ?_⟩
  · rintro raised rfl
    exact commitPage_raised page
  · rintro counts rfl
    obtain ⟨-, -, fetched, counted, each⟩ := commitPage_stored known page
    refine ⟨counted, fetched, each, fun later again follows same => ?_⟩
    obtain ⟨present, items, observations⟩ := follows.keyed after
    have still : ∀ entry ∈ entriesOf result, ∃ hash item seen,
        ItemStored rules context later entry hash item seen := by
      intro entry member
      obtain ⟨hash, item, seen, stored⟩ := each entry member
      exact ⟨hash, item, seen, stored.mono items observations⟩
    refine ⟨?_, fun changed ⟨entry, member, entry', member', identity, different⟩ => ?_⟩
    · have sized : result.factualProjections.length = result.rawItems.length := by
        unfold commitPage at page
        split at page
        · next done => exact beq_iff_eq.1 (require_eq_ok.1 (check_eq_ok.1 done).1)
        · cases (Prod.mk.inj page).1
      have ran := persistItems_again present still same ⟨result.rawItems.length, 0, 0⟩
      have length : (entriesOf result).length = result.rawItems.length := by
        rw [entriesOf, List.length_zip, sized, Nat.min_self]
      unfold entriesOf at ran length
      simp only [commitPage, persistFetchResult, sized, beq_self_eq_true, require_true, ran, length,
        bind, Except.bind, pure, Except.pure, Nat.zero_add]
    · cases outcome : commitPage rules later again changed with
      | mk reply last =>
          cases reply with
          | error raised =>
              obtain rfl := commitPage_raised outcome
              exact ⟨raised, rfl⟩
          | ok counts' =>
              obtain ⟨grows, keyed, -, -, each'⟩ := commitPage_stored present outcome
              obtain ⟨hash, item, seen, stored⟩ := still entry member
              obtain ⟨hash', item', seen', stored'⟩ := each' entry' member'
              have hashes := (stored.mono grows.item_mem grows.observation_mem).unique keyed stored'
                same identity
              refine absurd ?_ different
              have here := stored'.hashOf_eq
              rw [hashOf, same.factsOf_eq] at here
              rw [stored.hashOf_eq, ← hashes]
              exact here

end Histories

/-! ### A page with an item twice -/

/-- An item of some identity. -/
def namedItem (identity : String) : RawItemEnvelope :=
  ⟨some identity, 5, some 200, none, none, none, "metadata_only"⟩

/-- Facts with some hash. -/
def hashed (hash : String) : Object := [("hash", .str hash)]

/-- A page of company news, with these identities and hashes. -/
def pageOf (items : List (String × String)) : ProviderFetchResult where
  rawItems := items.map fun item => namedItem item.1
  sanitizedMetadata := items.map fun _ => []
  nextCursor := none
  hasMore := false
  safeErrors := []
  provider := "finnhub"
  contractVersion := 2
  displayProjections := []
  factualProjections := items.map fun item => hashed item.2
  continuation := none
  rejectedRowHashes := []
  coverageIncomplete := false
  metadata_count := by simp
  display_count := .inl rfl
  factual_count := .inr (by simp)

/-- Facts are in normal form, and have the hash they say. -/
def plainRules : Rules where
  reader := quoteRules.reader
  canonicalProjectionHash facts :=
    match facts.get "hash" with
    | .str hash => hash
    | _ => ""
  normalizeAndClassify _ _ facts := .ok (facts, "complete")
  observationKey := quoteRules.observationKey

def newsContext : ItemContext := ⟨1, 10, none, "finnhub", some 2, "company_news", some 1, 2, "run", 5⟩

/-- Two items, of which one is there twice. -/
def newsItems : ProviderFetchResult := pageOf [("a", "x"), ("b", "y"), ("a", "x")]

/-- The tables once they have been stored. -/
def newsStored : Database := (commitPage plainRules quoteTables newsContext newsItems).2

/-- Stored again they are three duplicates, and with another hash for one of them the page
raises. -/
theorem stored_once_news :
    commitPage plainRules newsStored newsContext newsItems = (.ok ⟨3, 0, 3⟩, newsStored) ∧
      ∃ raised, commitPage plainRules newsStored newsContext (pageOf [("b", "z")]) =
        (.error raised, newsStored) := by
  have done : (commitPage plainRules quoteTables newsContext newsItems).1 = .ok ⟨3, 2, 1⟩ := by
    decide +kernel
  have keyed : Keyed quoteTables := .empty rfl rfl rfl
  obtain ⟨-, -, stored⟩ := stored_once keyed (.refl _)
    (Prod.ext done rfl : commitPage plainRules quoteTables newsContext newsItems =
      (.ok ⟨3, 2, 1⟩, newsStored))
  obtain ⟨-, -, -, again⟩ := stored ⟨3, 2, 1⟩ rfl
  obtain ⟨duplicates, raises⟩ := again newsStored newsContext (.refl _) ⟨rfl, rfl, rfl, rfl, rfl⟩
  refine ⟨duplicates, raises (pageOf [("b", "z")])
    ⟨(namedItem "b", hashed "y"), ?_, (namedItem "b", hashed "z"), ?_, rfl, ?_⟩⟩
  · exact .tail _ (.head _)
  · exact .head _
  · intro same
    exact absurd (Except.ok.inj same) (by decide)

end NewsCollect.Collection
