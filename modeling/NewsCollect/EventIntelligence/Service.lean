/-
**The transactions of the event candidates.**

Each call reads and writes in a transaction of its own, one statement after the other. A statement
sees what has been committed before it, and what its own transaction has written; an insertion waits
for another transaction that has inserted the same key, and an update for one that has updated the
same row. An update writes the columns that have been changed in memory, over whatever they are by
then.

* `EventCandidateService.process`, `EventCandidateService.deactivateAssociation`,
  `EventCandidateService.regroupAssociation`.
* `Store`: the committed rows, and what the transactions have written.
* `exec`: one statement.
* `transactions`: the calls as a system.
-/

import NewsCollect.Errors
import NewsCollect.EventIntelligence.Matching
import NewsCollect.EventIntelligence.Scoring
import NewsCollect.Library.Pool

namespace NewsCollect.EventIntelligence

open Collection (Uuid Supply)
open Interleaving

/-! ### Rows -/

inductive EventCandidateStatus where
  | candidate
  | confirmed
  | rejected
deriving DecidableEq, Repr

structure EventCandidate where
  id : Uuid
  clusterKey : String
  anchorType : String
  anchorValueHash : String
  strongIdentityHash : Option String
  identitySignatures : List String
  titleFingerprints : List String
  status : EventCandidateStatus
  firstSeenAt : Int
  latestSeenAt : Int
  entities : List String
  assets : List String
  topics : List String
  evidenceCount : Nat
  sourceCount : Nat
  confidence : ℚ
  importanceScore : ℚ
  importanceReasons : List String
deriving DecidableEq

/-- An association of a candidate and an evidence item. -/
structure EventCandidateEvidence where
  id : Uuid
  eventCandidateId : Uuid
  evidenceItemId : Uuid
  matchRule : MatchRule
  ruleVersion : Nat
  officialSource : Bool
  active : Bool
  removedAt : Option Int
deriving DecidableEq

/-- An evidence item, with its source. -/
structure EvidenceRow where
  projection : EvidenceProjection
  sourceId : Uuid

/-- What a candidate is weighed by, of one of its active associations: the source and the entities of
the evidence item, and whether the association is official. -/
structure ActiveEvidence where
  sourceId : Uuid
  entityRefs : List String
  officialSource : Bool
deriving DecidableEq

def EventCandidate.projection (candidate : EventCandidate) : CandidateProjection :=
  ⟨candidate.id, candidate.clusterKey, candidate.strongIdentityHash, candidate.identitySignatures,
    candidate.titleFingerprints, candidate.firstSeenAt, candidate.latestSeenAt, candidate.entities⟩

structure EventCandidateOutcome where
  eventCandidateId : Uuid
  clusterKey : String
  status : String
  matchRule : MatchRule
  ruleVersion : Nat
  associationActive : Bool
deriving DecidableEq

/-- `_outcome`. -/
def outcome (candidate : EventCandidate) (link : EventCandidateEvidence) (status : String) :
    EventCandidateOutcome :=
  ⟨candidate.id, candidate.clusterKey, status, link.matchRule, link.ruleVersion, link.active⟩

/-! ### What is written -/

/-- `sorted(set(...) | set(...))`. -/
def merged (held more : List String) : List String :=
  (held ++ more).dedup.insertionSort (· ≤ ·)

/-- What a new candidate is weighed by. -/
def newImportance (projection : EvidenceProjection) : ImportanceResult :=
  ImportanceInput.score ⟨projection.officialSource, 1, 1, projection.sourcePriority,
    projection.entityRefs.length, false⟩

/-- A new candidate, under an identifier that the database gives. -/
def newCandidate (projection : EvidenceProjection) (decision : MatchDecision) (id : Uuid) :
    EventCandidate where
  id := id
  clusterKey := decision.anchor.clusterKey
  anchorType := decision.anchor.kind
  anchorValueHash := decision.anchor.valueHash
  strongIdentityHash := decision.strongIdentityHash
  identitySignatures := decision.signatures
  titleFingerprints := decision.titleFingerprint.toList
  status := .candidate
  firstSeenAt := projection.time
  latestSeenAt := projection.time
  entities := projection.entityRefs
  assets := projection.assetRefs
  topics := projection.topicRefs
  evidenceCount := 1
  sourceCount := 1
  confidence := 45 / 100 + if projection.officialSource then 20 / 100 else 0
  importanceScore := (newImportance projection).score
  importanceReasons := (newImportance projection).componentReasons

/-- A candidate with what an evidence item adds to it. -/
def EventCandidate.refreshed (candidate : EventCandidate) (projection : EvidenceProjection)
    (decision : MatchDecision) : EventCandidate :=
  { candidate with
    identitySignatures := merged candidate.identitySignatures decision.signatures
    titleFingerprints :=
      match decision.titleFingerprint with
      | some fingerprint => merged candidate.titleFingerprints [fingerprint]
      | none => candidate.titleFingerprints
    strongIdentityHash := candidate.strongIdentityHash.or decision.strongIdentityHash
    entities := merged candidate.entities projection.entityRefs
    assets := merged candidate.assets projection.assetRefs
    topics := merged candidate.topics projection.topicRefs
    firstSeenAt := min candidate.firstSeenAt projection.time
    latestSeenAt := max candidate.latestSeenAt projection.time }

/-- What a candidate with this active evidence is weighed by. -/
def importanceOf (active : List ActiveEvidence) (sourcePriority : Option Int) : ImportanceResult :=
  let sources := (active.map (·.sourceId)).dedup.length
  ImportanceInput.score ⟨active.any (·.officialSource), active.length, sources, sourcePriority,
    (active.flatMap (·.entityRefs)).dedup.length, sources > 1⟩

/-- A candidate with its aggregates, of its active evidence. -/
def EventCandidate.recounted (candidate : EventCandidate) (active : List ActiveEvidence)
    (sourcePriority : Option Int) : EventCandidate :=
  { candidate with
    evidenceCount := active.length
    sourceCount := (active.map (·.sourceId)).dedup.length
    status :=
      if active.length = 0 then .rejected
      else if candidate.status = .rejected then .candidate
      else candidate.status
    importanceScore := (importanceOf active sourcePriority).score
    importanceReasons := (importanceOf active sourcePriority).componentReasons
    confidence := confidenceOf (active.any (·.officialSource)) active.length
      (active.map (·.sourceId)).dedup.length }

/-- A column that has been changed is written; another one stays as it is stored. -/
def column {α : Type} [DecidableEq α] (loaded changed stored : α) : α :=
  if changed = loaded then stored else changed

/-- The stored row after an update of a row that has been changed since it was loaded. -/
def EventCandidate.write (loaded changed stored : EventCandidate) : EventCandidate :=
  { stored with
    strongIdentityHash :=
      column loaded.strongIdentityHash changed.strongIdentityHash stored.strongIdentityHash
    identitySignatures :=
      column loaded.identitySignatures changed.identitySignatures stored.identitySignatures
    titleFingerprints :=
      column loaded.titleFingerprints changed.titleFingerprints stored.titleFingerprints
    status := column loaded.status changed.status stored.status
    firstSeenAt := column loaded.firstSeenAt changed.firstSeenAt stored.firstSeenAt
    latestSeenAt := column loaded.latestSeenAt changed.latestSeenAt stored.latestSeenAt
    entities := column loaded.entities changed.entities stored.entities
    assets := column loaded.assets changed.assets stored.assets
    topics := column loaded.topics changed.topics stored.topics
    evidenceCount := column loaded.evidenceCount changed.evidenceCount stored.evidenceCount
    sourceCount := column loaded.sourceCount changed.sourceCount stored.sourceCount
    confidence := column loaded.confidence changed.confidence stored.confidence
    importanceScore :=
      column loaded.importanceScore changed.importanceScore stored.importanceScore
    importanceReasons :=
      column loaded.importanceReasons changed.importanceReasons stored.importanceReasons }

/-! ### Statements -/

/-- What a transaction asks for. -/
inductive Op where
  | evidence (evidenceItemId : Uuid)
  | activeAssociations (evidenceItemId : Uuid)
  | activePair (eventCandidateId evidenceItemId : Uuid)
  | candidates
  | candidate (eventCandidateId : Uuid)
  | byClusterKey (clusterKey : String)
  | insertCandidate (row : Uuid → EventCandidate)
  | insertLink (row : Uuid → EventCandidateEvidence)
  | deactivate (linkId : Uuid) (removedAt : Int)
  | activeEvidence (eventCandidateId : Uuid)
  | update (loaded changed : EventCandidate)
  | commit
  | rollback

/-- What each is answered with, unless it raises. The insertion of a candidate is made under a
savepoint: a key that is taken is no error of the transaction. -/
@[reducible] def Answer : Op → Type
  | .evidence _ => Option EvidenceProjection
  | .activeAssociations _ => List EventCandidateEvidence
  | .activePair _ _ => List EventCandidateEvidence
  | .candidates => List CandidateProjection
  | .candidate _ => Option EventCandidate
  | .byClusterKey _ => Option EventCandidate
  | .insertCandidate _ => Option EventCandidate
  | .insertLink _ => EventCandidateEvidence
  | .deactivate _ _ => Unit
  | .activeEvidence _ => List ActiveEvidence
  | .update _ _ => Unit
  | .commit => Unit
  | .rollback => Unit

abbrev statements : Signature := .raising Answer PyError

abbrev Procedure : Type → Type := ExceptT PyError (Program statements)

/-- Ask for one statement. -/
abbrev ask (op : Op) : Procedure (Answer op) := request op

/-- The value that is there, or the exception. -/
def found {α : Type} (value : Option α) (message : String) : Procedure α :=
  compute (orRaise value .valueError message)

/-! ### The service -/

namespace EventCandidateService

variable (normalizer : Normalizer)

/-- `_create_or_get`. -/
def createOrGet (projection : EvidenceProjection) (decision : MatchDecision) :
    Procedure (EventCandidate × String) := do
  match ← ask (.insertCandidate (newCandidate projection decision)) with
  | some candidate => pure (candidate, "created")
  | none => do
      match ← ask (.byClusterKey decision.anchor.clusterKey) with
      | some existing => pure (existing, "concurrent_existing")
      | none => throw ⟨.sqlAlchemyError, "uq_event_candidates_cluster_key"⟩

/-- The row of a new association. -/
def newLink (candidate : EventCandidate) (projection : EvidenceProjection) (decision : MatchDecision)
    (id : Uuid) : EventCandidateEvidence :=
  ⟨id, candidate.id, projection.evidenceItemId, decision.matchRule, decision.ruleVersion,
    projection.officialSource, true, none⟩

/-- `_associate`. -/
def associate (candidate : EventCandidate) (projection : EvidenceProjection)
    (decision : MatchDecision) : Procedure EventCandidateEvidence := do
  let active ← ask (.activeAssociations projection.evidenceItemId)
  let same := active.filter (·.eventCandidateId == candidate.id)
  if active.length > 1 || (!active.isEmpty && same.isEmpty) then
    throw ⟨.valueError, "event_candidate_association_ambiguous"⟩
  else
    match same with
    | link :: _ => pure link
    | [] => ask (.insertLink (newLink candidate projection decision))

/-- `_recalculate_aggregates`. -/
def recalculateAggregates (candidate : EventCandidate) (sourcePriority : Option Int) :
    Procedure Unit := do
  let active ← ask (.activeEvidence candidate.id)
  ask (.update candidate (candidate.recounted active sourcePriority))

/-- `_refresh_candidate`. The query for the evidence flushes what has been merged. -/
def refreshCandidate (candidate : EventCandidate) (projection : EvidenceProjection)
    (decision : MatchDecision) : Procedure Unit := do
  let refreshed := candidate.refreshed projection decision
  let _ ← ask (.update candidate refreshed)
  recalculateAggregates refreshed projection.sourcePriority

/-- The candidate of a decision. -/
def chosenCandidate (projection : EvidenceProjection) (decision : MatchDecision) :
    Procedure (EventCandidate × String) :=
  match decision.candidateId with
  | some id => do
      -- the rows of the list are not kept by the session, so this one is read again
      let candidate ← ask (.candidate id)
      let candidate ← found candidate "event_candidate_not_found"
      pure (candidate, "matched")
  | none => createOrGet projection decision

/-- `process`. -/
def process (evidenceItemId : Uuid) : Procedure EventCandidateOutcome := do
  let projection ← ask (.evidence evidenceItemId)
  let projection ← found projection "evidence_item_not_found"
  let existing ← ask (.activeAssociations evidenceItemId)
  if existing.length > 1 then throw ⟨.valueError, "event_candidate_association_ambiguous"⟩
  else
    match existing with
    | link :: _ => do
        let candidate ← ask (.candidate link.eventCandidateId)
        let candidate ← found candidate "event_candidate_not_found"
        pure (outcome candidate link "existing")
    | [] => do
        let candidates ← ask .candidates
        let decision := matchExisting normalizer projection candidates
        let (candidate, status) ← chosenCandidate projection decision
        let link ← associate candidate projection decision
        refreshCandidate candidate projection decision
        pure (outcome candidate link status)

/-- `deactivate_association`. -/
def deactivateAssociation (eventCandidateId evidenceItemId : Uuid) (removedAt : Int) :
    Procedure EventCandidateEvidence := do
  let links ← ask (.activePair eventCandidateId evidenceItemId)
  match links with
  | [] => throw ⟨.valueError, "event_candidate_evidence_not_found"⟩
  | link :: rest => do
      if rest.isEmpty then
        let _ ← ask (.deactivate link.id removedAt)
        let candidate ← ask (.candidate eventCandidateId)
        let candidate ← found candidate "event_candidate_not_found"
        recalculateAggregates candidate none
        pure { link with active := false, removedAt := some removedAt }
      else throw ⟨.valueError, "event_candidate_association_ambiguous"⟩

/-- The decision of a review. -/
def reviewedDecision (target : EventCandidate) (projection : EvidenceProjection) : MatchDecision :=
  let signatures := evidenceSignatures normalizer projection
  ⟨some target.id, .reviewedRegroup, ruleVersion, deriveAnchor normalizer projection false, signatures,
    titleFingerprint normalizer projection.title,
    (signatures.find? (ofKind "official")).map afterColon⟩

/-- `regroup_association`. -/
def regroupAssociation (evidenceItemId fromCandidateId toCandidateId : Uuid) (removedAt : Int) :
    Procedure EventCandidateOutcome := do
  if fromCandidateId = toCandidateId then
    throw ⟨.valueError, "event_candidate_regroup_target_unchanged"⟩
  else
    let projection ← ask (.evidence evidenceItemId)
    let projection ← found projection "evidence_item_not_found"
    let active ← ask (.activeAssociations evidenceItemId)
    if active.map (·.eventCandidateId) ≠ [fromCandidateId] then
      throw ⟨.valueError, "event_candidate_association_ambiguous"⟩
    else
      let target ← ask (.candidate toCandidateId)
      let target ← found target "event_candidate_not_found"
      let _ ← deactivateAssociation fromCandidateId evidenceItemId removedAt
      let decision := reviewedDecision normalizer target projection
      let link ← associate target projection decision
      refreshCandidate target projection decision
      pure (outcome target link "regrouped")

end EventCandidateService

/-- A call in a transaction of its own, which is committed unless the call raises. -/
def inTransaction {α : Type} (body : Procedure α) : Procedure α := do
  match ← attempt body with
  | .ok value => do
      let _ ← ask .commit
      pure value
  | .error raised => do
      let _ ← ask .rollback
      throw raised

/-! ### The database -/

/-- What a transaction has written so far: new candidates and associations, updates of candidates,
and associations that have been deactivated. -/
structure Overlay where
  candidates : List EventCandidate
  links : List EventCandidateEvidence
  updates : List (EventCandidate × EventCandidate)
  removed : List (Uuid × Int)
deriving DecidableEq

namespace Overlay

def empty : Overlay := ⟨[], [], [], []⟩

/-- A candidate, as a transaction has updated it. -/
def rewrite (overlay : Overlay) (row : EventCandidate) : EventCandidate :=
  overlay.updates.foldl
    (fun row update => if row.id = update.1.id then update.1.write update.2 row else row) row

/-- An association, unless a transaction has deactivated it. -/
def settle (overlay : Overlay) (link : EventCandidateEvidence) : EventCandidateEvidence :=
  match overlay.removed.find? (·.1 == link.id) with
  | some (_, removedAt) => { link with active := false, removedAt := some removedAt }
  | none => link

/-- A transaction has updated a candidate. -/
def touches (overlay : Overlay) (id : Uuid) : Bool := overlay.updates.any (·.1.id == id)

section Settle

variable (overlay : Overlay) (link : EventCandidateEvidence)

@[simp] theorem settle_id : (overlay.settle link).id = link.id := by
  unfold settle
  split
  · rfl
  · rfl

@[simp] theorem settle_evidenceItemId :
    (overlay.settle link).evidenceItemId = link.evidenceItemId := by
  unfold settle
  split
  · rfl
  · rfl

@[simp] theorem settle_eventCandidateId :
    (overlay.settle link).eventCandidateId = link.eventCandidateId := by
  unfold settle
  split
  · rfl
  · rfl

end Settle

end Overlay

/-- **The database**: the evidence, the committed rows, what the transactions in progress have written,
and the identifiers that have been given. -/
structure Store where
  evidence : List EvidenceRow
  candidates : List EventCandidate
  links : List EventCandidateEvidence
  overlays : Nat → Overlay
  writers : Nat
  issued : Nat
  supply : Supply
  unwritten : ∀ who, writers ≤ who → overlays who = .empty

namespace Store

variable (store : Store) (who : Nat)

/-- The candidates that a transaction sees. -/
def candidatesOf : List EventCandidate :=
  (store.candidates ++ (store.overlays who).candidates).map (store.overlays who).rewrite

/-- The associations that a transaction sees. -/
def linksOf : List EventCandidateEvidence :=
  (store.links ++ (store.overlays who).links).map (store.overlays who).settle

/-- The active associations of an evidence item that a transaction sees. -/
def activeOf (evidenceItemId : Uuid) : List EventCandidateEvidence :=
  (store.linksOf who).filter fun link => link.evidenceItemId == evidenceItemId && link.active

/-- The candidate that a transaction sees under an identifier. -/
def candidateOf (id : Uuid) : Option EventCandidate :=
  Table.find EventCandidate.id (store.candidatesOf who) id

/-- What is read of an evidence item. -/
def projection (id : Uuid) : Option EvidenceProjection :=
  (store.evidence.find? fun row => row.projection.evidenceItemId = id).map (·.projection)

/-- Another transaction in progress has written this. -/
def elsewhere (wrote : Overlay → Bool) : Bool :=
  (List.range store.writers).any fun other => other ≠ who && wrote (store.overlays other)

/-- A transaction has written. -/
def written (overlay : Overlay) : Store :=
  { store with
    overlays := Function.update store.overlays who overlay
    writers := max store.writers (who + 1)
    unwritten := fun other beyond => by
      rw [Function.update_of_ne (by omega)]
      exact store.unwritten other (by omega) }

/-- The next identifier has been given. -/
def give : Store := { store with issued := store.issued + 1 }

def fresh : Uuid := store.supply.id store.issued

/-- The rows of a transaction are committed. -/
def committed : Store :=
  { store.written who .empty with
    candidates := store.candidatesOf who
    links := store.linksOf who }

/-- An association of the same pair. -/
def samePair (link other : EventCandidateEvidence) : Bool :=
  other.active && other.eventCandidateId == link.eventCandidateId &&
    other.evidenceItemId == link.evidenceItemId

/-- An active pair is unique: another one is an error, once nobody in progress has written the same
pair, or deactivated it. -/
def insertLink (link : EventCandidateEvidence) : Option (Result EventCandidateEvidence × Store) :=
  let taken := (store.linksOf who).filter (samePair link)
  if store.elsewhere who fun overlay => overlay.links.any (samePair link) ||
      taken.any fun other => overlay.removed.any (·.1 == other.id) then none
  else if taken.isEmpty then
    let overlay := store.overlays who
    some (.ok link, (store.written who { overlay with links := overlay.links ++ [link] }).give)
  else some (raise .sqlAlchemyError "uq_event_candidate_evidence_active_pair", store)

/-- A cluster key is unique. -/
def insertCandidate (row : EventCandidate) : Option (Result (Option EventCandidate) × Store) :=
  if (store.candidatesOf who).any (·.clusterKey == row.clusterKey) then some (.ok none, store)
  else if store.elsewhere who fun overlay =>
      overlay.candidates.any (·.clusterKey == row.clusterKey) then none
  else
    let overlay := store.overlays who
    some (.ok (some row),
      (store.written who { overlay with candidates := overlay.candidates ++ [row] }).give)

/-- A row that nobody else in progress has deactivated. -/
def deactivate (linkId : Uuid) (removedAt : Int) : Option (Result Unit × Store) :=
  if store.elsewhere who fun overlay => overlay.removed.any (·.1 == linkId) then none
  else
    let overlay := store.overlays who
    some (.ok (), store.written who { overlay with removed := overlay.removed ++ [(linkId, removedAt)] })

/-- An update of a row that nobody else in progress has updated; without a change there is none. -/
def update (loaded changed : EventCandidate) : Option (Result Unit × Store) :=
  if changed = loaded then some (.ok (), store)
  else if store.elsewhere who (·.touches loaded.id) then none
  else
    let overlay := store.overlays who
    some (.ok (), store.written who { overlay with updates := overlay.updates ++ [(loaded, changed)] })

/-- The active associations of a candidate, each with its evidence item. -/
def activeEvidence (eventCandidateId : Uuid) : List ActiveEvidence :=
  ((store.linksOf who).filter fun link =>
    link.eventCandidateId == eventCandidateId && link.active).filterMap fun link =>
      (store.evidence.find? fun row => row.projection.evidenceItemId = link.evidenceItemId).map
        fun row => ⟨row.sourceId, row.projection.entityRefs, link.officialSource⟩

end Store

/-- What the environment decides: that a statement is made, that the database fails, which ends the
transaction, or that it fails after a commit. -/
inductive Choice where
  | proceed
  | fault
  | lost
deriving DecidableEq

/-- **One statement.** -/
def exec (store : Store) (who : Nat) (op : Op) (choice : Choice) :
    Option (Result (Answer op) × Store) :=
  match choice, op with
  | .fault, _ => some (raise .operationalError "", store.written who .empty)
  | .lost, .commit => some (raise .operationalError "", store.committed who)
  | .lost, _ => none
  | .proceed, .evidence id => some (.ok (store.projection id), store)
  | .proceed, .activeAssociations id => some (.ok (store.activeOf who id), store)
  | .proceed, .activePair candidate evidence =>
      some (.ok ((store.activeOf who evidence).filter (·.eventCandidateId == candidate)), store)
  | .proceed, .candidates => some (.ok ((store.candidatesOf who).map (·.projection)), store)
  | .proceed, .candidate id => some (.ok (store.candidateOf who id), store)
  | .proceed, .byClusterKey key =>
      some (.ok ((store.candidatesOf who).find? (·.clusterKey == key)), store)
  | .proceed, .insertCandidate row => store.insertCandidate who (row store.fresh)
  | .proceed, .insertLink row => store.insertLink who (row store.fresh)
  | .proceed, .deactivate linkId removedAt => store.deactivate who linkId removedAt
  | .proceed, .activeEvidence id => some (.ok (store.activeEvidence who id), store)
  | .proceed, .update loaded changed => store.update who loaded changed
  | .proceed, .commit => some (.ok (), store.committed who)
  | .proceed, .rollback => some (.ok (), store.written who .empty)

section Written

variable {store : Store} {who other : Nat} {overlay : Overlay}

theorem written_ne (different : other ≠ who) :
    (store.written who overlay).overlays other = store.overlays other :=
  Function.update_of_ne different _ _

theorem written_self : (store.written who overlay).overlays who = overlay := Function.update_self ..

end Written

/-- A call of the service. -/
inductive Job where
  | process (evidenceItemId : Uuid)
  | deactivate (eventCandidateId evidenceItemId : Uuid) (removedAt : Int)
  | regroup (evidenceItemId fromCandidateId toCandidateId : Uuid) (removedAt : Int)
deriving DecidableEq

/-- The transaction of a call. -/
def Job.program (normalizer : Normalizer) : Job → Procedure (Option EventCandidateOutcome)
  | .process evidence =>
      inTransaction (some <$> EventCandidateService.process normalizer evidence)
  | .deactivate candidate evidence removedAt =>
      inTransaction ((fun _ => none) <$>
        EventCandidateService.deactivateAssociation candidate evidence removedAt)
  | .regroup evidence source target removedAt =>
      inTransaction (some <$>
        EventCandidateService.regroupAssociation normalizer evidence source target removedAt)

/-- **The calls as a system.** A call that is lost is rolled back. -/
def transactions (normalizer : Normalizer) :
    System statements (Result (Option EventCandidateOutcome)) Store Choice Job Empty where
  program job := job.program normalizer
  accept store _ := some store
  exec := exec
  crash store who := store.written who .empty
  env _ action := nomatch action

end NewsCollect.EventIntelligence
