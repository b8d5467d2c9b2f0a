/-
**The aggregates of the candidates.**

Every change of the associations is followed by a recount of the candidate whose association it is, and
of no other one: after each call, every candidate has the aggregates of its active associations.

* `Aggregated`: the aggregates that a candidate should have.
* `aggregated_recounted`: a recount gives them.
* `aggregates_recomputed`: after any calls, one after another.
-/

import Mathlib.Data.Finset.Card
import NewsCollect.Proof.Associations
import NewsCollect.Proof.SerialCalls

namespace NewsCollect.EventIntelligence

open Collection (Uuid Supply)

/-! ### What is recounted -/

/-- The active associations of a candidate. -/
def Tables.activeLinks (tables : Tables) (candidateId : Uuid) : List EventCandidateEvidence :=
  tables.links.filter fun link => link.eventCandidateId == candidateId && link.active

/-- The source of an evidence item. -/
def sourceOf (evidence : List EvidenceRow) (evidenceItemId : Uuid) : Option Uuid :=
  (evidence.find? fun row => row.projection.evidenceItemId = evidenceItemId).map (·.sourceId)

/-- The sources of the active evidence of a candidate, each once. -/
def Tables.sources (tables : Tables) (evidence : List EvidenceRow) (candidateId : Uuid) : Finset Uuid :=
  ((tables.activeLinks candidateId).filterMap fun link =>
    sourceOf evidence link.evidenceItemId).toFinset

/-- **A candidate has the aggregates of its active associations.** -/
structure Aggregated (evidence : List EvidenceRow) (tables : Tables) (candidate : EventCandidate) :
    Prop where
  evidenceCount : candidate.evidenceCount = (tables.activeLinks candidate.id).length
  sourceCount : candidate.sourceCount = (tables.sources evidence candidate.id).card
  status : candidate.status = .rejected ↔ candidate.evidenceCount = 0
  confidence : 0 ≤ candidate.confidence ∧ candidate.confidence ≤ 1
  importanceScore : 0 ≤ candidate.importanceScore ∧ candidate.importanceScore ≤ 100

/-- **What holds between two calls.** -/
structure Weighed (evidence : List EvidenceRow) (tables : Tables) : Prop where
  known : ∀ link ∈ tables.links,
    (evidence.find? fun row => row.projection.evidenceItemId = link.evidenceItemId).isSome
  aggregated : ∀ candidate ∈ tables.candidates, Aggregated evidence tables candidate

section Changes

variable {evidence : List EvidenceRow} {tables : Tables} {candidate : EventCandidate}

/-- Every active association is weighed. -/
theorem length_activeEvidence (known : ∀ link ∈ tables.links,
      (evidence.find? fun row => row.projection.evidenceItemId = link.evidenceItemId).isSome)
    (id : Uuid) : (tables.activeEvidence evidence id).length = (tables.activeLinks id).length := by
  refine List.filterMap_length_eq_length.2 fun link member => ?_
  rw [Option.isSome_map]
  exact known link (List.mem_of_mem_filter member)

theorem activeEvidence_sources (id : Uuid) :
    ((tables.activeEvidence evidence id).map (·.sourceId)).dedup.length =
      (tables.sources evidence id).card := by
  have same : (tables.activeEvidence evidence id).map (·.sourceId) =
      (tables.activeLinks id).filterMap fun link => sourceOf evidence link.evidenceItemId := by
    rw [Tables.activeEvidence, List.map_filterMap]
    refine List.filterMap_congr fun link _ => ?_
    rw [Option.map_map]
    rfl
  rw [same, Tables.sources, List.card_toFinset]

/-- **A recount gives the aggregates.** -/
theorem aggregated_recounted (known : ∀ link ∈ tables.links,
      (evidence.find? fun row => row.projection.evidenceItemId = link.evidenceItemId).isSome)
    (sourcePriority : Option Int) : Aggregated evidence tables
      (candidate.recounted (tables.activeEvidence evidence candidate.id) sourcePriority) where
  evidenceCount := length_activeEvidence known candidate.id
  sourceCount := activeEvidence_sources candidate.id
  status := by
    show (if _ then _ else if _ then _ else _) = EventCandidateStatus.rejected ↔ List.length _ = 0
    split
    · next empty => exact ⟨fun _ => empty, fun _ => rfl⟩
    · next counted =>
      split
      · exact ⟨(fun same => nomatch same), fun empty => absurd empty counted⟩
      · next other => exact ⟨fun same => absurd same other, fun empty => absurd empty counted⟩
  confidence := confidenceOf_bounds ..
  importanceScore := ImportanceInput.score_bounds _

/-- The associations of another candidate are the same. -/
theorem Aggregated.of_links {tables' : Tables} (aggregated : Aggregated evidence tables candidate)
    (same : tables'.activeLinks candidate.id = tables.activeLinks candidate.id) :
    Aggregated evidence tables' candidate := by
  refine ⟨aggregated.evidenceCount.trans (same ▸ rfl), ?_, aggregated.status, aggregated.confidence,
    aggregated.importanceScore⟩
  rw [Tables.sources, same]
  exact aggregated.sourceCount

/-- What holds of the other candidates holds of all, once this one is recounted. -/
theorem Weighed.of_recount (known : ∀ link ∈ tables.links,
      (evidence.find? fun row => row.projection.evidenceItemId = link.evidenceItemId).isSome)
    (others : ∀ other ∈ tables.candidates, other.id ≠ candidate.id → Aggregated evidence tables other)
    (sourcePriority : Option Int) : Weighed evidence (tables.recount evidence candidate
      sourcePriority) := by
  refine ⟨known, fun row member => ?_⟩
  obtain ⟨old, inside, rfl⟩ := Table.mem_modify.1 member
  split
  · exact (aggregated_recounted known sourcePriority).of_links rfl
  · next different => exact (others old inside different).of_links rfl

/-- **An association is added.** -/
theorem Weighed.joined {projection : EvidenceProjection} {decision : MatchDecision} {id : Uuid}
    (known : ∀ link ∈ tables.links,
      (evidence.find? fun row => row.projection.evidenceItemId = link.evidenceItemId).isSome)
    (read : projectionOf evidence id = some projection)
    (others : ∀ other ∈ tables.candidates, other.id ≠ candidate.id → Aggregated evidence tables other)
    (linkId : Uuid) : Weighed evidence (tables.joined evidence candidate projection decision linkId) := by
  refine Weighed.of_recount (fun link member => ?_) (fun other member different => ?_) _
  · rcases List.mem_append.1 member with old | added
    · exact known link old
    · obtain rfl := List.mem_singleton.1 added
      obtain ⟨row, held, -⟩ := Option.map_eq_some_iff.1 (projectionOf_id read ▸ read)
      exact Option.isSome_iff_exists.2 ⟨row, held⟩
  · refine (others other member different).of_links ?_
    show List.filter _ (tables.links ++ [_]) = _
    have apart : (candidate.id == other.id) = false := beq_false_of_ne different.symm
    rw [List.filter_append, List.filter_singleton]
    simp [EventCandidateService.newLink, apart, Tables.activeLinks]

/-- An association that is deactivated is none of another candidate. -/
theorem activeLinks_removeLink (distinct : (tables.links.map EventCandidateEvidence.id).Nodup)
    {link : EventCandidateEvidence} (member : link ∈ tables.links) {id : Uuid}
    (different : link.eventCandidateId ≠ id) (removedAt : Int) :
    (tables.removeLink link.id removedAt).activeLinks id = tables.activeLinks id := by
  unfold Tables.activeLinks Tables.removeLink Table.modify
  rw [List.filter_map]
  have foreign : (link.eventCandidateId == id) = false := beq_false_of_ne different
  have chosen : tables.links.filter ((fun link => link.eventCandidateId == id && link.active) ∘
      fun row => if row.id = link.id then { row with active := false, removedAt := some removedAt }
        else row) = tables.links.filter fun link => link.eventCandidateId == id && link.active := by
    refine List.filter_congr fun other inside => ?_
    rw [Function.comp_apply]
    split
    · next same =>
      obtain rfl := (List.inj_on_of_nodup_map distinct) inside member same
      rw [foreign, Bool.false_and, Bool.false_and]
    · rfl
  rw [chosen]
  refine (List.map_congr_left fun other inside => ?_).trans (List.map_id _)
  obtain ⟨present, counted⟩ := List.mem_filter.1 inside
  refine if_neg fun same => ?_
  obtain rfl := (List.inj_on_of_nodup_map distinct) present member same
  rw [foreign, Bool.false_and] at counted
  exact absurd counted Bool.false_ne_true

/-- **An association is removed.** -/
theorem Weighed.parted (weighed : Weighed evidence tables)
    (distinct : (tables.links.map EventCandidateEvidence.id).Nodup) {link : EventCandidateEvidence}
    (member : link ∈ tables.links) (pair : link.eventCandidateId = candidate.id) (removedAt : Int) :
    Weighed evidence (tables.parted evidence candidate link.id removedAt) := by
  refine Weighed.of_recount (fun other inside => ?_) (fun other inside different => ?_) _
  · obtain ⟨held, present, rfl⟩ := Table.mem_modify.1 inside
    split
    · exact weighed.known held present
    · exact weighed.known held present
  · exact (weighed.aggregated other inside).of_links
      (activeLinks_removeLink distinct member (pair ▸ different.symm) removedAt)

variable {normalizer : Normalizer} {job : Job} {after : Tables}

/-- **Every change keeps the aggregates.** -/
theorem Weighed.changes (weighed : Weighed evidence tables)
    (distinct : (tables.links.map EventCandidateEvidence.id).Nodup)
    (changes : Changes normalizer evidence tables job after) : Weighed evidence after := by
  cases changes with
  | unchanged => exact weighed
  | matched read unassociated held new =>
      exact .joined weighed.known read (fun other member _ => weighed.aggregated other member) _
  | created read unassociated founded unfound new =>
      refine @Weighed.joined evidence (tables.addCandidate _) _ _ _ _ weighed.known read
        (fun other member different => ?_) _
      rcases List.mem_append.1 member with old | added
      · exact (weighed.aggregated other old).of_links rfl
      · exact absurd (congrArg EventCandidate.id (List.mem_singleton.1 added)) different
  | parted member active pair held => exact weighed.parted distinct member pair _
  | @regrouped _ _ _ _ _ removedAt different read member active pair =>
      have left := weighed.parted distinct member pair removedAt
      exact .joined left.known read (fun other inside _ => left.aggregated other inside) _

theorem find_joined_ne {projection : EvidenceProjection} {decision : MatchDecision} {linkId id : Uuid}
    (different : id ≠ candidate.id) :
    (tables.joined evidence candidate projection decision linkId).find id = tables.find id :=
  @Table.find_replace_ne _ _ _ EventCandidate.id tables.candidates candidate.id id _
    (fun _ _ => rfl) different

theorem find_parted_ne {linkId id : Uuid} {removedAt : Int} (different : id ≠ candidate.id) :
    (tables.parted evidence candidate linkId removedAt).find id = tables.find id :=
  @Table.find_replace_ne _ _ _ EventCandidate.id tables.candidates candidate.id id _
    (fun _ _ => rfl) different

/-- A regroup changes no other candidate. -/
theorem find_of_regroup {evidenceItemId source target id : Uuid} {removedAt : Int}
    (changes : Changes normalizer evidence tables (.regroup evidenceItemId source target removedAt)
      after) (notSource : id ≠ source) (notTarget : id ≠ target) : after.find id = tables.find id := by
  cases changes with
  | unchanged => rfl
  | regrouped different read member active pair only sourceHeld targetHeld new =>
      exact (find_joined_ne notTarget).trans (find_parted_ne notSource)

end Changes

/-! ### Every run of calls -/

/-- Before the first call. -/
def opened (evidence : List EvidenceRow) (supply : Supply) : Store where
  evidence := evidence
  candidates := []
  links := []
  overlays _ := .empty
  writers := 0
  issued := 0
  supply := supply
  unwritten _ _ := rfl

theorem opened_idle (evidence : List EvidenceRow) (supply : Supply) : Idle (opened evidence supply) :=
  ⟨fun _ => rfl, List.nodup_nil, List.nodup_nil, fun _ member => absurd member List.not_mem_nil,
    fun _ member => absurd member List.not_mem_nil⟩

/-- **The aggregates are those of the active associations**, of every candidate after any calls one
after another; and a regroup changes no other candidate than the two that it names. -/
theorem aggregates_recomputed (normalizer : Normalizer) (evidence : List EvidenceRow)
    (supply : Supply) (jobs : List Job) :
    let store := (opened evidence supply).calls normalizer jobs
    (∀ candidate ∈ store.candidates, Aggregated evidence store.tables candidate) ∧
      ∀ evidenceItemId source target removedAt id, id ≠ source → id ≠ target →
        (store.call normalizer (.regroup evidenceItemId source target removedAt)).tables.find id =
          store.tables.find id := by
  have initially : Weighed evidence (opened evidence supply).tables :=
    ⟨fun _ member => absurd member List.not_mem_nil, fun _ member => absurd member List.not_mem_nil⟩
  obtain ⟨idle, -, weighed⟩ := calls_invariant (opened_idle evidence supply) initially
    (fun _ _ _ distinct changes weighed => weighed.changes distinct changes) jobs
  refine ⟨weighed.aggregated, fun evidenceItemId source target removedAt id notSource notTarget => ?_⟩
  exact find_of_regroup (call_changes idle _).2.2 notSource notTarget

/-- Another filing, which the report is not about. -/
def filedApart : EvidenceProjection :=
  ⟨3, "sec_edgar", some "b", "i", true, some "https://sec.gov/g", none, none, 0, [], [], [], none⟩

def filedRows : List EvidenceRow := [⟨reported, 10⟩, ⟨filed, 11⟩, ⟨filedApart, 11⟩]

/-- The report and both filings are processed; then the first filing is put into the candidate of the
second one, and the report is taken out of its own. -/
def filedJobs : List Job :=
  [.process 1, .process 2, .process 3, .regroup 2 0 3 5, .deactivate 0 1 6]

/-- The filings have one source, and the candidate of the report has lost all its evidence. -/
theorem aggregates_recomputed_filed :
    let store := (opened filedRows collected.supply).calls plain filedJobs
    ∃ report filings, store.candidates = [report, filings] ∧
      (report.evidenceCount, report.sourceCount, report.status) = (0, 0, .rejected) ∧
      (filings.evidenceCount, filings.sourceCount) = (2, 1) ∧
      Aggregated filedRows store.tables report ∧ Aggregated filedRows store.tables filings := by
  intro store
  have ran : (store.candidates.map fun candidate =>
      (candidate.evidenceCount, candidate.sourceCount, candidate.status == .rejected)) =
      [(0, 0, true), (2, 1, false)] := by
    decide +kernel
  obtain ⟨report, rest, both, first, others⟩ := List.map_eq_cons_iff.1 ran
  obtain ⟨filings, rfl, second⟩ := List.map_eq_singleton_iff.1 others
  simp only [Prod.mk.injEq, beq_iff_eq] at first second
  obtain ⟨none, unsourced, rejected⟩ := first
  obtain ⟨two, single, -⟩ := second
  have aggregated := (aggregates_recomputed plain filedRows collected.supply filedJobs).1
  refine ⟨report, filings, both, by rw [none, unsourced, rejected], by rw [two, single],
    aggregated report ?_, aggregated filings ?_⟩
  · show report ∈ store.candidates
    rw [both]
    exact List.mem_cons_self ..
  · show filings ∈ store.candidates
    rw [both]
    exact List.mem_cons_of_mem _ (List.mem_singleton_self _)

end NewsCollect.EventIntelligence
