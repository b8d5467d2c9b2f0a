/-
**What a transaction knows.**

A transaction of the event candidates inserts an association when it has found none, and refreshes the
candidate that it has associated before it is committed. What it refreshes is a row that it has read,
with what it has read of the evidence item.

* `Stage`, `Phase`: how far a transaction has come.
* `protocol`: the statements it may make.
* `discipline`: every call follows the protocol.
-/

import NewsCollect.EventIntelligence.Service

namespace NewsCollect.EventIntelligence

open Interleaving
open Collection (Uuid)

/-! ### Phases -/

/-- How far a transaction has come: it has found no active association of an item, has inserted one,
and has refreshed its candidate. -/
inductive Stage where
  | reading
  | free (evidenceItemId : Uuid)
  | linked (eventCandidateId evidenceItemId : Uuid)
  | refreshed (eventCandidateId evidenceItemId : Uuid)
  | failed
  | concluded
deriving DecidableEq

/-- What is known of a transaction. It is stuck when it has found what a call of `process` names
ambiguous. -/
structure Phase where
  job : Job
  stage : Stage
  projection : Option EvidenceProjection
  loaded : List EventCandidate
  stuck : Bool

/-- The evidence item that a call associates. -/
def Job.item : Job → Option Uuid
  | .process evidence => some evidence
  | .regroup evidence _ _ _ => some evidence
  | .deactivate _ _ _ => none

def Job.processes : Job → Bool
  | .process _ => true
  | _ => false

def ambiguous : PyError := ⟨.valueError, "event_candidate_association_ambiguous"⟩

/-- The columns that an evidence item adds to have not been changed. -/
structure SameCoverage (loaded changed : EventCandidate) : Prop where
  signatures : changed.identitySignatures = loaded.identitySignatures
  fingerprints : changed.titleFingerprints = loaded.titleFingerprints
  entities : changed.entities = loaded.entities
  assets : changed.assets = loaded.assets
  topics : changed.topics = loaded.topics
  first : changed.firstSeenAt = loaded.firstSeenAt
  latest : changed.latestSeenAt = loaded.latestSeenAt

section Protocol

variable (normalizer : Normalizer)

/-- A row has been refreshed with what has been read of the evidence item. -/
def Refreshes (projection : Option EvidenceProjection) (loaded changed : EventCandidate) : Prop :=
  ∃ value decision, projection = some value ∧
    decision.signatures = evidenceSignatures normalizer value ∧
    decision.titleFingerprint = titleFingerprint normalizer value.title ∧
    changed = loaded.refreshed value decision

/-- Nothing has been inserted yet. -/
def Stage.Open (stage : Stage) : Prop := stage = .reading ∨ ∃ evidence, stage = .free evidence

/-- The statements a phase allows, as long as none has failed. -/
def Phase.permits (phase : Phase) : Op → Prop
  | .evidence id => phase.job.item = some id ∧ phase.stage = .reading
  | .activeAssociations id => phase.stage.Open ∧
      (phase.job.item = some id ∨ phase.projection.map (·.evidenceItemId) = some id)
  | .insertCandidate row => ∀ id, (row id).id = id
  | .insertLink row => ∃ candidate ∈ phase.loaded, ∃ value decision, phase.projection = some value ∧
      phase.stage = .free value.evidenceItemId ∧
      row = EventCandidateService.newLink candidate value decision
  | .deactivate _ _ => phase.stage = .reading
  | .update loaded changed => loaded ∈ phase.loaded ∧ changed.id = loaded.id ∧
      (SameCoverage loaded changed ∨ Refreshes normalizer phase.projection loaded changed) ∧
      ∀ candidate evidence, phase.stage = .linked candidate evidence →
        candidate = loaded.id ∧ Refreshes normalizer phase.projection loaded changed
  | .commit => ∀ candidate evidence, phase.stage ≠ .linked candidate evidence
  | _ => True

/-- The statements a phase allows. -/
def Phase.allowed (phase : Phase) (op : Op) : Prop :=
  phase.stage ≠ .concluded ∧ (phase.stage = .failed → op = .rollback) ∧ phase.permits normalizer op

/-- What has been found of the associations of an item. -/
def Phase.found (phase : Phase) (evidence : Uuid) (links : List EventCandidateEvidence) : Phase :=
  { phase with
    stage := if links.isEmpty then .free evidence else .reading
    stuck := phase.stuck || phase.job.processes &&
      (1 < links.length || phase.stage ≠ .reading && !links.isEmpty) }

/-- The phase an answer leads to. -/
def Phase.answered (phase : Phase) : (op : Op) → Answer op → Phase
  | .evidence _, value => { phase with projection := value }
  | .activeAssociations evidence, links => phase.found evidence links
  | .candidate _, row => { phase with loaded := row.toList ++ phase.loaded }
  | .byClusterKey _, row => { phase with loaded := row.toList ++ phase.loaded }
  | .insertCandidate _, row => { phase with loaded := row.toList ++ phase.loaded }
  | .insertLink row, _ =>
      { phase with stage := .linked (row 0).eventCandidateId (row 0).evidenceItemId }
  | .update _ changed, _ =>
      { phase with
        loaded := changed :: phase.loaded
        stage :=
          match phase.stage with
          | .linked candidate evidence => .refreshed candidate evidence
          | stage => stage }
  | .commit, _ => { phase with stage := .concluded }
  | .rollback, _ => { phase with stage := .concluded }
  | _, _ => phase

/-- The phase an exception leads to. -/
def Phase.raised (phase : Phase) (op : Op) (raised : PyError) : Phase :=
  { phase with
    stage :=
      match op with
      | .commit | .rollback => .concluded
      | _ => .failed
    stuck := phase.stuck || phase.job.processes && raised = ambiguous }

/-- The phase a reply leads to. -/
def Phase.next (phase : Phase) (op : Op) : Result (Answer op) → Phase
  | .ok value => phase.answered op value
  | .error raised => phase.raised op raised

/-- **The protocol of a transaction.** -/
def protocol : Protocol statements Phase where
  allowed phase op := phase.allowed normalizer op
  next phase op reply := phase.next op reply

end Protocol

/-! ### The calls follow it -/

/-- A call has raised: its transaction is not over, and it is stuck if it is a call of `process` that
names something ambiguous. -/
structure Phase.Fails (job : Job) (phase : Phase) (raised : PyError) : Prop where
  same : phase.job = job
  going : phase.stage ≠ .concluded
  names : job.processes = true → raised = ambiguous → phase.stuck = true

section Follows

variable {normalizer : Normalizer} {phase : Phase} {job : Job} {value : EvidenceProjection}
  {decision : MatchDecision} {candidate : EventCandidate}

theorem raised_fails (op : Op) {raised : PyError} (same : phase.job = job)
    (inside : op ≠ .commit ∧ op ≠ .rollback) : (phase.raised op raised).Fails job raised := by
  refine ⟨same, ?_, fun processes named => ?_⟩
  · unfold Phase.raised
    dsimp only
    split
    · exact absurd rfl inside.1
    · exact absurd rfl inside.2
    · exact nofun
  · unfold Phase.raised
    rw [same, processes, named]
    simp

/-- An exception of another kind leaves a transaction as it is. -/
theorem fails_other {raised : PyError} (same : phase.job = job) (going : phase.stage ≠ .concluded)
    (different : raised ≠ ambiguous) : phase.Fails job raised :=
  ⟨same, going, fun _ named => absurd named different⟩

/-- What a call has read and loaded, in a stage. -/
structure Phase.Holds (job : Job) (value : EvidenceProjection) (candidate : EventCandidate)
    (phase : Phase) : Prop where
  same : phase.job = job
  read : phase.projection = some value
  loaded : candidate ∈ phase.loaded

/-- The decision is about what has been read. -/
structure Decides (normalizer : Normalizer) (value : EvidenceProjection) (decision : MatchDecision) :
    Prop where
  signatures : decision.signatures = evidenceSignatures normalizer value
  fingerprint : decision.titleFingerprint = titleFingerprint normalizer value.title

/-- The transaction may be committed. -/
def Phase.Ready (job : Job) (phase : Phase) : Prop :=
  phase.job = job ∧ phase.stage ≠ .concluded ∧ phase.stage ≠ .failed ∧
    ∀ candidate evidence, phase.stage ≠ .linked candidate evidence

/-- One statement in a transaction that has not failed. -/
theorem ask_follows {op : Op} {β : Type} {next : Answer op → Procedure β}
    {post : Phase → Result β → Prop} (same : phase.job = job)
    (going : phase.stage ≠ .concluded ∧ phase.stage ≠ .failed)
    (permits : phase.permits normalizer op)
    (inside : op ≠ .commit ∧ op ≠ .rollback)
    (fails : ∀ phase raised, phase.Fails job raised → post phase (.error raised))
    (answered : ∀ value, (protocol normalizer).FollowsE (phase.answered op value) (next value) post) :
    (protocol normalizer).FollowsE phase (ask op >>= next) post :=
  Protocol.followsE_request_bind ⟨going.1, fun failed => absurd failed going.2, permits⟩ answered
    fun _ => fails _ _ (raised_fails op same inside)

/-- The counts of a candidate that has been loaded. -/
theorem recalculateAggregates_follows {sourcePriority : Option Int} (same : phase.job = job)
    (loaded : candidate ∈ phase.loaded)
    (going : phase.stage ≠ .concluded ∧ phase.stage ≠ .failed)
    (unlinked : ∀ candidate evidence, phase.stage ≠ .linked candidate evidence) :
    (protocol normalizer).FollowsE phase
      (EventCandidateService.recalculateAggregates candidate sourcePriority) fun phase' outcome =>
        match outcome with
        | .ok _ => phase'.job = job ∧ phase'.stage = phase.stage ∧
            phase'.projection = phase.projection ∧ ∀ row ∈ phase.loaded, row ∈ phase'.loaded
        | .error raised => phase'.Fails job raised := by
  refine ask_follows same going trivial ⟨nofun, nofun⟩ (fun _ _ fails => fails) fun active => ?_
  have kept : ∀ candidate' evidence, phase.stage = .linked candidate' evidence →
      candidate' = candidate.id ∧ Refreshes normalizer phase.projection candidate
        (candidate.recounted active sourcePriority) := fun _ _ stage => absurd stage (unlinked _ _)
  refine Protocol.followsE_request ⟨going.1, fun failed => absurd failed going.2, loaded, rfl,
    .inl ⟨rfl, rfl, rfl, rfl, rfl, rfl, rfl⟩, kept⟩ ?_
  rintro (raised | _)
  · exact raised_fails (.update candidate (candidate.recounted active sourcePriority)) same
      ⟨nofun, nofun⟩
  · refine ⟨same, ?_, rfl, fun row member => List.mem_cons_of_mem _ member⟩
    show (match phase.stage with
      | .linked candidate evidence => Stage.refreshed candidate evidence
      | stage => stage) = phase.stage
    split
    · next stage => exact absurd stage (unlinked _ _)
    · rfl

/-- A refresh of a candidate that has been loaded, and associated if anything has. -/
theorem refreshCandidate_follows (holds : phase.Holds job value candidate)
    (decides : Decides normalizer value decision)
    (going : phase.stage ≠ .concluded ∧ phase.stage ≠ .failed)
    (linked : ∀ candidate' evidence, phase.stage = .linked candidate' evidence →
      candidate' = candidate.id) :
    (protocol normalizer).FollowsE phase
      (EventCandidateService.refreshCandidate candidate value decision) fun phase' outcome =>
        match outcome with
        | .ok _ => phase'.Ready job
        | .error raised => phase'.Fails job raised := by
  have refreshes : Refreshes normalizer phase.projection candidate
      (candidate.refreshed value decision) :=
    ⟨value, decision, holds.read, decides.signatures, decides.fingerprint, rfl⟩
  refine ask_follows holds.same going ⟨holds.loaded, rfl, .inr refreshes, fun other evidence stage =>
    ⟨linked other evidence stage, refreshes⟩⟩ ⟨nofun, nofun⟩ (fun _ _ fails => fails) fun _ => ?_
  have after : (match phase.stage with
      | .linked candidate evidence => Stage.refreshed candidate evidence
      | stage => stage) ≠ .concluded ∧ (match phase.stage with
      | .linked candidate evidence => Stage.refreshed candidate evidence
      | stage => stage) ≠ .failed ∧ ∀ candidate evidence, (match phase.stage with
      | .linked candidate evidence => Stage.refreshed candidate evidence
      | stage => stage) ≠ .linked candidate evidence := by
    split
    · exact ⟨nofun, nofun, nofun⟩
    · next other => exact ⟨going.1, going.2, other⟩
  refine Protocol.followsE_mono (recalculateAggregates_follows holds.same List.mem_cons_self
    ⟨after.1, after.2.1⟩ after.2.2) ?_
  rintro phase' (raised | _) kept
  · exact kept
  · obtain ⟨same, stage, -, -⟩ := kept
    exact ⟨same, stage ▸ after.1, stage ▸ after.2.1, stage ▸ after.2.2⟩

/-- An association of a candidate that has been loaded. -/
theorem associate_follows (holds : phase.Holds job value candidate)
    (stage : (∃ evidence, phase.stage = .free evidence) ∨
      phase.stage = .reading ∧ job.processes = false) :
    (protocol normalizer).FollowsE phase (EventCandidateService.associate candidate value decision)
      fun phase' outcome =>
        match outcome with
        | .ok _ => phase'.Holds job value candidate ∧ (phase'.stage = .reading ∨
            phase'.stage = .linked candidate.id value.evidenceItemId)
        | .error raised => phase'.Fails job raised := by
  have going : phase.stage ≠ .concluded ∧ phase.stage ≠ .failed := by
    rcases stage with ⟨evidence, stage⟩ | ⟨stage, -⟩
    · rw [stage]
      exact ⟨nofun, nofun⟩
    · rw [stage]
      exact ⟨nofun, nofun⟩
  have opens : phase.stage.Open := by
    rcases stage with free | ⟨reading, -⟩
    · exact .inr free
    · exact .inl reading
  refine ask_follows holds.same going ⟨opens, .inr (by rw [holds.read]; rfl)⟩ ⟨nofun, nofun⟩
    (fun _ _ fails => fails) fun links => ?_
  dsimp only
  split
  · next named =>
    refine Protocol.followsE_throw ⟨holds.same, ?_, fun processes _ => ?_⟩
    · show (if links.isEmpty then Stage.free value.evidenceItemId else .reading) ≠ .concluded
      split
      · exact nofun
      · exact nofun
    · have free : decide (phase.stage ≠ .reading) = true := by
        rcases stage with ⟨evidence, stage⟩ | ⟨-, other⟩
        · rw [stage]
          rfl
        · rw [other] at processes
          exact absurd processes Bool.false_ne_true
      show (phase.stuck || phase.job.processes && (decide (1 < links.length) ||
        decide (phase.stage ≠ .reading) && !links.isEmpty)) = true
      rw [holds.same, processes, free, Bool.true_and, Bool.true_and]
      simp only [Bool.or_eq_true, Bool.and_eq_true, decide_eq_true_eq] at named ⊢
      rcases named with many | ⟨some, -⟩
      · exact .inr (.inl many)
      · exact .inr (.inr some)
  · next free =>
    split
    · next link rest same =>
      have some : links ≠ [] := by
        rintro rfl
        exact absurd same nofun
      refine Protocol.followsE_pure ⟨⟨holds.same, holds.read, holds.loaded⟩, .inl ?_⟩
      exact if_neg (by simpa using some)
    · next none =>
      have empty : links = [] := by
        by_contra some
        have isEmpty : links.isEmpty = false := by simpa using some
        simp [isEmpty, none] at free
      subst empty
      refine Protocol.followsE_request ⟨nofun, nofun, candidate, holds.loaded, value, decision,
        holds.read, rfl, rfl⟩ ?_
      rintro (raised | _)
      · exact raised_fails (.insertLink (EventCandidateService.newLink candidate value decision))
          holds.same ⟨nofun, nofun⟩
      · exact ⟨⟨holds.same, holds.read, holds.loaded⟩, .inr rfl⟩

/-- A value that has to be there. -/
theorem found_follows {α β : Type} {given : Option α} {message : String} {next : α → Procedure β}
    {post : Phase → Result β → Prop}
    (missing : given = none → post phase (.error ⟨.valueError, message⟩))
    (there : ∀ item, given = some item → (protocol normalizer).FollowsE phase (next item) post) :
    (protocol normalizer).FollowsE phase (found given message >>= next) post := by
  cases given with
  | none => exact Protocol.followsE_bind (Protocol.followsE_compute (missing rfl))
  | some item => exact Protocol.followsE_bind (Protocol.followsE_compute (there item rfl))

/-- The candidate of a decision is loaded. -/
theorem chosenCandidate_follows {evidence : Uuid} (same : phase.job = job)
    (read : phase.projection = some value) (free : phase.stage = .free evidence) :
    (protocol normalizer).FollowsE phase (EventCandidateService.chosenCandidate value decision)
      fun phase' outcome =>
        match outcome with
        | .ok chosen => phase'.Holds job value chosen.1 ∧ phase'.stage = .free evidence
        | .error raised => phase'.Fails job raised := by
  have going : phase.stage ≠ .concluded ∧ phase.stage ≠ .failed := by
    rw [free]
    exact ⟨nofun, nofun⟩
  unfold EventCandidateService.chosenCandidate
  cases decision.candidateId with
  | some id =>
      refine ask_follows same going trivial ⟨nofun, nofun⟩ (fun _ _ fails => fails) fun row => ?_
      refine found_follows (fun _ => fails_other same going.1 (by decide)) fun candidate given => ?_
      subst given
      exact Protocol.followsE_pure ⟨⟨same, read, List.mem_cons_self⟩, free⟩
  | none =>
      refine ask_follows same going (fun _ => rfl) ⟨nofun, nofun⟩ (fun _ _ fails => fails)
        fun row => ?_
      cases row with
      | some candidate =>
          exact Protocol.followsE_pure ⟨⟨same, read, List.mem_cons_self⟩, free⟩
      | none =>
          refine ask_follows same going trivial ⟨nofun, nofun⟩ (fun _ _ fails => fails) fun row => ?_
          cases row with
          | some candidate =>
              exact Protocol.followsE_pure ⟨⟨same, read, List.mem_cons_self⟩, free⟩
          | none => exact Protocol.followsE_throw (fails_other same going.1 (by decide))

/-- How a call ends before its transaction does. -/
def Ends (job : Job) {α : Type} (phase : Phase) : Result α → Prop
  | .ok _ => phase.Ready job
  | .error raised => phase.Fails job raised

/-- The association and the refresh that a decision ends with. -/
theorem settle_follows {β : Type} {last : EventCandidateEvidence → β}
    (holds : phase.Holds job value candidate) (decides : Decides normalizer value decision)
    (stage : (∃ evidence, phase.stage = .free evidence) ∨
      phase.stage = .reading ∧ job.processes = false) :
    (protocol normalizer).FollowsE phase (do
      let link ← EventCandidateService.associate candidate value decision
      EventCandidateService.refreshCandidate candidate value decision
      pure (last link)) (Ends job) := by
  refine Protocol.followsE_bind (Protocol.followsE_mono (associate_follows holds stage) ?_)
  rintro phase' (raised | link) kept
  · exact kept
  · obtain ⟨holds', stage'⟩ := kept
    have going : phase'.stage ≠ .concluded ∧ phase'.stage ≠ .failed ∧ ∀ candidate' evidence,
        phase'.stage = .linked candidate' evidence → candidate' = candidate.id := by
      rcases stage' with reading | linked
      · rw [reading]
        exact ⟨nofun, nofun, nofun⟩
      · rw [linked]
        exact ⟨nofun, nofun, fun _ _ same => (Stage.linked.inj same).1.symm⟩
    refine Protocol.followsE_bind (Protocol.followsE_mono (refreshCandidate_follows holds' decides
      ⟨going.1, going.2.1⟩ going.2.2) ?_)
    rintro phase'' (raised | _) ends
    · exact ends
    · exact Protocol.followsE_pure ends

theorem process_follows {evidence : Uuid} (same : phase.job = .process evidence)
    (reading : phase.stage = .reading) :
    (protocol normalizer).FollowsE phase (EventCandidateService.process normalizer evidence)
      (Ends (.process evidence)) := by
  have going : phase.stage ≠ .concluded ∧ phase.stage ≠ .failed := by
    rw [reading]
    exact ⟨nofun, nofun⟩
  refine ask_follows same going ⟨by rw [same]; rfl, reading⟩ ⟨nofun, nofun⟩
    (fun _ _ fails => fails) fun given => ?_
  refine found_follows (fun _ => fails_other same going.1 (by decide)) fun value read => ?_
  subst read
  refine ask_follows same going ⟨.inl reading, .inl (by
    show phase.job.item = some evidence
    rw [same]
    rfl)⟩ ⟨nofun, nofun⟩ (fun _ _ fails => fails) fun links => ?_
  dsimp only
  split
  · next many =>
    refine Protocol.followsE_throw ⟨same, ?_, fun _ _ => ?_⟩
    · show (if links.isEmpty then Stage.free evidence else .reading) ≠ .concluded
      split
      · exact nofun
      · exact nofun
    · show (phase.stuck || phase.job.processes && (decide (1 < links.length) ||
        decide (phase.stage ≠ .reading) && !links.isEmpty)) = true
      rw [same, decide_eq_true many]
      exact Bool.or_true _
  · cases links with
    | cons link rest =>
        refine ask_follows same ⟨nofun, nofun⟩ trivial ⟨nofun, nofun⟩ (fun _ _ fails => fails)
          fun row => ?_
        refine found_follows (fun _ => fails_other same nofun (by decide)) fun candidate _ => ?_
        exact Protocol.followsE_pure ⟨same, nofun, nofun, nofun⟩
    | nil =>
        refine ask_follows same ⟨nofun, nofun⟩ trivial ⟨nofun, nofun⟩ (fun _ _ fails => fails)
          fun candidates => ?_
        obtain ⟨signatures, fingerprint⟩ := matchExisting_signatures normalizer value candidates
        refine Protocol.followsE_bind (Protocol.followsE_mono
          (@chosenCandidate_follows normalizer _ _ value _ evidence same rfl rfl) ?_)
        rintro phase' (raised | ⟨candidate, status⟩) kept
        · exact kept
        · exact settle_follows kept.1 ⟨signatures, fingerprint⟩ (.inl ⟨evidence, kept.2⟩)

/-- An association is deactivated by a call that has found it. -/
theorem deactivateAssociation_follows {candidateId evidence : Uuid} {removedAt : Int}
    (same : phase.job = job) (reading : phase.stage = .reading) :
    (protocol normalizer).FollowsE phase
      (EventCandidateService.deactivateAssociation candidateId evidence removedAt)
      fun phase' outcome =>
        match outcome with
        | .ok _ => phase'.job = job ∧ phase'.stage = .reading ∧
            phase'.projection = phase.projection ∧ ∀ row ∈ phase.loaded, row ∈ phase'.loaded
        | .error raised => phase'.stage ≠ .concluded ∧ phase'.job = job ∧
            (job.processes = false → phase'.Fails job raised) := by
  have going : phase.stage ≠ .concluded ∧ phase.stage ≠ .failed := by
    rw [reading]
    exact ⟨nofun, nofun⟩
  refine ask_follows same going trivial ⟨nofun, nofun⟩
    (fun _ _ fails => ⟨fails.going, fails.same, fun _ => fails⟩) fun links => ?_
  have throws : ∀ {phase : Phase} (raised : PyError), phase.stage ≠ .concluded → phase.job = job →
      phase.stage ≠ .concluded ∧ phase.job = job ∧
        (job.processes = false → phase.Fails job raised) :=
    fun raised open' same => ⟨open', same, fun other => ⟨same, open', fun processes _ =>
      absurd (other.symm.trans processes) Bool.false_ne_true⟩⟩
  cases links with
  | nil => exact Protocol.followsE_throw (throws _ going.1 same)
  | cons link rest =>
      dsimp only
      split
      · refine ask_follows same going reading ⟨nofun, nofun⟩
          (fun _ _ fails => ⟨fails.going, fails.same, fun _ => fails⟩) fun _ => ?_
        refine ask_follows same going trivial ⟨nofun, nofun⟩
          (fun _ _ fails => ⟨fails.going, fails.same, fun _ => fails⟩) fun row => ?_
        refine found_follows (fun _ => throws _ going.1 same) fun candidate given => ?_
        subst given
        have unlinked : ∀ candidate evidence, phase.stage ≠ .linked candidate evidence := by
          rw [reading]
          exact nofun
        refine Protocol.followsE_bind (Protocol.followsE_mono (recalculateAggregates_follows same
          List.mem_cons_self going unlinked) ?_)
        rintro phase' (raised | _) kept
        · exact ⟨kept.going, kept.same, fun _ => kept⟩
        · obtain ⟨same', stage, read, loaded⟩ := kept
          exact Protocol.followsE_pure ⟨same', stage.trans reading, read, fun row member =>
            loaded row (List.mem_cons_of_mem _ member)⟩
      · exact Protocol.followsE_throw (throws _ going.1 same)

theorem regroupAssociation_follows {evidence source target : Uuid} {removedAt : Int}
    (same : phase.job = .regroup evidence source target removedAt)
    (reading : phase.stage = .reading) :
    (protocol normalizer).FollowsE phase
      (EventCandidateService.regroupAssociation normalizer evidence source target removedAt)
      (Ends (.regroup evidence source target removedAt)) := by
  have going : phase.stage ≠ .concluded ∧ phase.stage ≠ .failed := by
    rw [reading]
    exact ⟨nofun, nofun⟩
  have fails : ∀ {phase : Phase} (raised : PyError),
      phase.job = .regroup evidence source target removedAt → phase.stage ≠ .concluded →
        phase.Fails (.regroup evidence source target removedAt) raised := fun raised same open' =>
    ⟨same, open', nofun⟩
  unfold EventCandidateService.regroupAssociation
  split
  · exact Protocol.followsE_throw (fails _ same going.1)
  · refine ask_follows same going ⟨by rw [same]; rfl, reading⟩ ⟨nofun, nofun⟩
      (fun _ _ fails => fails) fun given => ?_
    refine found_follows (fun _ => fails _ same going.1) fun value read => ?_
    subst read
    refine ask_follows same going ⟨.inl reading, .inl (by
      show phase.job.item = some evidence
      rw [same]
      rfl)⟩ ⟨nofun, nofun⟩ (fun _ _ fails => fails) fun links => ?_
    split
    · refine Protocol.followsE_throw (fails _ same ?_)
      show (if links.isEmpty then Stage.free evidence else .reading) ≠ .concluded
      split
      · exact nofun
      · exact nofun
    · next one =>
      cases links with
      | nil => exact absurd nofun one
      | cons link rest =>
          refine ask_follows same ⟨nofun, nofun⟩ trivial ⟨nofun, nofun⟩ (fun _ _ fails => fails)
            fun row => ?_
          refine found_follows (fun _ => fails _ same nofun) fun candidate given => ?_
          subst given
          refine Protocol.followsE_bind (Protocol.followsE_mono
            (deactivateAssociation_follows same rfl) ?_)
          rintro phase' (raised | _) kept
          · exact kept.2.2 rfl
          · obtain ⟨same', reading', read, loaded⟩ := kept
            exact settle_follows ⟨same', read, loaded _ List.mem_cons_self⟩ ⟨rfl, rfl⟩
              (.inr ⟨reading', rfl⟩)

/-- A call of `process` that is over has named something ambiguous only if it was stuck. -/
def Finished (phase : Phase) (outcome : Result (Option EventCandidateOutcome)) : Prop :=
  phase.job.processes = true → outcome = .error ambiguous → phase.stuck = true

theorem inTransaction_follows {body : Procedure (Option EventCandidateOutcome)}
    (follows : (protocol normalizer).FollowsE phase body (Ends job)) :
    (protocol normalizer).FollowsE phase (inTransaction body) Finished := by
  have named : ∀ (phase : Phase) (op : Op) (raised : PyError), Finished (phase.raised op raised)
      (.error raised) := by
    intro phase op raised processes same
    obtain rfl := Except.error.inj same
    show (phase.stuck || phase.job.processes && decide (ambiguous = ambiguous)) = true
    rw [show phase.job.processes = true from processes]
    exact Bool.or_true _
  refine Protocol.followsE_bind (Protocol.followsE_attempt (Protocol.followsE_mono follows ?_))
  rintro phase' (raised | value) ends
  · exact Protocol.followsE_request_bind ⟨ends.going, fun _ => rfl, trivial⟩
      (fun _ => Protocol.followsE_throw fun processes same => ends.names (ends.same ▸ processes)
        (Except.error.inj same)) fun raised => named phase' .rollback raised
  · obtain ⟨-, going, sound, unlinked⟩ := ends
    exact Protocol.followsE_request_bind ⟨going, fun failed => absurd failed sound, unlinked⟩
      (fun _ => Protocol.followsE_pure nofun) fun raised => named phase' .commit raised

theorem map_follows {α β : Type} {body : Procedure α} {made : α → β}
    (follows : (protocol normalizer).FollowsE phase body (Ends job)) :
    (protocol normalizer).FollowsE phase (made <$> body) (Ends job) := by
  refine Protocol.followsE_bind (Protocol.followsE_mono follows ?_)
  rintro phase' (raised | value) ends
  · exact ends
  · exact Protocol.followsE_pure ends

end Follows

/-- A transaction that has not begun. -/
def Phase.initial (job : Job) : Phase := ⟨job, .reading, none, [], false⟩

/-- **The discipline of the calls.** -/
def discipline (normalizer : Normalizer) : Discipline (transactions normalizer) Phase where
  toProtocol := protocol normalizer
  initial := Phase.initial
  finished := Finished
  adheres job := by
    cases job with
    | process evidence => exact inTransaction_follows (map_follows (process_follows rfl rfl))
    | regroup evidence source target removedAt =>
        exact inTransaction_follows (map_follows (regroupAssociation_follows rfl rfl))
    | deactivate candidate evidence removedAt =>
        refine @inTransaction_follows normalizer _ (.deactivate candidate evidence removedAt) _
          (map_follows (Protocol.followsE_mono (deactivateAssociation_follows rfl rfl) ?_))
        rintro phase (raised | _) kept
        · exact kept.2.2 rfl
        · obtain ⟨same, reading, -⟩ := kept
          refine ⟨same, ?_, ?_, ?_⟩
          · rw [reading]
            exact nofun
          · rw [reading]
            exact nofun
          · rw [reading]
            exact nofun

end NewsCollect.EventIntelligence
