/-
**Calls one after another.**

A call that nothing interrupts sees the rows change in place: what its transaction has written is what
it reads. It leaves the tables as they were, or with one association less, or one more, and the
candidates of these refreshed.

* `Tables`: the rows of the candidates and of their associations, and what changes them.
* `During`: the database in the middle of a transaction, as the transaction sees it.
* `Changes`: what a call does to the tables.
* `call_changes`: it does no more.
-/

import NewsCollect.EventIntelligence.Service
import NewsCollect.Library.Alone

namespace NewsCollect.EventIntelligence

open Collection (Uuid Supply)
open Interleaving

/-! ### One call after another -/

/-- A statement while nobody else is in a transaction. -/
def perform (store : Store) (op : Op) : Result (Answer op) × Store :=
  (exec store 0 op .proceed).getD (raise .operationalError "", store)

/-- The database after a call. -/
def Store.call (normalizer : Normalizer) (store : Store) (job : Job) : Store :=
  ((job.program normalizer).run.alone perform store).state

/-- **The database after some calls, one after another.** -/
def Store.calls (normalizer : Normalizer) (store : Store) (jobs : List Job) : Store :=
  jobs.foldl (Store.call normalizer) store

/-! ### Tables -/

/-- The rows of the candidates and of their associations. -/
structure Tables where
  candidates : List EventCandidate
  links : List EventCandidateEvidence

namespace Tables

variable (tables : Tables)

/-- The active associations of an evidence item. -/
def activeOf (evidenceItemId : Uuid) : List EventCandidateEvidence :=
  tables.links.filter fun link => link.evidenceItemId == evidenceItemId && link.active

/-- The active associations of a candidate, each with its evidence item. -/
def activeEvidence (evidence : List EvidenceRow) (eventCandidateId : Uuid) : List ActiveEvidence :=
  (tables.links.filter fun link =>
    link.eventCandidateId == eventCandidateId && link.active).filterMap fun link =>
      (evidence.find? fun row => row.projection.evidenceItemId = link.evidenceItemId).map
        fun row => ⟨row.sourceId, row.projection.entityRefs, link.officialSource⟩

def find (id : Uuid) : Option EventCandidate := Table.find EventCandidate.id tables.candidates id

def addCandidate (candidate : EventCandidate) : Tables :=
  { tables with candidates := tables.candidates ++ [candidate] }

def addLink (link : EventCandidateEvidence) : Tables := { tables with links := tables.links ++ [link] }

def removeLink (linkId : Uuid) (removedAt : Int) : Tables :=
  { tables with
    links := Table.modify EventCandidateEvidence.id tables.links linkId
      fun link => { link with active := false, removedAt := some removedAt } }

/-- A candidate is rewritten under its identifier. -/
def replace (candidate : EventCandidate) : Tables :=
  { tables with
    candidates := Table.modify EventCandidate.id tables.candidates candidate.id fun _ => candidate }

/-- The aggregates of a candidate are taken again. -/
def recount (evidence : List EvidenceRow) (candidate : EventCandidate)
    (sourcePriority : Option Int) : Tables :=
  tables.replace (candidate.recounted (tables.activeEvidence evidence candidate.id) sourcePriority)

/-- An evidence item is associated with a candidate. -/
def joined (evidence : List EvidenceRow) (candidate : EventCandidate) (projection : EvidenceProjection)
    (decision : MatchDecision) (linkId : Uuid) : Tables :=
  (tables.addLink (EventCandidateService.newLink candidate projection decision linkId)).recount evidence
    (candidate.refreshed projection decision) projection.sourcePriority

/-- An association is removed from its candidate. -/
def parted (evidence : List EvidenceRow) (candidate : EventCandidate) (linkId : Uuid)
    (removedAt : Int) : Tables :=
  (tables.removeLink linkId removedAt).recount evidence candidate none

/-- No identifier occurs twice, and each has been given. -/
structure Keyed (supply : Supply) (issued : Nat) : Prop where
  candidates : (tables.candidates.map EventCandidate.id).Nodup
  links : (tables.links.map EventCandidateEvidence.id).Nodup
  given : ∀ candidate ∈ tables.candidates, ∃ count < issued, candidate.id = supply.id count
  givenLinks : ∀ link ∈ tables.links, ∃ count < issued, link.id = supply.id count

end Tables

/-- The committed tables. -/
def Store.tables (store : Store) : Tables := ⟨store.candidates, store.links⟩

/-- **Nobody is in a transaction.** -/
structure Idle (store : Store) : Prop where
  quiet : ∀ who, store.overlays who = .empty
  keyed : store.tables.Keyed store.supply store.issued

/-- **In the middle of a transaction** that has started from a database and sees these tables. -/
structure During (base store : Store) (tables : Tables) : Prop where
  evidence : store.evidence = base.evidence
  supply : store.supply = base.supply
  issued : base.issued ≤ store.issued
  committed : store.tables = base.tables
  quiet : ∀ other, other ≠ 0 → store.overlays other = .empty
  candidates : store.candidatesOf 0 = tables.candidates
  links : store.linksOf 0 = tables.links
  updated : ∀ update ∈ (store.overlays 0).updates, ∃ row ∈ tables.candidates, row.id = update.1.id
  removed : ∀ gone ∈ (store.overlays 0).removed,
    ∃ link ∈ tables.links, link.id = gone.1 ∧ link.active = false
  keyed : tables.Keyed store.supply store.issued

section Statements

variable {base store : Store} {tables : Tables}

theorem settle_empty (link : EventCandidateEvidence) : Overlay.empty.settle link = link := rfl

theorem rewrite_empty (row : EventCandidate) : Overlay.empty.rewrite row = row := rfl

/-- A transaction begins with what has been committed. -/
theorem Idle.during (idle : Idle store) : During store store store.tables where
  evidence := rfl
  supply := rfl
  issued := le_rfl
  committed := rfl
  quiet other _ := idle.quiet other
  candidates := by
    rw [Store.candidatesOf, idle.quiet 0]
    exact (List.map_congr_left fun row _ => rewrite_empty row).trans
      ((List.map_id _).trans (List.append_nil _))
  links := by
    rw [Store.linksOf, idle.quiet 0]
    exact (List.map_congr_left fun link _ => settle_empty link).trans
      ((List.map_id _).trans (List.append_nil _))
  updated := by
    rw [idle.quiet 0]
    exact fun _ member => nomatch member
  removed := by
    rw [idle.quiet 0]
    exact fun _ member => nomatch member
  keyed := idle.keyed

/-- A transaction that is committed leaves the tables it sees. -/
theorem During.commits (during : During base store tables) :
    Idle (store.committed 0) ∧ (store.committed 0).tables = tables ∧
      (store.committed 0).evidence = base.evidence := by
  have seen : (store.committed 0).tables = tables := by
    show (⟨store.candidatesOf 0, store.linksOf 0⟩ : Tables) = tables
    rw [during.candidates, during.links]
  refine ⟨⟨fun who => ?_, ?_⟩, seen, during.evidence⟩
  · show (store.written 0 .empty).overlays who = .empty
    by_cases own : who = 0
    · subst own
      exact written_self
    · exact (written_ne own).trans (during.quiet who own)
  · rw [seen]
    exact during.keyed

/-- A transaction that is rolled back leaves the tables it has started from. -/
theorem During.rollsBack (during : During base store tables) (idle : Idle base) :
    Idle (store.written 0 .empty) ∧ (store.written 0 .empty).tables = base.tables ∧
      (store.written 0 .empty).evidence = base.evidence := by
  have kept : (store.written 0 .empty).tables = base.tables := during.committed
  refine ⟨⟨fun who => ?_, ?_⟩, kept, during.evidence⟩
  · by_cases own : who = 0
    · subst own
      exact written_self
    · exact (written_ne own).trans (during.quiet who own)
  · obtain ⟨candidates, links, given, givenLinks⟩ := idle.keyed
    rw [kept]
    show base.tables.Keyed store.supply store.issued
    rw [during.supply]
    exact ⟨candidates, links,
      fun candidate member => (given candidate member).imp fun _ found =>
        ⟨found.1.trans_le during.issued, found.2⟩,
      fun link member => (givenLinks link member).imp fun _ found =>
        ⟨found.1.trans_le during.issued, found.2⟩⟩

/-- Nobody else has written anything. -/
theorem During.elsewhere (during : During base store tables) {wrote : Overlay → Bool}
    (nothing : wrote .empty = false) : store.elsewhere 0 wrote = false := by
  unfold Store.elsewhere
  rw [List.any_eq_false]
  intro other _
  by_cases own : other = 0
  · simp [own]
  · simp [during.quiet other own, nothing]

/-- What a transaction writes, it sees; the rest of the database stays as it is. -/
theorem During.writes (during : During base store tables) {overlay : Overlay} {tables' : Tables}
    {issued : Nat} {store' : Store} (made : store' = { store.written 0 overlay with issued := issued })
    (later : store.issued ≤ issued)
    (candidates : (store.candidates ++ overlay.candidates).map overlay.rewrite = tables'.candidates)
    (links : (store.links ++ overlay.links).map overlay.settle = tables'.links)
    (updated : ∀ update ∈ overlay.updates, ∃ row ∈ tables'.candidates, row.id = update.1.id)
    (removed : ∀ gone ∈ overlay.removed, ∃ link ∈ tables'.links, link.id = gone.1 ∧ link.active = false)
    (keyed : tables'.Keyed store.supply issued) : During base store' tables' := by
  subst made
  have own : (store.written 0 overlay).overlays 0 = overlay := written_self
  refine ⟨during.evidence, during.supply, during.issued.trans later, during.committed,
    fun other different => ?_, ?_, ?_, ?_, ?_, keyed⟩
  · exact (written_ne different).trans (during.quiet other different)
  · show (store.candidates ++ ((store.written 0 overlay).overlays 0).candidates).map
      ((store.written 0 overlay).overlays 0).rewrite = _
    rw [own, candidates]
  · show (store.links ++ ((store.written 0 overlay).overlays 0).links).map
      ((store.written 0 overlay).overlays 0).settle = _
    rw [own, links]
  · show ∀ update ∈ ((store.written 0 overlay).overlays 0).updates, _
    rw [own]
    exact updated
  · show ∀ gone ∈ ((store.written 0 overlay).overlays 0).removed, _
    rw [own]
    exact removed

/-! ### Statements -/

section Reads

variable (during : During base store tables) (id : Uuid)
include during

theorem During.reads_evidence :
    perform store (.evidence id) = (.ok (base.projection id), store) := by
  show (Except.ok (store.projection id), store) = _
  rw [Store.projection, during.evidence, Store.projection]

theorem During.reads_associations :
    perform store (.activeAssociations id) = (.ok (tables.activeOf id), store) := by
  show (Except.ok (store.activeOf 0 id), store) = _
  rw [Store.activeOf, during.links, Tables.activeOf]

theorem During.reads_pair (candidateId : Uuid) : perform store (.activePair candidateId id) =
    (.ok ((tables.activeOf id).filter (·.eventCandidateId == candidateId)), store) := by
  show (Except.ok ((store.activeOf 0 id).filter (·.eventCandidateId == candidateId)), store) = _
  rw [Store.activeOf, during.links, Tables.activeOf]

theorem During.reads_candidates :
    perform store .candidates = (.ok (tables.candidates.map (·.projection)), store) := by
  show (Except.ok ((store.candidatesOf 0).map (·.projection)), store) = _
  rw [during.candidates]

theorem During.reads_candidate : perform store (.candidate id) = (.ok (tables.find id), store) := by
  show (Except.ok (store.candidateOf 0 id), store) = _
  rw [Store.candidateOf, during.candidates, Tables.find]

theorem During.reads_clusterKey (key : String) : perform store (.byClusterKey key) =
    (.ok (tables.candidates.find? (·.clusterKey == key)), store) := by
  show (Except.ok ((store.candidatesOf 0).find? (·.clusterKey == key)), store) = _
  rw [during.candidates]

theorem During.reads_activeEvidence : perform store (.activeEvidence id) =
    (.ok (tables.activeEvidence base.evidence id), store) := by
  show (Except.ok (store.activeEvidence 0 id), store) = _
  rw [Store.activeEvidence, during.links, during.evidence, Tables.activeEvidence]

end Reads

/-- The next identifier has not been given. -/
theorem fresh_ne (supply : Supply) {issued : Nat} {id : Uuid}
    (given : ∃ count < issued, id = supply.id count) : id ≠ supply.id issued := by
  obtain ⟨count, earlier, rfl⟩ := given
  exact fun same => absurd (supply.injective same) (Nat.ne_of_lt earlier)

theorem given_succ {supply : Supply} {issued : Nat} {id : Uuid}
    (given : ∃ count < issued, id = supply.id count) : ∃ count < issued + 1, id = supply.id count :=
  given.imp fun _ found => ⟨Nat.lt_succ_of_lt found.1, found.2⟩

/-- A row that has not been updated is read as it is. -/
theorem rewrite_of_untouched {overlay : Overlay} {row : EventCandidate}
    (untouched : ∀ update ∈ overlay.updates, row.id ≠ update.1.id) : overlay.rewrite row = row := by
  unfold Overlay.rewrite
  generalize overlay.updates = updates at untouched
  induction updates with
  | nil => rfl
  | cons update updates ih =>
      rw [List.foldl_cons, if_neg (untouched update List.mem_cons_self)]
      exact ih fun other member => untouched other (List.mem_cons_of_mem _ member)

/-- An association that has not been deactivated is read as it is. -/
theorem settle_of_untouched {overlay : Overlay} {link : EventCandidateEvidence}
    (untouched : ∀ gone ∈ overlay.removed, link.id ≠ gone.1) : overlay.settle link = link := by
  have absent : overlay.removed.find? (·.1 == link.id) = none :=
    List.find?_eq_none.2 fun gone member same =>
      untouched gone member (beq_iff_eq.1 same).symm
  rw [Overlay.settle, absent]

/-- **A candidate is inserted** under a key that is not taken. -/
theorem During.insertsCandidate (during : During base store tables) {row : Uuid → EventCandidate}
    (named : ∀ id, (row id).id = id) {key : String} (keyed : ∀ id, (row id).clusterKey = key)
    (free : ∀ candidate ∈ tables.candidates, candidate.clusterKey ≠ key) :
    ∃ id store', perform store (.insertCandidate row) = (.ok (some (row id)), store') ∧
      During base store' (tables.addCandidate (row id)) ∧ tables.find id = none := by
  have absent : (store.candidatesOf 0).any (·.clusterKey == (row store.fresh).clusterKey) = false := by
    rw [during.candidates, List.any_eq_false]
    intro candidate member same
    exact free candidate member ((beq_iff_eq.1 same).trans (keyed _))
  have alone : store.elsewhere 0 (fun overlay =>
      overlay.candidates.any (·.clusterKey == (row store.fresh).clusterKey)) = false :=
    during.elsewhere rfl
  have new : ∀ candidate ∈ tables.candidates, candidate.id ≠ store.fresh := fun candidate member =>
    fresh_ne store.supply (during.keyed.given candidate member)
  have unfound : tables.find store.fresh = none := (Table.find_eq_none _).2 new
  refine ⟨store.fresh, (store.written 0 { store.overlays 0 with
    candidates := (store.overlays 0).candidates ++ [row store.fresh] }).give, ?_, ?_, unfound⟩
  · show (store.insertCandidate 0 (row store.fresh)).getD _ = _
    rw [Store.insertCandidate, absent, alone]
    rfl
  · have untouched : ∀ update ∈ (store.overlays 0).updates, (row store.fresh).id ≠ update.1.id := by
      intro update member same
      obtain ⟨candidate, inside, equal⟩ := during.updated update member
      exact new candidate inside (equal.trans (same.symm.trans (named _)))
    refine during.writes rfl (Nat.le_succ _) ?_ during.links (fun update member => ?_)
      during.removed ⟨?_, during.keyed.links, fun candidate member => ?_,
        fun link member => given_succ (during.keyed.givenLinks link member)⟩
    · show (store.candidates ++ ((store.overlays 0).candidates ++ [row store.fresh])).map
        (store.overlays 0).rewrite = tables.candidates ++ [row store.fresh]
      rw [← List.append_assoc, List.map_append, ← during.candidates, List.map_singleton,
        rewrite_of_untouched untouched]
      rfl
    · obtain ⟨candidate, inside, equal⟩ := during.updated update member
      exact ⟨candidate, List.mem_append_left _ inside, equal⟩
    · exact Table.nodup_append _ during.keyed.candidates (by rw [named]; exact unfound)
    · rcases List.mem_append.1 member with old | added
      · exact given_succ (during.keyed.given candidate old)
      · obtain rfl := List.mem_singleton.1 added
        exact ⟨store.issued, Nat.lt_succ_self _, named _⟩

/-- A key that is taken is told. -/
theorem During.refusesCandidate (during : During base store tables) {row : Uuid → EventCandidate}
    {key : String} (keyed : ∀ id, (row id).clusterKey = key)
    (taken : ∃ candidate ∈ tables.candidates, candidate.clusterKey = key) :
    perform store (.insertCandidate row) = (.ok none, store) := by
  obtain ⟨candidate, member, same⟩ := taken
  have present : (store.candidatesOf 0).any (·.clusterKey == (row store.fresh).clusterKey) = true := by
    rw [during.candidates, List.any_eq_true]
    exact ⟨candidate, member, beq_iff_eq.2 (same.trans (keyed _).symm)⟩
  show (store.insertCandidate 0 (row store.fresh)).getD _ = _
  rw [Store.insertCandidate, present]
  rfl

/-- **An association is inserted** if there is no active one of the same pair. -/
theorem During.insertsLink (during : During base store tables) {row : Uuid → EventCandidateEvidence}
    (named : ∀ id, (row id).id = id)
    (free : ∀ id, ∀ link ∈ tables.links, Store.samePair (row id) link = false) :
    ∃ id store', perform store (.insertLink row) = (.ok (row id), store') ∧
      During base store' (tables.addLink (row id)) ∧ ∀ link ∈ tables.links, link.id ≠ id := by
  have none : (store.linksOf 0).filter (Store.samePair (row store.fresh)) = [] := by
    rw [during.links, List.filter_eq_nil_iff]
    exact fun link member => Bool.eq_false_iff.1 (free _ link member)
  have new : ∀ link ∈ tables.links, link.id ≠ store.fresh := fun link member =>
    fresh_ne store.supply (during.keyed.givenLinks link member)
  refine ⟨store.fresh, (store.written 0 { store.overlays 0 with
    links := (store.overlays 0).links ++ [row store.fresh] }).give, ?_, ?_, new⟩
  · show (store.insertLink 0 (row store.fresh)).getD _ = _
    rw [Store.insertLink, none, during.elsewhere rfl]
    rfl
  · have untouched : ∀ gone ∈ (store.overlays 0).removed, (row store.fresh).id ≠ gone.1 := by
      intro gone member same
      obtain ⟨link, inside, equal, -⟩ := during.removed gone member
      exact new link inside (equal.trans (same.symm.trans (named _)))
    have unfound : Table.find EventCandidateEvidence.id tables.links (row store.fresh).id = Option.none :=
      (Table.find_eq_none _).2 (by rw [named]; exact new)
    refine during.writes rfl (Nat.le_succ _) during.candidates ?_ during.updated
      (fun gone member => ?_) ⟨during.keyed.candidates, Table.nodup_append _ during.keyed.links unfound,
        fun candidate member => given_succ (during.keyed.given candidate member), fun link member => ?_⟩
    · show (store.links ++ ((store.overlays 0).links ++ [row store.fresh])).map
        (store.overlays 0).settle = tables.links ++ [row store.fresh]
      rw [← List.append_assoc, List.map_append, ← during.links, List.map_singleton,
        settle_of_untouched untouched]
      rfl
    · obtain ⟨link, inside, same, inactive⟩ := during.removed gone member
      exact ⟨link, List.mem_append_left _ inside, same, inactive⟩
    · rcases List.mem_append.1 member with old | added
      · exact given_succ (during.keyed.givenLinks link old)
      · obtain rfl := List.mem_singleton.1 added
        exact ⟨store.issued, Nat.lt_succ_self _, named _⟩

/-- **An active association is deactivated.** -/
theorem During.removesLink (during : During base store tables) {link : EventCandidateEvidence}
    (member : link ∈ tables.links) (active : link.active = true) (removedAt : Int) :
    ∃ store', perform store (.deactivate link.id removedAt) = (.ok (), store') ∧
      During base store' (tables.removeLink link.id removedAt) := by
  have keeps : ∀ other : EventCandidateEvidence,
      ({ other with active := false, removedAt := some removedAt } : EventCandidateEvidence).id =
        other.id := fun _ => rfl
  have ids := Table.map_key_modify keeps tables.links link.id
  -- nobody deactivates an association twice
  have once : ∀ gone ∈ (store.overlays 0).removed, gone.1 ≠ link.id := by
    intro gone inside same
    obtain ⟨other, present, equal, inactive⟩ := during.removed gone inside
    obtain rfl := (List.inj_on_of_nodup_map during.keyed.links) present member (equal.trans same)
    exact absurd (inactive.symm.trans active) Bool.false_ne_true
  refine ⟨store.written 0 { store.overlays 0 with
    removed := (store.overlays 0).removed ++ [(link.id, removedAt)] }, ?_, ?_⟩
  · show (store.deactivate 0 link.id removedAt).getD _ = _
    rw [Store.deactivate, during.elsewhere rfl]
    rfl
  · refine during.writes rfl le_rfl during.candidates ?_ during.updated (fun gone inside => ?_)
      ⟨during.keyed.candidates, ids ▸ during.keyed.links, during.keyed.given,
        fun other inside => ?_⟩
    · show _ = Table.modify EventCandidateEvidence.id tables.links link.id _
      rw [← during.links, Store.linksOf, Table.modify, List.map_map]
      refine List.map_congr_left fun held _ => ?_
      rw [Function.comp_apply, Overlay.settle_id]
      unfold Overlay.settle
      rw [List.find?_append]
      cases gone : (store.overlays 0).removed.find? (·.1 == held.id) with
      | some earlier =>
          have same : earlier.1 = held.id := by simpa using List.find?_some gone
          rw [if_neg (same ▸ once earlier (List.mem_of_find?_eq_some gone))]
          rfl
      | none =>
          by_cases same : link.id = held.id
          · rw [if_pos same.symm, Option.none_or]
            simp [same]
          · rw [if_neg (Ne.symm same), Option.none_or]
            simp [same]
    · rcases List.mem_append.1 inside with old | added
      · obtain ⟨other, present, same, inactive⟩ := during.removed gone old
        refine ⟨other, ?_, same, inactive⟩
        refine Table.mem_modify.2 ⟨other, present, (if_neg ?_).symm⟩
        rw [same]
        exact once gone old
      · obtain rfl := List.mem_singleton.1 added
        exact ⟨_, Table.mem_modify.2 ⟨link, member, (if_pos rfl).symm⟩, rfl, rfl⟩
    · obtain ⟨other, present, rfl⟩ := Table.mem_modify.1 inside
      split
      · exact during.keyed.givenLinks other present
      · exact during.keyed.givenLinks other present

/-- What a change in memory leaves as it is. -/
structure SameIdentity (loaded changed : EventCandidate) : Prop where
  id : changed.id = loaded.id
  clusterKey : changed.clusterKey = loaded.clusterKey
  anchorType : changed.anchorType = loaded.anchorType
  anchorValueHash : changed.anchorValueHash = loaded.anchorValueHash

theorem recounted_sameIdentity (candidate : EventCandidate) (active : List ActiveEvidence)
    (sourcePriority : Option Int) :
    SameIdentity candidate (candidate.recounted active sourcePriority) := ⟨rfl, rfl, rfl, rfl⟩

theorem refreshed_sameIdentity (candidate : EventCandidate) (projection : EvidenceProjection)
    (decision : MatchDecision) :
    SameIdentity candidate (candidate.refreshed projection decision) := ⟨rfl, rfl, rfl, rfl⟩

theorem column_loaded {α : Type} [DecidableEq α] (loaded changed : α) :
    column loaded changed loaded = changed := by
  unfold column
  split
  · next same => exact same.symm
  · rfl

/-- A row that is still as it has been loaded becomes the changed one. -/
theorem write_loaded {loaded changed : EventCandidate} (same : SameIdentity loaded changed) :
    loaded.write changed loaded = changed := by
  obtain ⟨id, key, kind, hash⟩ := same
  cases changed
  simp only at id key kind hash
  subst id key kind hash
  simp only [EventCandidate.write, column_loaded]

theorem rewrite_append (overlay : Overlay) (loaded changed row : EventCandidate) :
    Overlay.rewrite { overlay with updates := overlay.updates ++ [(loaded, changed)] } row =
      if (overlay.rewrite row).id = loaded.id then loaded.write changed (overlay.rewrite row)
      else overlay.rewrite row := by
  unfold Overlay.rewrite
  rw [List.foldl_append]
  rfl

/-- **A candidate is updated** that is as it has been loaded. -/
theorem During.updates (during : During base store tables) {loaded changed : EventCandidate}
    (found : tables.find loaded.id = some loaded) (same : SameIdentity loaded changed) :
    ∃ store', perform store (.update loaded changed) = (.ok (), store') ∧
      During base store' (tables.replace changed) := by
  have member : loaded ∈ tables.candidates := Table.mem_of_find _ found
  have only : ∀ row ∈ tables.candidates, row.id = loaded.id → row = loaded :=
    fun row inside equal => (List.inj_on_of_nodup_map during.keyed.candidates) inside member equal
  have keeps : ∀ row ∈ tables.candidates, (if row.id = changed.id then changed else row).id = row.id := by
    intro row _
    split
    · next equal => exact equal.symm
    · rfl
  have ids : (tables.replace changed).candidates.map EventCandidate.id =
      tables.candidates.map EventCandidate.id := by
    show (Table.modify _ _ _ _).map _ = _
    rw [Table.modify, List.map_map]
    exact List.map_congr_left keeps
  have keyed : (tables.replace changed).Keyed store.supply store.issued := by
    refine ⟨ids ▸ during.keyed.candidates, during.keyed.links, fun candidate inside => ?_,
      during.keyed.givenLinks⟩
    obtain ⟨row, present, rfl⟩ := Table.mem_modify.1 inside
    rw [keeps row present]
    exact during.keyed.given row present
  have remains : ∀ update ∈ (store.overlays 0).updates,
      ∃ row ∈ (tables.replace changed).candidates, row.id = update.1.id := by
    intro update inside
    obtain ⟨row, present, equal⟩ := during.updated update inside
    exact ⟨_, Table.mem_modify.2 ⟨row, present, rfl⟩, (keeps row present).trans equal⟩
  by_cases unchanged : changed = loaded
  · subst unchanged
    have whole : tables.replace changed = tables := by
      unfold Tables.replace Table.modify
      rw [(List.map_congr_left fun row inside => ?_).trans (List.map_id tables.candidates)]
      split
      · next equal => exact (only row inside equal).symm
      · rfl
    refine ⟨store, ?_, whole.symm ▸ during⟩
    show (store.update 0 changed changed).getD _ = _
    rw [Store.update, if_pos rfl]
    rfl
  · refine ⟨store.written 0 { store.overlays 0 with
      updates := (store.overlays 0).updates ++ [(loaded, changed)] }, ?_, ?_⟩
    · show (store.update 0 loaded changed).getD _ = _
      rw [Store.update, if_neg unchanged, during.elsewhere rfl]
      rfl
    · refine during.writes rfl le_rfl ?_ during.links (fun update inside => ?_) during.removed keyed
      · show (store.candidates ++ (store.overlays 0).candidates).map
          (Overlay.rewrite { store.overlays 0 with
            updates := (store.overlays 0).updates ++ [(loaded, changed)] }) =
          Table.modify EventCandidate.id tables.candidates changed.id fun _ => changed
        rw [← during.candidates, Store.candidatesOf, Table.modify, List.map_map]
        refine List.map_congr_left fun row inside => ?_
        rw [rewrite_append, Function.comp_apply, same.id]
        split
        · next equal =>
          have seen : (store.overlays 0).rewrite row ∈ tables.candidates :=
            during.candidates ▸ List.mem_map_of_mem inside
          rw [only _ seen equal, write_loaded same]
        · rfl
      · rcases List.mem_append.1 inside with old | added
        · exact remains update old
        · obtain rfl := List.mem_singleton.1 added
          exact ⟨_, Table.mem_modify.2 ⟨loaded, member, rfl⟩, keeps loaded member⟩

end Statements

/-! ### Procedures -/

/-- What a program does to the tables that its transaction sees. -/
abbrev Does {α : Type} (base : Store) (program : Procedure α) (tables : Tables)
    (post : Result α → Tables → Prop) : Prop := Achieves perform (During base) program tables post

/-- A value that is returned. -/
def Returns {α : Type} (holds : α → Tables → Prop) : Result α → Tables → Prop
  | .ok value, after => holds value after
  | .error _, _ => True

section Procedures

variable {base : Store} {tables : Tables} {α : Type}

/-- A statement that is answered. -/
theorem does_statement {op : Op} {next : Answer op → Procedure α} {post : Result α → Tables → Prop}
    (performs : ∀ store, During base store tables → ∃ answer store' tables',
      perform store op = (.ok answer, store') ∧ During base store' tables' ∧
        Does base (next answer) tables' post) : Does base (ask op >>= next) tables post := by
  refine achieves_request_bind fun store during => ?_
  obtain ⟨answer, store', tables', performed, during', rest⟩ := performs store during
  rw [performed]
  exact ⟨tables', during', rest⟩

/-- A statement that only reads. -/
theorem does_read {op : Op} {answer : Answer op} {next : Answer op → Procedure α}
    {post : Result α → Tables → Prop}
    (reads : ∀ store, During base store tables → perform store op = (.ok answer, store))
    (rest : Does base (next answer) tables post) : Does base (ask op >>= next) tables post :=
  does_statement fun store during => ⟨answer, store, tables, reads store during, during, rest⟩

/-- A last statement. -/
theorem does_last {op : Op} {post : Result (Answer op) → Tables → Prop}
    (performs : ∀ store, During base store tables → ∃ answer store' tables',
      perform store op = (.ok answer, store') ∧ During base store' tables' ∧
        post (.ok answer) tables') : Does base (ask op) tables post := by
  intro store during
  obtain ⟨answer, store', tables', performed, during', holds⟩ := performs store during
  refine ⟨tables', ?_, ?_⟩
  · show During base (perform store op).2 tables'
    rw [performed]
    exact during'
  · show post (perform store op).1 tables'
    rw [performed]
    exact holds

/-- The value that is there, or an exception. -/
theorem does_found {β : Type} {value : Option α} {message : String} {next : α → Procedure β}
    {holds : β → Tables → Prop}
    (rest : ∀ given, value = some given → Does base (next given) tables (Returns holds)) :
    Does base (found value message >>= next) tables (Returns holds) := by
  refine achieves_bind (achieves_compute ?_)
  cases value with
  | none => trivial
  | some given => exact rest given rfl

/-- What returns comes before the rest. -/
theorem does_bind {β : Type} {program : Procedure α} {next : α → Procedure β}
    {first : α → Tables → Prop} {holds : β → Tables → Prop}
    (does : Does base program tables (Returns first))
    (rest : ∀ value after, first value after → Does base (next value) after (Returns holds)) :
    Does base (program >>= next) tables (Returns holds) := by
  refine achieves_bind (achieves_mono does ?_)
  rintro (raised | value) after held
  · trivial
  · exact rest value after held

theorem find_replace {candidate row : EventCandidate} (held : tables.find candidate.id = some row) :
    (tables.replace candidate).find candidate.id = some candidate :=
  Table.find_replace_same (fun _ _ => rfl) held

theorem replace_replace (first last : EventCandidate) (same : first.id = last.id) :
    (tables.replace first).replace last = tables.replace last := by
  unfold Tables.replace Table.modify
  simp only [List.map_map, same, Tables.mk.injEq, and_true]
  refine List.map_congr_left fun row _ => ?_
  rw [Function.comp_apply]
  by_cases here : row.id = last.id
  · rw [if_pos here, if_pos same, if_pos here]
  · rw [if_neg here, if_neg here]

/-- `_recalculate_aggregates`. -/
theorem recalculateAggregates_does {candidate : EventCandidate} {sourcePriority : Option Int}
    (held : tables.find candidate.id = some candidate) :
    Does base (EventCandidateService.recalculateAggregates candidate sourcePriority) tables
      (Returns fun _ after => after = tables.recount base.evidence candidate sourcePriority) := by
  refine does_read (fun _ during => during.reads_activeEvidence candidate.id)
    (does_last fun store during => ?_)
  obtain ⟨store', performed, during'⟩ := during.updates held (recounted_sameIdentity ..)
  exact ⟨(), store', _, performed, during', rfl⟩

/-- `_refresh_candidate`. -/
theorem refreshCandidate_does {candidate : EventCandidate} {projection : EvidenceProjection}
    {decision : MatchDecision} (held : tables.find candidate.id = some candidate) :
    Does base (EventCandidateService.refreshCandidate candidate projection decision) tables
      (Returns fun _ after => after = tables.recount base.evidence
        (candidate.refreshed projection decision) projection.sourcePriority) := by
  refine does_statement fun store during => ?_
  obtain ⟨store', performed, during'⟩ := during.updates held (refreshed_sameIdentity ..)
  refine ⟨(), store', _, performed, during', achieves_mono (recalculateAggregates_does
    (@find_replace tables (candidate.refreshed projection decision) _ held)) ?_⟩
  rintro (raised | _) after counted
  · trivial
  · exact counted.trans (replace_replace _ _ rfl)

/-- `_associate`, of an evidence item that has no association. -/
theorem associate_does {candidate : EventCandidate} {projection : EvidenceProjection}
    {decision : MatchDecision} (unassociated : tables.activeOf projection.evidenceItemId = []) :
    Does base (EventCandidateService.associate candidate projection decision) tables
      (Returns fun link after => ∃ id, link = EventCandidateService.newLink candidate projection
        decision id ∧ after = tables.addLink link ∧ ∀ other ∈ tables.links, other.id ≠ id) := by
  refine does_read (fun _ during => during.reads_associations projection.evidenceItemId) ?_
  rw [unassociated]
  refine does_last fun store during => ?_
  have free : ∀ id, ∀ link ∈ tables.links, Store.samePair
      (EventCandidateService.newLink candidate projection decision id) link = false := by
    intro id link member
    have inactive := List.filter_eq_nil_iff.1 unassociated link member
    refine Bool.eq_false_iff.2 fun same => inactive ?_
    simp only [Store.samePair, Bool.and_eq_true] at same
    rw [Bool.and_eq_true]
    exact ⟨same.2, same.1.1⟩
  obtain ⟨id, store', performed, during', new⟩ := during.insertsLink (fun _ => rfl) free
  exact ⟨_, store', _, performed, during', id, rfl, rfl, new⟩

variable {normalizer : Normalizer}

/-- `_create_or_get`: there is a new candidate if its key is not taken, and the one that has the key
otherwise. -/
theorem createOrGet_does (projection : EvidenceProjection) (decision : MatchDecision) :
    Does base (EventCandidateService.createOrGet projection decision) tables fun outcome after =>
      (∃ candidate, after = tables ∧ outcome = .ok (candidate, "concurrent_existing") ∧
        tables.find candidate.id = some candidate ∧
          candidate.clusterKey = decision.anchor.clusterKey) ∨
      ∃ id, (∀ candidate ∈ tables.candidates, candidate.clusterKey ≠ decision.anchor.clusterKey) ∧
        tables.find id = none ∧ outcome = .ok (newCandidate projection decision id, "created") ∧
          after = tables.addCandidate (newCandidate projection decision id) := by
  by_cases taken : ∃ candidate ∈ tables.candidates,
      candidate.clusterKey = decision.anchor.clusterKey
  · refine does_read (fun _ during => during.refusesCandidate (fun _ => rfl) taken) ?_
    obtain ⟨candidate, member, same⟩ := taken
    cases held : tables.candidates.find? (·.clusterKey == decision.anchor.clusterKey) with
    | none => exact absurd (beq_iff_eq.2 same) (List.find?_eq_none.1 held candidate member)
    | some existing =>
        refine does_read (fun _ during => during.reads_clusterKey _) ?_
        rw [held]
        intro store during
        have first : tables.find existing.id = some existing :=
          Table.find_of_mem _ during.keyed.candidates (List.mem_of_find?_eq_some held)
        exact ⟨tables, during, .inl ⟨existing, rfl, rfl, first, by simpa using List.find?_some held⟩⟩
  · have free : ∀ candidate ∈ tables.candidates,
        candidate.clusterKey ≠ decision.anchor.clusterKey :=
      fun candidate member same => taken ⟨candidate, member, same⟩
    refine does_statement fun store during => ?_
    obtain ⟨id, store', performed, during', new⟩ :=
      @During.insertsCandidate _ _ _ during (newCandidate projection decision) (fun _ => rfl)
        decision.anchor.clusterKey (fun _ => rfl) free
    exact ⟨_, store', _, performed, during', achieves_pure (.inr ⟨id, free, new, rfl, rfl⟩)⟩

/-! ### Calls -/

/-- What is read of an evidence item. -/
def projectionOf (evidence : List EvidenceRow) (id : Uuid) : Option EvidenceProjection :=
  (evidence.find? fun row => row.projection.evidenceItemId = id).map (·.projection)

theorem projectionOf_id {evidence : List EvidenceRow} {id : Uuid} {projection : EvidenceProjection}
    (read : projectionOf evidence id = some projection) : projection.evidenceItemId = id := by
  obtain ⟨row, held, rfl⟩ := Option.map_eq_some_iff.1 read
  simpa using List.find?_some held

/-- The decision about an evidence item among some candidates. -/
def Tables.decision (tables : Tables) (normalizer : Normalizer) (projection : EvidenceProjection) :
    MatchDecision := matchExisting normalizer projection (tables.candidates.map (·.projection))

/-- **What a call does to the tables.** -/
inductive Changes (normalizer : Normalizer) (evidence : List EvidenceRow) (tables : Tables) :
    Job → Tables → Prop where
  | unchanged (job : Job) : Changes normalizer evidence tables job tables
  | matched {evidenceItemId linkId : Uuid} {projection : EvidenceProjection}
      {candidate : EventCandidate} (read : projectionOf evidence evidenceItemId = some projection)
      (unassociated : tables.activeOf evidenceItemId = [])
      (held : tables.find candidate.id = some candidate)
      (new : ∀ link ∈ tables.links, link.id ≠ linkId) :
      Changes normalizer evidence tables (.process evidenceItemId)
        (tables.joined evidence candidate projection (tables.decision normalizer projection) linkId)
  | created {evidenceItemId candidateId linkId : Uuid} {projection : EvidenceProjection}
      {candidate : EventCandidate} (read : projectionOf evidence evidenceItemId = some projection)
      (unassociated : tables.activeOf evidenceItemId = [])
      (founded : candidate =
        newCandidate projection (tables.decision normalizer projection) candidateId)
      (unfound : tables.find candidateId = none)
      (new : ∀ link ∈ tables.links, link.id ≠ linkId) :
      Changes normalizer evidence tables (.process evidenceItemId)
        ((tables.addCandidate candidate).joined evidence candidate projection
          (tables.decision normalizer projection) linkId)
  | parted {link : EventCandidateEvidence} {candidate : EventCandidate} {removedAt : Int}
      (member : link ∈ tables.links) (active : link.active = true)
      (pair : link.eventCandidateId = candidate.id)
      (held : tables.find candidate.id = some candidate) :
      Changes normalizer evidence tables (.deactivate candidate.id link.evidenceItemId removedAt)
        (tables.parted evidence candidate link.id removedAt)
  | regrouped {link : EventCandidateEvidence} {source target : EventCandidate} {linkId : Uuid}
      {projection : EvidenceProjection} {removedAt : Int} (different : source.id ≠ target.id)
      (read : projectionOf evidence link.evidenceItemId = some projection)
      (member : link ∈ tables.links) (active : link.active = true)
      (pair : link.eventCandidateId = source.id)
      (only : tables.activeOf link.evidenceItemId = [link])
      (sourceHeld : tables.find source.id = some source)
      (targetHeld : tables.find target.id = some target)
      (new : ∀ other ∈ tables.links, other.id ≠ linkId) :
      Changes normalizer evidence tables
        (.regroup link.evidenceItemId source.id target.id removedAt)
        ((tables.parted evidence source link.id removedAt).joined evidence target projection
          (EventCandidateService.reviewedDecision normalizer target projection) linkId)

/-- The candidate of a decision is there, or has just been made. -/
theorem chosenCandidate_does (projection : EvidenceProjection) (decision : MatchDecision) :
    Does base (EventCandidateService.chosenCandidate projection decision) tables
      (Returns fun chosen after =>
        after = tables ∧ tables.find chosen.1.id = some chosen.1 ∨
        ∃ id, tables.find id = none ∧ chosen.1 = newCandidate projection decision id ∧
          after = tables.addCandidate chosen.1) := by
  unfold EventCandidateService.chosenCandidate
  cases decision.candidateId with
  | some id =>
      refine does_read (fun _ during => during.reads_candidate id)
        (does_found fun candidate held => ?_)
      have named : candidate.id = id := Table.key_of_find _ held
      exact achieves_pure (.inl ⟨rfl, named.symm ▸ held⟩)
  | none =>
      refine achieves_mono (createOrGet_does projection decision) ?_
      rintro outcome after (⟨candidate, rfl, rfl, held, -⟩ | ⟨id, -, unfound, rfl, rfl⟩)
      · exact .inl ⟨rfl, held⟩
      · exact .inr ⟨id, unfound, rfl, rfl⟩

/-- The end of a call of `process`. -/
theorem settles_does {candidate : EventCandidate} {projection : EvidenceProjection}
    {decision : MatchDecision} {β : Type} {last : EventCandidateEvidence → β}
    (unassociated : tables.activeOf projection.evidenceItemId = [])
    (held : tables.find candidate.id = some candidate) :
    Does base (do
        let link ← EventCandidateService.associate candidate projection decision
        EventCandidateService.refreshCandidate candidate projection decision
        pure (last link)) tables
      (Returns fun _ after => ∃ id, after = tables.joined base.evidence candidate projection decision
        id ∧ ∀ link ∈ tables.links, link.id ≠ id) := by
  refine does_bind (associate_does unassociated) ?_
  rintro link after ⟨id, rfl, rfl, new⟩
  refine does_bind (refreshCandidate_does held) ?_
  rintro - after rfl
  exact achieves_pure ⟨id, rfl, new⟩

/-- `process`. -/
theorem process_does (evidenceItemId : Uuid) :
    Does base (EventCandidateService.process normalizer evidenceItemId) tables
      (Returns fun _ after =>
        Changes normalizer base.evidence tables (.process evidenceItemId) after) := by
  refine does_read (fun _ during => during.reads_evidence evidenceItemId)
    (does_found fun projection read => ?_)
  refine does_read (fun _ during => during.reads_associations evidenceItemId) ?_
  split
  · exact achieves_throw trivial
  · cases existing : tables.activeOf evidenceItemId with
    | cons link rest =>
        refine does_read (fun _ during => during.reads_candidate link.eventCandidateId)
          (does_found fun candidate held => ?_)
        exact achieves_pure (.unchanged _)
    | nil =>
        refine does_read (fun _ during => during.reads_candidates) ?_
        have unassociated : tables.activeOf projection.evidenceItemId = [] :=
          (projectionOf_id read).symm ▸ existing
        refine achieves_bind (achieves_mono (chosenCandidate_does projection _) ?_)
        rintro (raised | ⟨candidate, status⟩) after chosen
        · trivial
        · rcases chosen with ⟨rfl, held⟩ | ⟨id, unfound, founded, rfl⟩
          · refine achieves_mono (settles_does unassociated held) ?_
            rintro (raised | value) after settled
            · trivial
            · obtain ⟨linkId, rfl, new⟩ := settled
              exact .matched read existing held new
          · have made : candidate = newCandidate projection _ id := founded
            have held : (tables.addCandidate candidate).find candidate.id = some candidate :=
              Table.find_append_fresh (by rw [made]; exact unfound)
            refine achieves_mono (settles_does unassociated held) ?_
            rintro (raised | value) after settled
            · trivial
            · obtain ⟨linkId, rfl, new⟩ := settled
              exact .created read existing founded unfound new

theorem mem_activeOf {evidenceItemId : Uuid} {link : EventCandidateEvidence} :
    link ∈ tables.activeOf evidenceItemId ↔
      link ∈ tables.links ∧ link.evidenceItemId = evidenceItemId ∧ link.active = true := by
  simp [Tables.activeOf]

/-- `deactivate_association`. -/
theorem deactivateAssociation_does (candidateId evidenceItemId : Uuid) (removedAt : Int) :
    Does base (EventCandidateService.deactivateAssociation candidateId evidenceItemId removedAt) tables
      (Returns fun _ after => ∃ link candidate, link ∈ tables.activeOf evidenceItemId ∧
        link.eventCandidateId = candidateId ∧ candidate.id = candidateId ∧
        tables.find candidateId = some candidate ∧
        after = tables.parted base.evidence candidate link.id removedAt) := by
  refine does_read (fun _ during => during.reads_pair evidenceItemId candidateId) ?_
  cases pair : (tables.activeOf evidenceItemId).filter (·.eventCandidateId == candidateId) with
  | nil => exact achieves_throw trivial
  | cons link rest =>
      have chosen : link ∈ (tables.activeOf evidenceItemId).filter
          (·.eventCandidateId == candidateId) := pair ▸ List.mem_cons_self
      obtain ⟨inside, named⟩ := List.mem_filter.1 chosen
      obtain ⟨member, -, active⟩ := mem_activeOf.1 inside
      dsimp only
      split
      · refine does_statement fun store during => ?_
        obtain ⟨store', performed, during'⟩ := during.removesLink member active removedAt
        refine ⟨(), store', _, performed, during', ?_⟩
        refine does_read (fun _ during => during.reads_candidate candidateId)
          (does_found fun candidate held => ?_)
        have id : candidate.id = candidateId := Table.key_of_find _ held
        refine does_bind (recalculateAggregates_does (id.symm ▸ held)) ?_
        rintro - after rfl
        exact achieves_pure ⟨link, candidate, inside, beq_iff_eq.1 named, id, held, rfl⟩
      · exact achieves_throw trivial

/-- An association that was the only one of its evidence item has been removed. -/
theorem activeOf_parted {evidence : List EvidenceRow} {candidate : EventCandidate}
    {link : EventCandidateEvidence} {evidenceItemId : Uuid} {removedAt : Int}
    (only : tables.activeOf evidenceItemId = [link]) :
    (tables.parted evidence candidate link.id removedAt).activeOf evidenceItemId = [] := by
  refine List.filter_eq_nil_iff.2 fun other member active => ?_
  obtain ⟨held, inside, rfl⟩ := Table.mem_modify.1 member
  rw [Bool.and_eq_true, beq_iff_eq] at active
  split at active
  · exact absurd active.2 Bool.false_ne_true
  · next different =>
    have single := mem_activeOf.2 ⟨inside, active⟩
    rw [only] at single
    exact different (congrArg EventCandidateEvidence.id (List.mem_singleton.1 single))

/-- `regroup_association`. -/
theorem regroupAssociation_does (evidenceItemId fromCandidateId toCandidateId : Uuid)
    (removedAt : Int) :
    Does base (EventCandidateService.regroupAssociation normalizer evidenceItemId fromCandidateId
        toCandidateId removedAt) tables
      (Returns fun _ after => Changes normalizer base.evidence tables
        (.regroup evidenceItemId fromCandidateId toCandidateId removedAt) after) := by
  unfold EventCandidateService.regroupAssociation
  split
  · exact achieves_throw trivial
  · next different =>
    refine does_read (fun _ during => during.reads_evidence evidenceItemId)
      (does_found fun projection read => ?_)
    refine does_read (fun _ during => during.reads_associations evidenceItemId) ?_
    split
    · exact achieves_throw trivial
    · next single =>
      obtain ⟨link, only, pair⟩ := List.map_eq_singleton_iff.1 (not_not.1 single)
      obtain ⟨member, rfl, active⟩ := mem_activeOf.1 (only ▸ List.mem_singleton_self link)
      refine does_read (fun _ during => during.reads_candidate toCandidateId)
        (does_found fun target targetHeld => ?_)
      refine does_bind (deactivateAssociation_does fromCandidateId link.evidenceItemId removedAt) ?_
      rintro - after ⟨other, source, inside, -, id, sourceHeld, rfl⟩
      rw [only] at inside
      obtain rfl := List.mem_singleton.1 inside
      subst id
      have named : target.id = toCandidateId := Table.key_of_find _ targetHeld
      subst named
      have unassociated := @activeOf_parted tables base.evidence source other _ removedAt only
      rw [← projectionOf_id read] at unassociated
      have held : (tables.parted base.evidence source other.id removedAt).find target.id =
          some target := by
        refine (Table.find_replace_ne (fun _ _ => rfl) ?_).trans targetHeld
        exact fun same => different same.symm
      refine achieves_mono (settles_does unassociated held) ?_
      rintro (raised | value) after settled
      · trivial
      · obtain ⟨linkId, rfl, new⟩ := settled
        refine .regrouped different read member active pair only sourceHeld targetHeld
          fun held inside => ?_
        have kept := new _ (Table.mem_modify.2 ⟨held, inside, rfl⟩)
        split at kept
        · exact kept
        · exact kept

end Procedures

/-! ### Runs of calls -/

section Calls

variable {normalizer : Normalizer} {store : Store}

/-- The end of a transaction. -/
def ending {α : Type} : Result α → Procedure α
  | .ok value => do
      let _ ← ask .commit
      pure value
  | .error raised => do
      let _ ← ask .rollback
      throw raised

theorem inTransaction_eq {α : Type} (body : Procedure α) :
    inTransaction body = attempt body >>= ending :=
  congrArg (attempt body >>= ·) (funext fun outcome => by
    cases outcome with
    | ok value => rfl
    | error raised => rfl)

/-- What a body does is committed when it returns, and nothing of it otherwise. -/
theorem inTransaction_alone (idle : Idle store) {body : Procedure (Option EventCandidateOutcome)}
    {holds : Tables → Prop} (does : Does store body store.tables (Returns fun _ => holds))
    (unchanged : holds store.tables) {last : Store}
    (ends : ((inTransaction body).run.alone perform store).state = last) :
    Idle last ∧ last.evidence = store.evidence ∧ holds last.tables := by
  obtain ⟨after, during, held⟩ := does store idle.during
  have attempted := @alone_attempt statements _ _ perform _ body store
  have course := congrArg Course.state (@alone_bindE statements _ _ _ perform _ _ ending store _
    (congrArg Course.outcome attempted))
  rw [Course.after_state, attempted] at course
  rw [inTransaction_eq] at ends
  replace ends := course.symm.trans ends
  cases outcome : (body.run.alone perform store).outcome with
  | ok value =>
      rw [outcome] at held ends
      obtain ⟨quiet, seen, same⟩ := during.commits
      obtain rfl : (body.run.alone perform store).state.committed 0 = last := ends
      exact ⟨quiet, same, seen ▸ held⟩
  | error raised =>
      rw [outcome] at ends
      obtain ⟨quiet, seen, same⟩ := during.rollsBack idle
      obtain rfl : (body.run.alone perform store).state.written 0 .empty = last := ends
      exact ⟨quiet, same, seen ▸ unchanged⟩

theorem map_does {α β : Type} {body : Procedure α} {made : α → β} {tables : Tables}
    {holds : Tables → Prop} (does : Does store body tables (Returns fun _ => holds)) :
    Does store (made <$> body) tables (Returns fun _ => holds) :=
  does_bind does fun _ _ held => achieves_pure held

/-- **A call changes the tables as it should**, and leaves nobody in a transaction. -/
theorem call_changes (idle : Idle store) (job : Job) :
    Idle (store.call normalizer job) ∧ (store.call normalizer job).evidence = store.evidence ∧
      Changes normalizer store.evidence store.tables job (store.call normalizer job).tables := by
  cases job with
  | process evidenceItemId =>
      exact inTransaction_alone idle (map_does (process_does evidenceItemId)) (.unchanged _) rfl
  | regroup evidenceItemId source target removedAt =>
      exact inTransaction_alone idle
        (map_does (regroupAssociation_does evidenceItemId source target removedAt)) (.unchanged _) rfl
  | deactivate candidateId evidenceItemId removedAt =>
      refine inTransaction_alone idle (map_does (achieves_mono
        (deactivateAssociation_does candidateId evidenceItemId removedAt) ?_)) (.unchanged _) rfl
      rintro (raised | _) after parted
      · trivial
      · obtain ⟨link, candidate, inside, pair, rfl, held, rfl⟩ := parted
        obtain ⟨member, rfl, active⟩ := mem_activeOf.1 inside
        exact .parted member active pair held

/-- **The rule for calls one after another**: what every change keeps holds after all of them. -/
theorem calls_invariant {holds : Tables → Prop} (idle : Idle store) (initially : holds store.tables)
    (kept : ∀ tables job after, (tables.links.map EventCandidateEvidence.id).Nodup →
      Changes normalizer store.evidence tables job after → holds tables → holds after)
    (jobs : List Job) : Idle (store.calls normalizer jobs) ∧
      (store.calls normalizer jobs).evidence = store.evidence ∧
      holds (store.calls normalizer jobs).tables := by
  induction jobs generalizing store with
  | nil => exact ⟨idle, rfl, initially⟩
  | cons job jobs ih =>
      obtain ⟨idle', same, changes⟩ := @call_changes normalizer _ idle job
      have held := kept _ _ _ idle.keyed.links changes initially
      rw [← same] at kept
      obtain ⟨last, same', holds⟩ := ih idle' held kept
      exact ⟨last, same'.trans same, holds⟩

end Calls

end NewsCollect.EventIntelligence
