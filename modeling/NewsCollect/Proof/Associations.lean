/-
**An evidence item belongs to one event.**

The database knows of pairs only, and the rule for an item rests on what a transaction has read. It
holds as long as no two transactions in progress have found the same item without an association.

* `Single`: no item has two active associations.
* `Apart`: a transaction finds an item without one when nobody else in progress has.
* `associations_single`: then there is one association at most, and no call of `process` is stuck.
* `associated_twice`: two calls that find the same item without an association.
-/

import NewsCollect.Proof.CandidatePhases

namespace NewsCollect.EventIntelligence

open Interleaving
open Collection (Uuid)

/-- An active association of an item. -/
def activeFor (evidenceItemId : Uuid) (link : EventCandidateEvidence) : Bool :=
  link.evidenceItemId == evidenceItemId && link.active

/-- **No item has two active associations.** -/
def Single (links : List EventCandidateEvidence) : Prop :=
  ∀ evidenceItemId, links.countP (activeFor evidenceItemId) ≤ 1

/-! ### Deactivated associations -/

namespace Overlay

variable {overlay other : Overlay} {link : EventCandidateEvidence}

/-- What is active has not been deactivated. -/
theorem settle_active : (overlay.settle link).active = true ↔
    link.active = true ∧ overlay.removed.find? (·.1 == link.id) = none := by
  unfold settle
  cases overlay.removed.find? (·.1 == link.id) with
  | some removed => simp
  | none => simp

/-- What another transaction has done does not make an association active. -/
theorem settle_settle (active : (overlay.settle (other.settle link)).active = true) :
    (overlay.settle link).active = true := by
  obtain ⟨before, absent⟩ := settle_active.1 active
  rw [settle_id] at absent
  exact settle_active.2 ⟨(settle_active.1 before).1, absent⟩

theorem activeFor_settle {evidence : Uuid} (active : activeFor evidence (overlay.settle link) = true) :
    activeFor evidence link = true := by
  unfold activeFor at active ⊢
  rw [Bool.and_eq_true, settle_evidenceItemId] at active
  rw [active.1, (settle_active.1 active.2).1]
  rfl

end Overlay

/-! ### What holds of every transaction -/

/-- An item has no active association that this transaction leaves active. -/
def Clear (store : Store) (who : Nat) (evidence : Uuid) : Prop :=
  ∀ link ∈ store.links, link.evidenceItemId = evidence →
    ((store.overlays who).settle link).active = false

/-- What a transaction has inserted, in a stage. -/
def Inserts (store : Store) (who : Nat) (job : Job) : Stage → Prop
  | .free evidence => job.item = some evidence ∧ (store.overlays who).links = [] ∧
      Clear store who evidence
  | .linked _ evidence => job.item = some evidence ∧ Clear store who evidence ∧
      ∃ link, (store.overlays who).links = [link] ∧ link.evidenceItemId = evidence
  | .refreshed _ evidence => job.item = some evidence ∧ Clear store who evidence ∧
      ∃ link, (store.overlays who).links = [link] ∧ link.evidenceItemId = evidence
  | _ => (store.overlays who).links = []

/-- The item that a transaction has found without an association. -/
def Stage.item : Stage → Option Uuid
  | .free evidence => some evidence
  | .linked _ evidence => some evidence
  | .refreshed _ evidence => some evidence
  | _ => none

/-- **A transaction that is consistent**: it has read the item of its call, is not stuck, and has
inserted what its stage says. -/
structure Consistent (store : Store) (who : Nat) (phase : Phase) : Prop where
  read : ∀ value, phase.projection = some value → phase.job.item = some value.evidenceItemId
  unstuck : phase.stuck = false
  inserts : Inserts store who phase.job phase.stage

/-- A transaction in progress has found an item without an association. -/
def Associates (phases : Nat → Option Phase) (who : Nat) (evidence : Uuid) : Prop :=
  ∃ phase, phases who = some phase ∧ phase.stage.item = some evidence

/-- **The associations are in order.** -/
structure InOrder (store : Store) (phases : Nat → Option Phase) : Prop where
  single : Single store.links
  consistent : ∀ who phase, phases who = some phase → Consistent store who phase
  idle : ∀ who, phases who = none → (store.overlays who).links = []
  alone : ∀ who other evidence, Associates phases who evidence → Associates phases other evidence →
    who = other

section Steps

variable {store store' : Store} {phases : Nat → Option Phase} {who : Nat} {phase phase' : Phase}
  {evidence : Uuid}

theorem Inserts.of_same {job : Job} {stage : Stage} (inserts : Inserts store who job stage)
    (links : (store'.overlays who).links = (store.overlays who).links)
    (clear : ∀ evidence, stage.item = some evidence → Clear store who evidence →
      Clear store' who evidence) : Inserts store' who job stage := by
  cases stage with
  | free evidence =>
      obtain ⟨item, none, free⟩ := inserts
      exact ⟨item, links.trans none, clear evidence rfl free⟩
  | linked candidate evidence | refreshed candidate evidence =>
      obtain ⟨item, free, link, one, named⟩ := inserts
      exact ⟨item, clear evidence rfl free, link, links.trans one, named⟩
  | reading | failed | concluded => exact links.trans inserts

/-- **One transaction goes on**, and nothing changes for the others. -/
theorem InOrder.goes (order : InOrder store phases) (single : Single store'.links)
    (apart : ∀ evidence, phase'.stage.item = some evidence → ∀ other, other ≠ who →
      ¬ Associates phases other evidence)
    (consistent : Consistent store' who phase')
    (others : ∀ other, other ≠ who → store'.overlays other = store.overlays other)
    (clear : ∀ other evidence, other ≠ who → Clear store other evidence →
      Associates phases other evidence → Clear store' other evidence) :
    InOrder store' (Function.update phases who (some phase')) := by
  have here : ∀ evidence, Associates (Function.update phases who (some phase')) who evidence →
      phase'.stage.item = some evidence := by
    rintro evidence ⟨after, told, item⟩
    rw [Function.update_self] at told
    exact Option.some.inj told ▸ item
  have there : ∀ other evidence, other ≠ who → Associates (Function.update phases who (some phase'))
      other evidence → Associates phases other evidence := by
    rintro other evidence different ⟨after, told, item⟩
    rw [Function.update_of_ne different] at told
    exact ⟨after, told, item⟩
  refine ⟨single, fun other after told => ?_, fun other told => ?_,
    fun first second evidence one two => ?_⟩
  · by_cases same : other = who
    · subst same
      rw [Function.update_self] at told
      exact Option.some.inj told ▸ consistent
    · rw [Function.update_of_ne same] at told
      obtain ⟨read, unstuck, inserts⟩ := order.consistent other after told
      exact ⟨read, unstuck, inserts.of_same (congrArg Overlay.links (others other same))
        fun evidence item free => clear other evidence same free ⟨after, told, item⟩⟩
  · by_cases same : other = who
    · subst same
      rw [Function.update_self] at told
      exact absurd told nofun
    · rw [Function.update_of_ne same] at told
      exact (congrArg Overlay.links (others other same)).trans (order.idle other told)
  · by_cases same : first = who
    · by_cases same' : second = who
      · exact same.trans same'.symm
      · subst same
        exact absurd (there second evidence same' two) (apart evidence (here evidence one) second same')
    · by_cases same' : second = who
      · subst same'
        exact absurd (there first evidence same one) (apart evidence (here evidence two) first same)
      · exact order.alone first second evidence (there first evidence same one)
          (there second evidence same' two)

/-- A transaction that has found an item without an association is the only one. -/
theorem InOrder.apart (order : InOrder store phases) (bound : phases who = some phase)
    (kept : ∀ evidence, phase'.stage.item = some evidence → phase.stage.item = some evidence)
    (evidence : Uuid) (item : phase'.stage.item = some evidence) (other : Nat)
    (different : other ≠ who) : ¬ Associates phases other evidence := fun associates =>
  different (order.alone other who evidence associates ⟨phase, bound, kept evidence item⟩)

/-- A statement that writes no association, or only those of its transaction. -/
theorem InOrder.writes (order : InOrder store phases) (bound : phases who = some phase)
    (links : store'.links = store.links)
    (kept : ∀ evidence, phase'.stage.item = some evidence → phase.stage.item = some evidence)
    (consistent : Consistent store' who phase')
    (others : ∀ other, other ≠ who → store'.overlays other = store.overlays other) :
    InOrder store' (Function.update phases who (some phase')) := by
  refine order.goes (links ▸ order.single) (order.apart bound kept) consistent others
    fun other evidence different clear _ => ?_
  intro link member named
  rw [others other different]
  exact clear link (links ▸ member) named

/-- What a transaction sees of an item is what has been committed, as long as it has inserted
nothing. -/
theorem length_activeOf (single : Single store.links) (none : (store.overlays who).links = []) :
    (store.activeOf who evidence).length ≤ 1 := by
  unfold Store.activeOf Store.linksOf
  rw [none, List.append_nil, ← List.countP_eq_length_filter, List.countP_map]
  refine le_trans (List.countP_mono_left fun link _ active => ?_) (single evidence)
  exact Overlay.activeFor_settle active

theorem clear_of_activeOf (empty : store.activeOf who evidence = []) : Clear store who evidence := by
  intro link member named
  refine Bool.eq_false_iff.2 fun active => ?_
  have inside : (store.overlays who).settle link ∈ store.activeOf who evidence := by
    refine List.mem_filter.2 ⟨List.mem_map_of_mem (List.mem_append_left _ member), ?_⟩
    rw [Overlay.settle_evidenceItemId, named, active]
    simp
  rw [empty] at inside
  exact absurd inside List.not_mem_nil

theorem activeOf_of_clear (none : (store.overlays who).links = []) (clear : Clear store who evidence) :
    store.activeOf who evidence = [] := by
  unfold Store.activeOf Store.linksOf
  rw [none, List.append_nil]
  refine List.filter_eq_nil_iff.2 fun settled member active => ?_
  obtain ⟨link, inside, rfl⟩ := List.mem_map.1 member
  rw [Overlay.settle_evidenceItemId, Bool.and_eq_true, beq_iff_eq] at active
  exact absurd ((clear link inside active.1).symm.trans active.2) Bool.false_ne_true

/-- Whatever a transaction has inserted, it has nothing left once it is over. -/
theorem written_empty (job : Job) (stage : Stage) (none : stage = .concluded ∨ stage = .failed) :
    Inserts (store.written who .empty) who job stage := by
  have empty : ((store.written who .empty).overlays who).links = [] := by
    show (Function.update store.overlays who Overlay.empty who).links = []
    rw [Function.update_self]
    rfl
  rcases none with rfl | rfl
  · exact empty
  · exact empty

/-- Neither the associations nor what has been deactivated has changed. -/
theorem Inserts.of_overlay {job : Job} {stage : Stage} (inserts : Inserts store who job stage)
    (held : store'.links = store.links)
    (links : (store'.overlays who).links = (store.overlays who).links)
    (removed : (store'.overlays who).removed = (store.overlays who).removed) :
    Inserts store' who job stage := by
  refine inserts.of_same links fun evidence _ clear link member named => ?_
  have same : (store'.overlays who).settle link = (store.overlays who).settle link := by
    unfold Overlay.settle
    rw [removed]
  rw [same]
  exact clear link (held ▸ member) named

/-- A statement that fails, or ends its transaction, has not named anything ambiguous. -/
theorem Consistent.raised {op : Op} {raised : PyError} (consistent : Consistent store who phase)
    (other : raised ≠ ambiguous)
    (inserts : Inserts store' who phase.job (phase.raised op raised).stage) :
    Consistent store' who (phase.raised op raised) := by
  refine ⟨consistent.read, ?_, inserts⟩
  show (phase.stuck || phase.job.processes && decide (raised = ambiguous)) = false
  rw [consistent.unstuck, decide_eq_false other, Bool.and_false, Bool.or_false]

theorem Consistent.going (consistent : Consistent store who phase)
    (links : store'.links = store.links)
    (others : store'.overlays who = store.overlays who) : Consistent store' who phase := by
  refine ⟨consistent.read, consistent.unstuck, consistent.inserts.of_same
    (congrArg Overlay.links others) fun evidence _ clear link member named => ?_⟩
  rw [others]
  exact clear link (links ▸ member) named

/-- A statement that only reads. -/
theorem InOrder.reads (order : InOrder store phases) (bound : phases who = some phase)
    (same : phase'.job = phase.job) (stage : phase'.stage = phase.stage)
    (read : ∀ value, phase'.projection = some value → phase'.job.item = some value.evidenceItemId)
    (unstuck : phase'.stuck = phase.stuck) :
    InOrder store (Function.update phases who (some phase')) := by
  have before := order.consistent who phase bound
  exact order.writes bound rfl (fun evidence item => stage ▸ item)
    ⟨read, unstuck.trans before.unstuck, by rw [same, stage]; exact before.inserts⟩ fun _ _ => rfl

/-- The associations of an item are read. -/
theorem InOrder.finds (order : InOrder store phases) (bound : phases who = some phase)
    (opens : phase.stage.Open) (item : phase.job.item = some evidence)
    (apart : store.activeOf who evidence = [] → ∀ other, other ≠ who →
      ¬ Associates phases other evidence) :
    InOrder store (Function.update phases who
      (some (phase.found evidence (store.activeOf who evidence)))) := by
  obtain ⟨read, unstuck, inserts⟩ := order.consistent who phase bound
  have none : (store.overlays who).links = [] := by
    rcases opens with reading | ⟨other, free⟩
    · rw [reading] at inserts
      exact inserts
    · rw [free] at inserts
      exact inserts.2.1
  have few := @length_activeOf store who evidence order.single none
  have empty : phase.stage ≠ .reading → store.activeOf who evidence = [] := by
    intro other
    rcases opens with reading | ⟨value, free⟩
    · exact absurd reading other
    · rw [free] at inserts
      obtain ⟨item', -, clear⟩ := inserts
      obtain rfl := Option.some.inj (item.symm.trans item')
      exact activeOf_of_clear none clear
  refine order.goes order.single (fun value named other different => ?_) ⟨read, ?_, ?_⟩
    (fun _ _ => rfl) fun _ _ _ clear _ => clear
  · replace named : (if (store.activeOf who evidence).isEmpty then Stage.free evidence
        else .reading).item = some value := named
    split at named
    · next isEmpty =>
      obtain rfl := Option.some.inj named
      exact apart (List.isEmpty_iff.1 isEmpty) other different
    · exact absurd named nofun
  · show (phase.stuck || phase.job.processes && (decide (1 < (store.activeOf who evidence).length) ||
      decide (phase.stage ≠ .reading) && !(store.activeOf who evidence).isEmpty)) = false
    rw [unstuck, decide_eq_false (Nat.not_lt.2 few), Bool.false_or, Bool.false_or]
    by_cases reading : phase.stage = .reading
    · rw [decide_eq_false (not_not.2 reading), Bool.false_and, Bool.and_false]
    · rw [empty reading]
      simp
  · show Inserts store who phase.job
      (if (store.activeOf who evidence).isEmpty then .free evidence else .reading)
    split
    · next isEmpty => exact ⟨item, none, clear_of_activeOf (List.isEmpty_iff.1 isEmpty)⟩
    · exact none

/-- A transaction that has ended without its rows. -/
theorem InOrder.rolledBack (order : InOrder store phases) (bound : phases who = some phase)
    (same : phase'.job = phase.job) (projection : phase'.projection = phase.projection)
    (unstuck : phase'.stuck = false) (none : phase'.stage = .concluded ∨ phase'.stage = .failed) :
    InOrder (store.written who .empty) (Function.update phases who (some phase')) := by
  have before := order.consistent who phase bound
  refine order.writes bound rfl (fun evidence item => ?_) ⟨fun value read => ?_, unstuck,
    written_empty _ _ none⟩ fun other different => written_ne different
  · rcases none with concluded | failed
    · rw [concluded] at item
      exact absurd item nofun
    · rw [failed] at item
      exact absurd item nofun
  · rw [same]
    exact before.read value (projection ▸ read)

/-- **A commit**: the association that a transaction has inserted is the only one of its item. -/
theorem InOrder.commits (order : InOrder store phases) (bound : phases who = some phase)
    (going : phase.stage ≠ .concluded) (unfailed : phase.stage ≠ .failed)
    (same : phase'.job = phase.job)
    (projection : phase'.projection = phase.projection) (unstuck : phase'.stuck = false)
    (concluded : phase'.stage = .concluded) :
    InOrder (store.committed who) (Function.update phases who (some phase')) := by
  have before := order.consistent who phase bound
  -- what is inserted belongs to the item, of which nothing else is left
  have inserted : (store.overlays who).links = [] ∨ ∃ evidence link, phase.stage.item = some evidence ∧
      (store.overlays who).links = [link] ∧ link.evidenceItemId = evidence ∧
        Clear store who evidence := by
    have inserts := before.inserts
    cases stage : phase.stage with
    | reading =>
        rw [stage] at inserts
        exact .inl inserts
    | failed => exact absurd stage unfailed
    | concluded => exact absurd stage going
    | free evidence =>
        rw [stage] at inserts
        exact .inl inserts.2.1
    | linked candidate evidence | refreshed candidate evidence =>
        rw [stage] at inserts
        obtain ⟨-, clear, link, one, named⟩ := inserts
        exact .inr ⟨evidence, link, rfl, one, named, clear⟩
  refine order.goes (fun evidence => ?_) (fun evidence item => ?_)
    ⟨fun value read => ?_, unstuck, ?_⟩ (fun other different => written_ne different) ?_
  · show ((store.links ++ (store.overlays who).links).map (store.overlays who).settle).countP _ ≤ 1
    rw [List.countP_map, List.countP_append]
    have kept : store.links.countP (activeFor evidence ∘ (store.overlays who).settle) ≤
        store.links.countP (activeFor evidence) :=
      List.countP_mono_left fun link _ active => Overlay.activeFor_settle active
    rcases inserted with none | ⟨item, link, -, one, named, clear⟩
    · rw [none, List.countP_nil, Nat.add_zero]
      exact kept.trans (order.single evidence)
    · rw [one]
      by_cases here : item = evidence
      · subst here
        have free : store.links.countP (activeFor item ∘ (store.overlays who).settle) = 0 := by
          refine List.countP_eq_zero.2 fun other member active => ?_
          obtain ⟨about, active⟩ := Bool.and_eq_true_iff.1 active
          rw [Overlay.settle_evidenceItemId, beq_iff_eq] at about
          exact absurd ((clear other member about).symm.trans active) Bool.false_ne_true
        rw [free, Nat.zero_add]
        exact List.countP_le_length
      · have other : [link].countP (activeFor evidence ∘ (store.overlays who).settle) = 0 := by
          refine List.countP_eq_zero.2 fun value member active => ?_
          obtain rfl := List.mem_singleton.1 member
          obtain ⟨about, -⟩ := Bool.and_eq_true_iff.1 active
          rw [Overlay.settle_evidenceItemId, beq_iff_eq, named] at about
          exact here about
        rw [other, Nat.add_zero]
        exact kept.trans (order.single evidence)
  · rw [concluded] at item
    exact absurd item nofun
  · rw [same]
    exact before.read value (projection ▸ read)
  · rw [concluded]
    exact @written_empty store who phase'.job .concluded (.inl rfl)
  · intro other evidence different clear associates link member named
    obtain ⟨old, inside, rfl⟩ := List.mem_map.1 member
    rw [show ((store.committed who).overlays other) = store.overlays other from written_ne different]
    rw [Overlay.settle_evidenceItemId] at named
    rcases List.mem_append.1 inside with held | new
    · refine Bool.eq_false_iff.2 fun active => ?_
      have still := Overlay.settle_settle active
      exact absurd ((clear old held named).symm.trans still) Bool.false_ne_true
    · rcases inserted with none | ⟨item, own, about, one, named', -⟩
      · rw [none] at new
        exact absurd new List.not_mem_nil
      · rw [one] at new
        obtain rfl := List.mem_singleton.1 new
        obtain rfl := named'.symm.trans named
        exact absurd (order.alone other who _ associates ⟨phase, bound, about⟩) different

/-- **A transaction finds an item without an association when nobody else in progress has.** -/
def Apart (normalizer : Normalizer) : (discipline normalizer).Guard := fun store phases move =>
  match move with
  | .work who (.activeAssociations evidence) _ => store.activeOf who evidence = [] →
      ∀ other, other ≠ who → ¬ Associates phases other evidence
  | _ => True

variable {normalizer : Normalizer} {move : Move statements Choice Job Empty}

/-- The stage after an update. -/
def Stage.updated : Stage → Stage
  | .linked candidate evidence => .refreshed candidate evidence
  | stage => stage

/-- A statement that is made. -/
theorem InOrder.proceeds (order : InOrder store phases) (bound : phases who = some phase) {op : Op}
    {reply : Result (Answer op)} (allowed : phase.allowed normalizer op)
    (apart : Apart normalizer store phases (.work who op .proceed))
    (executed : exec store who op .proceed = some (reply, store')) :
    InOrder store' (Function.update phases who (some (phase.next op reply))) := by
  obtain ⟨going, failed, permits⟩ := allowed
  have before := order.consistent who phase bound
  have reads : ∀ {phase' : Phase}, phase'.job = phase.job → phase'.stage = phase.stage →
      phase'.projection = phase.projection → phase'.stuck = phase.stuck →
      InOrder store (Function.update phases who (some phase')) := by
    intro phase' same stage projection stuck
    refine order.reads bound same stage (fun value read => ?_) stuck
    rw [same]
    exact before.read value (projection ▸ read)
  cases op with
  | evidence id =>
      obtain ⟨rfl, rfl⟩ := Prod.mk.inj (Option.some.inj executed)
      refine order.reads bound rfl rfl (fun value read => ?_) rfl
      obtain ⟨row, found, rfl⟩ := Option.map_eq_some_iff.1 read
      have named : row.projection.evidenceItemId = id := by simpa using List.find?_some found
      rw [named]
      exact permits.1
  | activeAssociations id =>
      obtain ⟨rfl, rfl⟩ := Prod.mk.inj (Option.some.inj executed)
      refine order.finds bound permits.1 ?_ apart
      rcases permits.2 with item | about
      · exact item
      · obtain ⟨value, read, rfl⟩ := Option.map_eq_some_iff.1 about
        exact before.read value read
  | activePair candidate evidence | candidates | candidate id | byClusterKey key
  | activeEvidence id =>
      obtain ⟨rfl, rfl⟩ := Prod.mk.inj (Option.some.inj executed)
      exact reads rfl rfl rfl rfl
  | insertCandidate row =>
      simp only [exec, Store.insertCandidate] at executed
      split at executed
      · obtain ⟨rfl, rfl⟩ := Prod.mk.inj (Option.some.inj executed)
        exact reads rfl rfl rfl rfl
      · split at executed
        · cases executed
        · obtain ⟨rfl, rfl⟩ := Prod.mk.inj (Option.some.inj executed)
          refine order.writes bound rfl (fun _ item => item) ⟨before.read,
            before.unstuck, ?_⟩ fun other different => written_ne different
          refine before.inserts.of_overlay rfl ?_ ?_
          · simp only [Store.give, Store.written, Function.update_self]
          · simp only [Store.give, Store.written, Function.update_self]
  | insertLink row =>
      obtain ⟨candidate, -, value, decision, read, free, rfl⟩ := permits
      have inserts := before.inserts
      rw [free] at inserts
      obtain ⟨item, none, clear⟩ := inserts
      simp only [exec, Store.insertLink] at executed
      split at executed
      · cases executed
      · split at executed
        · obtain ⟨rfl, rfl⟩ := Prod.mk.inj (Option.some.inj executed)
          have kept : ∀ evidence, some value.evidenceItemId = some evidence →
              phase.stage.item = some evidence := by
            rw [free]
            exact fun _ same => same
          refine order.writes bound rfl kept ⟨before.read, before.unstuck, item, ?_,
            EventCandidateService.newLink candidate value decision store.fresh, ?_, rfl⟩ fun other different => written_ne different
          · intro link member named
            have active := clear link member named
            simp only [Store.give, Store.written, Function.update_self]
            exact active
          · simp only [Store.give, Store.written, Function.update_self, none]
            rfl
        · obtain ⟨rfl, rfl⟩ := Prod.mk.inj (Option.some.inj executed)
          have raised := @Consistent.raised store store who phase
            (.insertLink (EventCandidateService.newLink candidate value decision))
            ⟨.sqlAlchemyError, "uq_event_candidate_evidence_active_pair"⟩ before (by decide) none
          exact order.writes bound rfl (fun _ impossible => by cases impossible) raised
            fun _ _ => rfl
  | deactivate linkId removedAt =>
      have inserts := before.inserts
      rw [show phase.stage = .reading from permits] at inserts
      simp only [exec, Store.deactivate] at executed
      split at executed
      · cases executed
      · obtain ⟨rfl, rfl⟩ := Prod.mk.inj (Option.some.inj executed)
        refine order.writes bound rfl (fun _ item => item) ⟨before.read,
          before.unstuck, ?_⟩ fun other different => written_ne different
        show Inserts _ who phase.job phase.stage
        rw [show phase.stage = .reading from permits]
        exact (congrArg Overlay.links written_self).trans inserts
  | update loaded changed =>
      have kept : Inserts store' who phase.job phase.stage → Consistent store' who
          (phase.next (.update loaded changed) (.ok ())) := by
        intro inserts
        refine ⟨before.read, before.unstuck, ?_⟩
        show Inserts store' who phase.job phase.stage.updated
        cases stage : phase.stage with
        | linked candidate evidence =>
            rw [stage] at inserts
            exact inserts
        | reading | free _ | refreshed _ _ | failed | concluded =>
            rw [stage] at inserts
            exact inserts
      have stays : ∀ evidence, phase.stage.updated.item = some evidence →
          phase.stage.item = some evidence := by
        intro evidence item
        unfold Stage.updated at item
        split at item
        · next stage =>
          rw [stage]
          exact item
        · exact item
      simp only [exec, Store.update] at executed
      split at executed
      · obtain ⟨rfl, rfl⟩ := Prod.mk.inj (Option.some.inj executed)
        exact order.writes bound rfl stays (kept before.inserts)
          fun _ _ => rfl
      · split at executed
        · cases executed
        · obtain ⟨rfl, rfl⟩ := Prod.mk.inj (Option.some.inj executed)
          refine order.writes bound rfl stays (kept ?_)
            fun other different => written_ne different
          refine before.inserts.of_overlay rfl ?_ ?_
          · simp only [Store.written, Function.update_self]
          · simp only [Store.written, Function.update_self]
  | commit =>
      obtain ⟨rfl, rfl⟩ := Prod.mk.inj (Option.some.inj executed)
      exact order.commits bound going (fun failing => by cases failed failing) rfl rfl
        before.unstuck rfl
  | rollback =>
      obtain ⟨rfl, rfl⟩ := Prod.mk.inj (Option.some.inj executed)
      exact order.rolledBack bound rfl rfl before.unstuck (.inl rfl)

/-- A transaction that is lost. -/
theorem InOrder.leaves (order : InOrder store phases) :
    InOrder (store.written who .empty) (Function.update phases who none) := by
  have before : ∀ other evidence, Associates (Function.update phases who none) other evidence →
      Associates phases other evidence := by
    rintro other evidence ⟨phase, told, associates⟩
    by_cases here : other = who
    · subst here
      rw [Function.update_self] at told
      exact absurd told nofun
    · rw [Function.update_of_ne here] at told
      exact ⟨phase, told, associates⟩
  refine ⟨order.single, fun other phase told => ?_, fun other told => ?_,
    fun first second evidence one two => order.alone first second evidence (before _ _ one)
      (before _ _ two)⟩
  · by_cases here : other = who
    · subst here
      rw [Function.update_self] at told
      exact absurd told nofun
    · rw [Function.update_of_ne here] at told
      exact (order.consistent other phase told).going rfl (written_ne here)
  · by_cases here : other = who
    · subst here
      rw [written_self]
      rfl
    · rw [Function.update_of_ne here] at told
      rw [written_ne here]
      exact order.idle other told

/-- A transaction that begins. -/
theorem InOrder.begins (order : InOrder store phases) (free : phases who = none) {job : Job} :
    InOrder store (Function.update phases who (some (Phase.initial job))) :=
  order.goes order.single nofun ⟨nofun, rfl, order.idle who free⟩ (fun _ _ => rfl)
    fun _ _ _ clear _ => clear

/-- **Calls that are apart keep the associations in order.** -/
theorem inOrder_preserved : (discipline normalizer).Preserves (Apart normalizer) InOrder := by
  intro store phases move store' phases' stepped apart order
  cases stepped with
  | work who op choice bound allowed executed =>
      rename_i phase reply
      have before := order.consistent who phase bound
      have unstuck : (phase.raised op ⟨.operationalError, ""⟩).stuck = false := by
        show (phase.stuck || phase.job.processes &&
          decide ((⟨.operationalError, ""⟩ : PyError) = ambiguous)) = false
        rw [before.unstuck, decide_eq_false (by decide), Bool.and_false, Bool.or_false]
      cases choice with
      | proceed => exact order.proceeds bound allowed apart executed
      | fault =>
          obtain ⟨rfl, rfl⟩ := Prod.mk.inj (Option.some.inj executed)
          refine order.rolledBack bound rfl rfl unstuck ?_
          cases op with
          | commit | rollback => exact .inl rfl
          | _ => exact .inr rfl
      | lost =>
          cases op with
          | commit =>
              obtain ⟨rfl, rfl⟩ := Prod.mk.inj (Option.some.inj executed)
              exact order.commits bound allowed.1
                (fun failing => absurd (allowed.2.1 failing) nofun) rfl rfl unstuck rfl
          | _ => exact absurd executed nofun
  | crash who bound => exact order.leaves
  | start who job free accepted =>
      obtain rfl := Option.some.inj accepted
      exact order.begins free
  | env action => exact nomatch action

end Steps

/-! ### Every run -/

theorem next_job (phase : Phase) (op : Op) (reply : Result (Answer op)) :
    (phase.next op reply).job = phase.job := by
  cases reply with
  | error raised => rfl
  | ok value =>
      cases op with
      | _ => rfl

/-- A transaction stays that of its call. -/
theorem phase_job {normalizer : Normalizer}
    (task : Task statements (Result (Option EventCandidateOutcome)) Job) :
    ((discipline normalizer).phase task).job = task.job := by
  have kept : ∀ (log : List (Σ op : Op, Result (Answer op))) (phase : Phase),
      (log.foldl (fun phase entry => phase.next entry.1 entry.2) phase).job = phase.job := by
    intro log
    induction log with
    | nil => exact fun _ => rfl
    | cons entry log ih => exact fun phase => (ih _).trans (next_job phase entry.1 entry.2)
  exact kept task.log (Phase.initial task.job)

theorem inOrder_initial {store : Store} (single : Single store.links) (quiet : store.writers = 0) :
    InOrder store fun _ => none := by
  refine ⟨single, fun _ _ told => absurd told nofun, fun who _ => ?_, fun who _ _ associates _ => ?_⟩
  · rw [store.unwritten who (quiet ▸ Nat.zero_le who)]
    rfl
  · obtain ⟨phase, told, -⟩ := associates
    exact absurd told nofun

/-- **An evidence item belongs to one event at most**, and no call of `process` finds it with two or
with another one than its own, in every run whose transactions find an item without an association
one after the other. -/
theorem associations_single {normalizer : Normalizer} {store : Store}
    {world : World statements (Result (Option EventCandidateOutcome)) Store Job}
    (single : Single store.links) (quiet : store.writers = 0)
    (run : (discipline normalizer).Reaches (Apart normalizer) (.initial store) world) :
    Single world.state.links ∧ ∀ who task, world.tasks who = some task →
      task.job.processes = true → task.program ≠ .done (.error ambiguous) := by
  have order : InOrder world.state ((discipline normalizer).phases world) :=
    run.invariant _ inOrder_preserved ((discipline normalizer).adherent_initial store)
      (inOrder_initial single quiet)
  refine ⟨order.single, fun who task found processes ended => ?_⟩
  have bound : (discipline normalizer).phases world who =
      some ((discipline normalizer).phase task) := by
    unfold Discipline.phases
    rw [found]
    rfl
  have follows := run.adherent _ ((discipline normalizer).adherent_initial store) who task found
  rw [ended] at follows
  have stuck : ((discipline normalizer).phase task).stuck = true :=
    follows ((congrArg Job.processes (phase_job task)).trans processes) rfl
  exact absurd ((order.consistent who _ bound).unstuck.symm.trans stuck) Bool.false_ne_true

/-! ### Two sources of one report -/

/-- Hashes that keep everything, and titles of one word. -/
def plain : Normalizer where
  sha256 text := text
  canonicalizeUrl url := url
  words title := if title = "" then [] else [title]
  listText := ",".intercalate

/-- A report that a news service has found. -/
def reported : EvidenceProjection :=
  ⟨1, "marketaux", some "a", "h", false, some "https://sec.gov/f", none, none, 0, [], [], [], none⟩

/-- The filing that it is about. -/
def filed : EvidenceProjection :=
  ⟨2, "sec_edgar", some "f", "g", true, some "https://sec.gov/f", none, none, 0, [], [], [], none⟩

/-- Both have been collected, and neither has been processed. -/
def collected : Store where
  evidence := [⟨reported, 10⟩, ⟨filed, 11⟩]
  candidates := []
  links := []
  overlays _ := .empty
  writers := 0
  issued := 0
  supply := ⟨fun count => count, fun _ _ same => same⟩
  unwritten _ _ := rfl

/-- A transaction makes its next statements. -/
def goes (who count : Nat) : List (Event Choice Job Empty) := List.replicate count (.work who .proceed)

/-- A transaction finds no item without an association that another one has. -/
def apartStep (world : World statements (Result (Option EventCandidateOutcome)) Store Job)
    (event : Event Choice Job Empty) : Bool :=
  match world.move event with
  | some (.work who (.activeAssociations evidence) _) =>
      (List.range world.count).all fun other => other = who ||
        ((discipline plain).phases world other).bind (·.stage.item) ≠ some evidence
  | _ => true

theorem apartStep_apart (world : World statements (Result (Option EventCandidateOutcome)) Store Job)
    (event : Event Choice Job Empty) (move : Move statements Choice Job Empty)
    (asked : world.move event = some move) (passed : apartStep world event = true) :
    Apart plain world.state ((discipline plain).phases world) move := by
  unfold apartStep at passed
  rw [asked] at passed
  unfold Apart
  split
  · rintro - other different ⟨phase, told, item⟩
    have started : other < world.count := by
      by_contra beyond
      have none : (discipline plain).phases world other = none := by
        unfold Discipline.phases
        rw [world.unstarted other (Nat.le_of_not_lt beyond)]
        rfl
      exact absurd (none.symm.trans told) nofun
    have free := List.all_eq_true.1 passed other (List.mem_range.2 started)
    rw [told] at free
    simp [different, item] at free
  · trivial

/-- The filing is processed while the report is. -/
theorem associations_single_filed :
    ∃ world : World statements (Result (Option EventCandidateOutcome)) Store Job,
      world.state.links.length = 2 ∧ Single world.state.links := by
  have ran : ((World.initial collected).checked (transactions plain) apartStep
      (.start (.process 1) :: goes 0 3 ++ .start (.process 2) :: goes 1 10 ++ goes 0 7)).map
        (·.state.links.length) = some 2 := by
    decide +kernel
  obtain ⟨world, reached, both⟩ := Option.map_eq_some_iff.1 ran
  exact ⟨world, both, (@associations_single plain collected world (fun _ => Nat.zero_le 1) rfl
    (.of_checked _ apartStep_apart (.refl _) reached)).1⟩

/-- What a call has raised. -/
def raisedBy (world : World statements (Result (Option EventCandidateOutcome)) Store Job) (who : Nat) :
    Option (Job × PyError) :=
  match world.tasks who with
  | some ⟨job, .done (.error raised), _⟩ => some (job, raised)
  | _ => none

/-- **Two calls for the report, one of which has not seen the candidate of the filing**: it has an
association with both candidates, and no call for it succeeds any more. -/
theorem associated_twice :
    ¬∀ (normalizer : Normalizer) (store : Store)
      (world : World statements (Result (Option EventCandidateOutcome)) Store Job),
      Single store.links → store.writers = 0 →
      (discipline normalizer).Reaches (discipline normalizer).anyMove (.initial store) world →
      Single world.state.links ∧ ∀ who task, world.tasks who = some task →
        task.job.processes = true → task.program ≠ .done (.error ambiguous) := by
  intro single
  have ran : ((World.initial collected).run (transactions plain)
      (.start (.process 1) :: goes 0 3 ++ .start (.process 2) :: goes 1 10 ++
        .start (.process 1) :: goes 2 6 ++ goes 0 7 ++ goes 2 4 ++
        .start (.process 1) :: goes 3 3)).map
        (fun world => (world.state.links.countP (activeFor 1), raisedBy world 3)) =
      some (2, some (.process 1, ambiguous)) := by
    decide +kernel
  obtain ⟨world, reached, both⟩ := Option.map_eq_some_iff.1 ran
  have few := (single plain collected world (fun _ => Nat.zero_le 1) rfl
    (.of_run _ (.refl _) reached)).1 1
  rw [(Prod.mk.inj both).1] at few
  exact absurd few (by decide)

end NewsCollect.EventIntelligence
