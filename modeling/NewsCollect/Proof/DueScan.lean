/-
**What the scheduler claims.**

A scan reads the due targets page by page, each page behind the last target of the one before it. It
claims every target that loads, is not left to be started by hand and has no marker, until it has
enough, or has read as many as it may. A target whose stored configuration the registry refuses is
neither: the scan is given up for it.

* `dueTargets`, `duePage_eq`: a page is the next part of one list.
* `claimPages_alone`: what a scan visits and returns.
* `due_scan_iff`: when a scan is exact, and what holds of any number of scans at once.
-/

import Mathlib.Data.List.Sort
import NewsCollect.Library.Alone
import NewsCollect.Library.Unordered
import NewsCollect.Proof.Phases

namespace NewsCollect.Collection

open Calendar Interleaving Providers Unordered

/-! ### The due targets in their order -/

section Order

variable {db : Database} {now : Int}

/-- The one target comes before the other. -/
def DueTarget.Before (left right : DueTarget) : Prop :=
  left.effectiveDueAt < right.effectiveDueAt ∨
    left.effectiveDueAt = right.effectiveDueAt ∧ (left.priority < right.priority ∨
      left.priority = right.priority ∧ left.targetId < right.targetId)

theorem DueTarget.le_iff {left right : DueTarget} :
    left.le right = true ↔ left.Before right ∨ left.effectiveDueAt = right.effectiveDueAt ∧
      left.priority = right.priority ∧ left.targetId = right.targetId := by
  simp only [DueTarget.le, DueTarget.Before, Bool.or_eq_true, Bool.and_eq_true, decide_eq_true_eq,
    beq_iff_eq]
  grind

/-- The relation the targets are sorted by. -/
abbrev InOrder (left right : DueTarget) : Prop := left.le right = true

instance : Std.Total InOrder where
  total left right := by
    simp only [InOrder, DueTarget.le_iff, DueTarget.Before]
    grind

instance : IsTrans DueTarget InOrder where
  trans first second third before after := by
    simp only [InOrder, DueTarget.le_iff, DueTarget.Before] at before after ⊢
    grind

/-- The targets that are due, in no order. -/
def dueOf (db : Database) (now : Int) : List DueTarget :=
  (db.targets.filter fun target => target.status == .active &&
    target.effectiveDueAt ≤ now && target.cadenced).map Target.due

/-- **The targets that are due**, in the order of their times, priorities and identifiers. -/
def dueTargets (db : Database) (now : Int) : List DueTarget := (dueOf db now).insertionSort InOrder

theorem dueTargets_perm : (dueTargets db now).Perm (dueOf db now) := List.perm_insertionSort ..

/-- A target is due once. -/
theorem dueTargets_ids (keyed : (db.targets.map Target.id).Nodup) :
    ((dueTargets db now).map DueTarget.targetId).Nodup := by
  refine (dueTargets_perm.map _).nodup_iff.2 ?_
  rw [dueOf, List.map_map]
  exact keyed.sublist (List.filter_sublist.map _)

theorem dueTargets_sorted (keyed : (db.targets.map Target.id).Nodup) :
    (dueTargets db now).Pairwise DueTarget.Before := by
  have distinct := List.pairwise_map.1 (@dueTargets_ids db now keyed)
  have sorted : (dueTargets db now).Pairwise InOrder := List.pairwise_insertionSort InOrder _
  refine (sorted.and distinct).imp fun ⟨before, other⟩ => ?_
  rcases DueTarget.le_iff.1 before with strictly | ⟨-, -, same⟩
  · exact strictly
  · exact absurd same other

/-- What is left of the due targets behind one of them. -/
def Behind (sorted : List DueTarget) : Option DueTarget → List DueTarget → Prop
  | none, rest => sorted = rest
  | some last, rest => ∃ front, sorted = front ++ last :: rest

/-- The targets that are not behind one are left out of a page. -/
theorem filter_behind (keyed : (db.targets.map Target.id).Nodup) {after : Option DueTarget}
    {rest : List DueTarget} (behind : Behind (dueTargets db now) after rest) :
    ((dueTargets db now).filter fun entry =>
      match after with
      | some last => !entry.le last
      | none => true) = rest := by
  cases after with
  | none => exact (List.filter_true _).trans behind
  | some last =>
      obtain ⟨front, split⟩ := behind
      have sorted := @dueTargets_sorted db now keyed
      rw [split] at sorted ⊢
      obtain ⟨-, later, earlier⟩ := List.pairwise_append.1 sorted
      have front_le : ∀ entry ∈ front, entry.le last = true := fun entry member =>
        DueTarget.le_iff.2 (.inl (earlier entry member last (List.mem_cons_self ..)))
      have rest_gt : ∀ entry ∈ rest, entry.le last = false := by
        intro entry member
        have before := (List.pairwise_cons.1 later).1 entry member
        refine Bool.eq_false_iff.2 fun reached => ?_
        simp only [DueTarget.le_iff, DueTarget.Before] at before reached
        grind
      have self : last.le last = true := DueTarget.le_iff.2 (.inr ⟨rfl, rfl, rfl⟩)
      rw [List.filter_append, List.filter_eq_nil_iff.2 fun entry member => by
        simp [front_le entry member], List.filter_cons_of_neg (by simp [self]), List.nil_append]
      exact List.filter_eq_self.2 fun entry member => by simp [rest_gt entry member]

/-- **A page is the next part of the due targets.** -/
theorem duePage_eq (keyed : (db.targets.map Target.id).Nodup) {after : Option DueTarget}
    {rest : List DueTarget} (behind : Behind (dueTargets db now) after rest) (limit : Nat) :
    duePage db now limit after = rest.take limit := by
  have sorted := @dueTargets_sorted db now keyed
  have distinct := List.pairwise_map.1 (@dueTargets_ids db now keyed)
  have later : ∀ keep : DueTarget → Bool, ((dueOf db now).filter keep).insertionSort InOrder =
      (dueTargets db now).filter keep := by
    intro keep
    have ordered : ((dueTargets db now).filter keep).Pairwise InOrder :=
      (sorted.filter _).imp fun before => DueTarget.le_iff.2 (.inl before)
    rw [← ordered.insertionSort_eq]
    refine insertionSort_perm (dueTargets_perm.symm.filter keep) ?_
    intro left leftMem right rightMem before after
    have leftIn := dueTargets_perm.mem_iff.2 (List.mem_of_mem_filter leftMem)
    have rightIn := dueTargets_perm.mem_iff.2 (List.mem_of_mem_filter rightMem)
    have same : left.targetId = right.targetId := by
      simp only [InOrder, DueTarget.le_iff, DueTarget.Before] at before after
      grind
    exact (List.inj_on_of_nodup_map (dueTargets_ids keyed)) leftIn rightIn same
  have page : duePage db now limit after = (((dueOf db now).filter fun entry =>
      match after with
      | some last => !entry.le last
      | none => true).insertionSort InOrder).take limit := rfl
  rw [page, later, filter_behind keyed behind]

end Order

/-! ### What a scan finds -/

section Found

variable (deployed : Deployment) (state : Control) (now : Int)

/-- What the repository answers for a due target. -/
def loadDue (db : Database) (due : DueTarget) : Result LoadedTarget := do
  let revision ← revisionOf db due.targetId
  loadForExecution deployed.registry db due.targetId revision

/-- The identity a loaded target is claimed under. -/
def dispatchIdentity (due : DueTarget) (loaded : LoadedTarget) : DispatchIdentity :=
  ⟨loaded.target.id, loaded.target.configRevision, slotOf now due (max loaded.target.cadenceSeconds 1),
    "normal"⟩

/-- The marker of an identity is alive. -/
def Live (state : Control) (identity : DispatchIdentity) : Bool :=
  present state.redis state.now (.dispatch identity)

/-- **The dispatch of a due target that can be claimed**: it loads, is not left to be started by
hand, and has no live marker. -/
def claimOf (due : DueTarget) : Option TargetDispatch :=
  match loadDue deployed state.database due with
  | .ok loaded =>
      if manualOnly loaded || Live state (dispatchIdentity now due loaded) then none
      else some (dispatchIdentity now due loaded).dispatch
  | .error _ => none

/-- The target fails to load, and not because the repository refuses it. -/
def Breaks (due : DueTarget) : Prop :=
  ∃ raised, loadDue deployed state.database due = .error raised ∧
    raised.isAny [.targetRepositoryError] = false

end Found

/-- The targets that are visited until so many have been claimed. -/
def visitedUntil (claims : DueTarget → Option TargetDispatch) : Nat → List DueTarget → List DueTarget
  | 0, _ => []
  | _ + 1, [] => []
  | limit + 1, due :: rest =>
      due :: visitedUntil claims (if (claims due).isSome then limit else limit + 1) rest

/-- The targets a program has asked the revision of. -/
def visits (log : List (Σ op : Op, Result (Answer op))) : List Uuid :=
  log.filterMap fun entry =>
    match entry.1 with
    | .revision targetId => some targetId
    | _ => none

section Visited

variable {claims : DueTarget → Option TargetDispatch}

@[simp] theorem visitedUntil_nil (limit : Nat) : visitedUntil claims limit [] = [] := by
  cases limit <;> rfl

@[simp] theorem visitedUntil_zero (targets : List DueTarget) : visitedUntil claims 0 targets = [] := by
  cases targets <;> rfl

theorem visitedUntil_isPrefix (limit : Nat) (targets : List DueTarget) :
    visitedUntil claims limit targets <+: targets := by
  induction targets generalizing limit with
  | nil => simp only [visitedUntil_nil, List.nil_prefix]
  | cons due rest ih =>
      cases limit with
      | zero => exact List.nil_prefix
      | succ limit => exact List.cons_prefix_cons.2 ⟨rfl, ih _⟩

/-- As many are claimed as there are, or as may be. -/
theorem claimed_visitedUntil (limit : Nat) (targets : List DueTarget) :
    (visitedUntil claims limit targets).filterMap claims = (targets.filterMap claims).take limit := by
  induction targets generalizing limit with
  | nil => simp
  | cons due rest ih =>
      cases limit with
      | zero => rfl
      | succ limit =>
          rw [visitedUntil]
          cases found : claims due with
          | none =>
              rw [List.filterMap_cons_none found, List.filterMap_cons_none found]
              exact ih _
          | some dispatch =>
              rw [List.filterMap_cons_some found, List.filterMap_cons_some found, List.take_succ_cons]
              exact congrArg _ (ih _)

/-- The visits of two lists one after the other. -/
theorem visitedUntil_append (limit : Nat) (first second : List DueTarget) :
    visitedUntil claims limit (first ++ second) = visitedUntil claims limit first ++
      visitedUntil claims (limit - ((visitedUntil claims limit first).filterMap claims).length)
        second := by
  induction first generalizing limit with
  | nil => simp
  | cons due rest ih =>
      cases limit with
      | zero => simp [visitedUntil]
      | succ limit =>
          rw [List.cons_append, visitedUntil, visitedUntil, ih, List.cons_append]
          cases found : claims due with
          | none =>
              rw [List.filterMap_cons_none found]
              rfl
          | some dispatch =>
              rw [List.filterMap_cons_some found, List.length_cons, Nat.add_sub_add_right]
              rfl

end Visited

@[simp] theorem visits_append (first second : List (Σ op : Op, Result (Answer op))) :
    visits (first ++ second) = visits first ++ visits second := List.filterMap_append

section One

variable {deployed : Deployment} {state before : Control} {now : Int} {who : Nat} {due : DueTarget}
  {rest : List DueTarget}

/-- What a scan has not changed: the tables, and the markers of the targets it has not come to. -/
structure Untouched (state before : Control) (rest : List DueTarget) : Prop where
  database : before.database = state.database
  markers : ∀ identity, (∃ due ∈ rest, due.targetId = identity.targetId) →
    Live before identity = Live state identity

theorem Untouched.mono {others : List DueTarget} (untouched : Untouched state before others)
    (inside : ∀ due ∈ rest, due ∈ others) : Untouched state before rest :=
  ⟨untouched.database, fun identity named => untouched.markers identity
    (named.imp fun due member => ⟨inside due member.1, member.2⟩)⟩

theorem Untouched.behind {page : List DueTarget} (untouched : Untouched state before (page ++ rest)) :
    Untouched state before rest :=
  untouched.mono fun _ member => List.mem_append_right _ member

/-- The course of a scan that nothing interrupts. -/
def course {α : Type} (deployed : Deployment) (who : Nat) (program : Procedure α)
    (state : Control) : Course signature (Result α) Control :=
  program.run.alone (fun state op => perform deployed state who op) state

section Course

variable {α β : Type} {program : Procedure α} {next : α → Procedure β}

theorem course_bind {value : α} (ends : (course deployed who program before).outcome = .ok value) :
    course deployed who (program >>= next) before =
      (course deployed who (next value) (course deployed who program before).state).after
        (course deployed who program before).log :=
  alone_bindE _ ends

theorem course_bind_error {raised : PyError}
    (ends : (course deployed who program before).outcome = .error raised) :
    course deployed who (program >>= next) before =
      ⟨(course deployed who program before).log, .error raised,
        (course deployed who program before).state⟩ :=
  alone_bind_error _ ends

theorem course_attempt : course deployed who (attempt program) before =
    ⟨(course deployed who program before).log, .ok (course deployed who program before).outcome,
      (course deployed who program before).state⟩ :=
  alone_attempt _

theorem course_pure (value : α) : course deployed who (pure value) before = ⟨[], .ok value, before⟩ :=
  rfl

theorem course_ask {op : Op} : course deployed who (ask op) before =
    ⟨[⟨op, (perform deployed before who op).1⟩], (perform deployed before who op).1,
      (perform deployed before who op).2⟩ := rfl

end Course

/-- The repository is asked for the revision and the target. -/
theorem load_alone :
    (course deployed who (do
      let revision ← ask (.revision due.targetId)
      ask (.load due.targetId revision)) before).outcome = loadDue deployed before.database due ∧
    (course deployed who (do
      let revision ← ask (.revision due.targetId)
      ask (.load due.targetId revision)) before).state = before ∧
    visits (course deployed who (do
      let revision ← ask (.revision due.targetId)
      ask (.load due.targetId revision)) before).log = [due.targetId] := by
  rw [loadDue]
  cases found : revisionOf before.database due.targetId with
  | ok revision =>
      have asked : (course deployed who (ask (.revision due.targetId)) before).outcome =
          .ok revision := found
      rw [course_bind asked]
      exact ⟨rfl, rfl, rfl⟩
  | error raised =>
      have asked : (course deployed who (ask (.revision due.targetId)) before).outcome =
          .error raised := found
      rw [course_bind_error asked]
      exact ⟨rfl, rfl, rfl⟩

/-- How the visit of a target ends. -/
def visitOf (deployed : Deployment) (state : Control) (now : Int) (due : DueTarget) :
    Result (Option TargetDispatch) :=
  match loadDue deployed state.database due with
  | .ok _ => .ok (claimOf deployed state now due)
  | .error raised => if raised.isAny [.targetRepositoryError] then .ok none else .error raised

/-- A marker is set where there is none. -/
theorem perform_mark {identity : DispatchIdentity} {ttl : Int} :
    perform deployed before who (.mark due identity ttl) =
      if Live before identity then (.ok false, before)
      else (.ok true, (before.withRedis (Expiring.set before.redis before.now (.dispatch identity)
        (.identity identity) (ttl * second))).note (.claimed identity due.effectiveDueAt)) := by
  change (Except.ok (Expiring.setIfAbsent before.redis before.now (.dispatch identity)
      (.identity identity) (ttl * second)).1,
    if (Expiring.setIfAbsent before.redis before.now (.dispatch identity) (.identity identity)
      (ttl * second)).1 = true then (before.withRedis (Expiring.setIfAbsent before.redis before.now
        (.dispatch identity) (.identity identity) (ttl * second)).2).note
          (.claimed identity due.effectiveDueAt) else before) = _
  rw [Expiring.setIfAbsent, Live, present]
  split <;> rfl

theorem claimLoaded_eq {loaded : LoadedTarget} (cadenced : manualOnly loaded = false) :
    claimLoaded now due loaded =
      (ask (.mark due (dispatchIdentity now due loaded)
        (markerTtl (max loaded.target.cadenceSeconds 1) loaded.target.maxRuntimeSeconds)) >>=
        fun taken => pure (if taken = true then some (dispatchIdentity now due loaded).dispatch else none)) := by
  rw [claimLoaded, if_neg (by simp [cadenced])]
  rfl

theorem claimLoaded_alone {loaded : LoadedTarget} (own : loaded.target.id = due.targetId)
    (untouched : Untouched state before (due :: rest))
    (fresh : due.targetId ∉ rest.map DueTarget.targetId) :
    (course deployed who (claimLoaded now due loaded) before).outcome =
        .ok (if manualOnly loaded || Live state (dispatchIdentity now due loaded) then none
          else some (dispatchIdentity now due loaded).dispatch) ∧
      Untouched state (course deployed who (claimLoaded now due loaded) before).state rest ∧
      visits (course deployed who (claimLoaded now due loaded) before).log = [] := by
  have later : Untouched state before rest :=
    untouched.mono fun _ member => List.mem_cons_of_mem _ member
  cases manual : manualOnly loaded with
  | true =>
      rw [claimLoaded, if_pos manual]
      exact ⟨rfl, later, rfl⟩
  | false =>
      have marker := untouched.markers (dispatchIdentity now due loaded)
        ⟨due, List.mem_cons_self .., own.symm⟩
      rw [claimLoaded_eq manual, Bool.false_or, ← marker]
      have asked (ttl : Int) := @course_ask deployed before who
        (.mark due (dispatchIdentity now due loaded) ttl)
      cases live : Live before (dispatchIdentity now due loaded) with
      | true =>
          have taken (ttl : Int) : course deployed who
              (ask (.mark due (dispatchIdentity now due loaded) ttl)) before =
              ⟨[⟨.mark due (dispatchIdentity now due loaded) ttl, .ok false⟩], .ok false, before⟩ := by
            rw [asked, perform_mark, if_pos live]
          rw [course_bind (congrArg Course.outcome (taken _)), taken]
          exact ⟨rfl, later, rfl⟩
      | false =>
          have taken (ttl : Int) : course deployed who
              (ask (.mark due (dispatchIdentity now due loaded) ttl)) before =
              ⟨[⟨.mark due (dispatchIdentity now due loaded) ttl, .ok true⟩], .ok true,
                (before.withRedis (Expiring.set before.redis before.now
                  (.dispatch (dispatchIdentity now due loaded)) (.identity (dispatchIdentity now due loaded))
                  (ttl * second))).note (.claimed (dispatchIdentity now due loaded) due.effectiveDueAt)⟩ := by
            rw [asked, perform_mark, if_neg (by simp [live])]
          rw [course_bind (congrArg Course.outcome (taken _)), taken]
          refine ⟨rfl, ⟨later.database, fun identity inside => ?_⟩, rfl⟩
          rw [← later.markers identity inside]
          obtain ⟨other, member, same⟩ := inside
          have different : Key.dispatch identity ≠ .dispatch (dispatchIdentity now due loaded) := by
            intro equal
            have ids : identity.targetId = loaded.target.id :=
              congrArg DispatchIdentity.targetId (Key.dispatch.inj equal)
            exact fresh (List.mem_map.2 ⟨other, member, by rw [same, ids, own]⟩)
          exact congrArg Option.isSome (Expiring.get_set_ne different)

/-- **One visit.** -/
theorem claimOne_alone (untouched : Untouched state before (due :: rest))
    (fresh : due.targetId ∉ rest.map DueTarget.targetId) :
    (course deployed who (claimOne now due) before).outcome = visitOf deployed state now due ∧
    Untouched state (course deployed who (claimOne now due) before).state rest ∧
    visits (course deployed who (claimOne now due) before).log = [due.targetId] := by
  obtain ⟨loads, same, visited⟩ := @load_alone deployed before who due
  have later : Untouched state before rest :=
    untouched.mono fun _ member => List.mem_cons_of_mem _ member
  have tried : (course deployed who (attempt (do
      let revision ← ask (.revision due.targetId)
      ask (.load due.targetId revision))) before).outcome =
      .ok (loadDue deployed state.database due) := by
    rw [course_attempt, loads, untouched.database]
  rw [claimOne, course_bind tried, course_attempt, same]
  cases found : loadDue deployed state.database due with
  | ok loaded =>
      obtain ⟨revision, -, held⟩ := bind_eq_ok.1 found
      obtain ⟨ends, kept, quiet⟩ := @claimLoaded_alone deployed state before now who due rest loaded
        (loadForExecution_id held) untouched fresh
      simp only [Course.after_outcome, Course.after_state, Course.after_log, visits_append, visited]
      refine ⟨?_, kept, by rw [quiet, List.append_nil]⟩
      rw [ends, visitOf, claimOf, found]
  | error raised =>
      simp only [Course.after_outcome, Course.after_state, Course.after_log, visits_append, visited]
      rw [visitOf, found]
      dsimp only
      cases known : raised.isAny [.targetRepositoryError] with
      | true => exact ⟨by rw [if_pos rfl, if_pos rfl]; rfl, later, rfl⟩
      | false => exact ⟨rfl, later, rfl⟩

/-- A visit ends as the target is claimed, or the target breaks it. -/
theorem visitOf_cases :
    (visitOf deployed state now due = .ok (claimOf deployed state now due) ∧
        ¬ Breaks deployed state due) ∨
      (∃ raised, visitOf deployed state now due = .error raised) ∧ Breaks deployed state due := by
  rw [visitOf, claimOf, Breaks]
  cases found : loadDue deployed state.database due with
  | ok loaded => exact .inl ⟨rfl, nofun⟩
  | error raised =>
      dsimp only
      cases known : raised.isAny [.targetRepositoryError] with
      | true =>
          refine .inl ⟨if_pos rfl, ?_⟩
          rintro ⟨other, same, unknown⟩
          rw [Except.error.inj same, unknown] at known
          exact absurd known nofun
      | false => exact .inr ⟨⟨raised, rfl⟩, raised, rfl, known⟩

/-- What a scan does with some targets: it visits them in order until it has claimed enough, or a
target breaks it. -/
def Scanned (deployed : Deployment) (state : Control) (now : Int) (visited : List DueTarget)
    (claimed : List TargetDispatch) (ran : Course signature (Result (List TargetDispatch)) Control) :
    Prop :=
  (∀ due ∈ visited, ¬ Breaks deployed state due) ∧
      ran.outcome = .ok (claimed ++ visited.filterMap (claimOf deployed state now)) ∧
      visits ran.log = visited.map DueTarget.targetId ∨
    (∃ due ∈ visited, Breaks deployed state due) ∧ ∃ raised, ran.outcome = .error raised

/-- A scan goes on with what is behind a target it has visited. -/
theorem Scanned.cons {claimed : List TargetDispatch} {visited : List DueTarget}
    {ran : Course signature (Result (List TargetDispatch)) Control}
    {log : List (Σ op : Op, Result (Answer op))} (whole : ¬ Breaks deployed state due)
    (seen : visits log = [due.targetId])
    (later : Scanned deployed state now visited
      (claimed ++ (claimOf deployed state now due).toList) ran) :
    Scanned deployed state now (due :: visited) claimed (ran.after log) := by
  rcases later with ⟨intact, ends, seen'⟩ | ⟨⟨breaker, member, breaks⟩, raised, ends⟩
  · refine .inl ⟨List.forall_mem_cons.2 ⟨whole, intact⟩, ?_, ?_⟩
    · rw [Course.after_outcome, ends, List.append_assoc]
      cases found : claimOf deployed state now due with
      | none => rw [List.filterMap_cons_none found]; rfl
      | some dispatch => rw [List.filterMap_cons_some found]; rfl
    · rw [Course.after_log, visits_append, seen, seen']
      rfl
  · exact .inr ⟨⟨breaker, List.mem_cons_of_mem _ member, breaks⟩, raised, ends⟩

/-- **One page.** -/
theorem claimPage_alone {limit : Nat} (page : List DueTarget) {claimed : List TargetDispatch}
    (room : claimed.length < limit) (untouched : Untouched state before (page ++ rest))
    (fresh : ((page ++ rest).map DueTarget.targetId).Nodup) :
    Untouched state (course deployed who (claimPage now limit page claimed) before).state rest ∧
      Scanned deployed state now
        (visitedUntil (claimOf deployed state now) (limit - claimed.length) page) claimed
        (course deployed who (claimPage now limit page claimed) before) := by
  induction page generalizing before claimed with
  | nil =>
      rw [claimPage, course_pure, visitedUntil_nil]
      exact ⟨untouched, .inl ⟨List.forall_mem_nil _, by simp, rfl⟩⟩
  | cons due page ih =>
      rw [List.cons_append, List.map_cons, List.nodup_cons] at fresh
      obtain ⟨ends, kept, seen⟩ := @claimOne_alone deployed state before now who due _ untouched
        fresh.1
      have left : limit - claimed.length = (limit - claimed.length - 1) + 1 := by omega
      rw [left, visitedUntil]
      rcases @visitOf_cases deployed state now due with ⟨ok, whole⟩ | ⟨⟨raised, failed⟩, breaks⟩
      · rw [claimPage, course_bind (ends.trans ok)]
        have claims := @Scanned.cons deployed state now due claimed
        cases found : claimOf deployed state now due with
        | none =>
            rw [found] at claims
            obtain ⟨kept', scanned⟩ := ih room kept fresh.2
            rw [left] at scanned
            exact ⟨kept', claims whole seen (by rwa [Option.toList_none, List.append_nil])⟩
        | some dispatch =>
            rw [found] at claims
            have length : (claimed ++ [dispatch]).length = claimed.length + 1 := by simp
            have once : (if (some dispatch).isSome = true then limit - claimed.length - 1
                else limit - claimed.length - 1 + 1) = limit - claimed.length - 1 := rfl
            dsimp only
            rw [once]
            by_cases full : limit ≤ (claimed ++ [dispatch]).length
            · have concluded : limit - claimed.length - 1 = 0 := by omega
              rw [if_pos full, course_pure, concluded, visitedUntil_zero]
              exact ⟨kept.behind, claims whole seen
                (.inl ⟨List.forall_mem_nil _, by simp, rfl⟩)⟩
            · obtain ⟨kept', scanned⟩ := ih (not_le.1 full) kept fresh.2
              rw [if_neg full]
              rw [length, ← Nat.sub_sub] at scanned
              exact ⟨kept', claims whole seen scanned⟩
      · rw [claimPage, course_bind_error (ends.trans failed)]
        exact ⟨kept.behind, .inr ⟨⟨due, List.mem_cons_self .., breaks⟩, raised, rfl⟩⟩

/-- What a scan has claimed before counts for what it returns. -/
theorem Scanned.append {claimed : List TargetDispatch} {first second : List DueTarget}
    {ran : Course signature (Result (List TargetDispatch)) Control}
    {log : List (Σ op : Op, Result (Answer op))} (whole : ∀ due ∈ first, ¬ Breaks deployed state due)
    (seen : visits log = first.map DueTarget.targetId)
    (later : Scanned deployed state now second
      (claimed ++ first.filterMap (claimOf deployed state now)) ran) :
    Scanned deployed state now (first ++ second) claimed (ran.after log) := by
  rcases later with ⟨intact, ends, seen'⟩ | ⟨⟨breaker, member, breaks⟩, raised, ends⟩
  · refine .inl ⟨List.forall_mem_append.2 ⟨whole, intact⟩, ?_, ?_⟩
    · rw [Course.after_outcome, ends, List.append_assoc, List.filterMap_append]
    · rw [Course.after_log, visits_append, seen, seen', List.map_append]
  · exact .inr ⟨⟨breaker, List.mem_append_right _ member, breaks⟩, raised, ends⟩

/-- What asks for no revision visits nothing. -/
theorem Scanned.quiet {claimed : List TargetDispatch} {visited : List DueTarget}
    {ran : Course signature (Result (List TargetDispatch)) Control}
    {log : List (Σ op : Op, Result (Answer op))} (seen : visits log = [])
    (later : Scanned deployed state now visited claimed ran) :
    Scanned deployed state now visited claimed (ran.after log) :=
  Scanned.append (List.forall_mem_nil _) seen (by rwa [List.filterMap_nil, List.append_nil])

theorem Behind.suffix {sorted : List DueTarget} {after : Option DueTarget}
    (behind : Behind sorted after rest) : rest <:+ sorted := by
  cases after with
  | none => exact behind ▸ List.suffix_rfl
  | some last =>
      obtain ⟨front, split⟩ := behind
      exact ⟨front ++ [last], by rw [split, List.append_assoc]; rfl⟩

/-- What is behind the last target of a page. -/
theorem Behind.next {sorted page : List DueTarget} {after : Option DueTarget}
    (behind : Behind sorted after (page ++ rest)) (some : page ≠ []) :
    Behind sorted page.getLast? rest := by
  rw [List.getLast?_eq_some_getLast some]
  obtain ⟨front, split⟩ := behind.suffix
  refine ⟨front ++ page.dropLast, ?_⟩
  rw [← split, List.append_assoc]
  conv_lhs => rw [← List.dropLast_append_getLast some]
  rw [List.append_assoc]
  rfl

/-- **The pages of a scan.** -/
theorem claimPages_alone (keyed : (state.database.targets.map Target.id).Nodup) {limit rounds left : Nat}
    {after : Option DueTarget} {claimed : List TargetDispatch} (enough : left ≤ rounds)
    (behind : Behind (dueTargets state.database now) after rest)
    (untouched : Untouched state before rest) :
    Scanned deployed state now (visitedUntil (claimOf deployed state now) (limit - claimed.length)
        (rest.take left)) claimed
      (course deployed who (claimPages now limit rounds left after claimed) before) := by
  induction rounds generalizing left after claimed rest before with
  | zero =>
      obtain rfl := Nat.le_zero.1 enough
      rw [claimPages, course_pure, List.take_zero, visitedUntil_nil]
      exact .inl ⟨List.forall_mem_nil _, by simp, rfl⟩
  | succ rounds ih =>
      rw [claimPages]
      by_cases stop : limit ≤ claimed.length ∨ left = 0
      · have none : visitedUntil (claimOf deployed state now) (limit - claimed.length)
            (rest.take left) = [] := by
          rcases stop with full | rfl
          · rw [Nat.sub_eq_zero_of_le full, visitedUntil_zero]
          · rw [List.take_zero, visitedUntil_nil]
        rw [if_pos stop, course_pure, none]
        exact .inl ⟨List.forall_mem_nil _, by simp, rfl⟩
      obtain ⟨room, more⟩ := not_or.1 stop
      have page : course deployed who (ask (.duePage now (min 100 left) after)) before =
          ⟨[⟨.duePage now (min 100 left) after, .ok (rest.take (min 100 left))⟩],
            .ok (rest.take (min 100 left)), before⟩ := by
        rw [← duePage_eq keyed behind, ← untouched.database]
        rfl
      rw [if_neg stop, course_bind (congrArg Course.outcome page), page]
      refine Scanned.quiet rfl ?_
      dsimp only
      have split : rest.take left = rest.take (min 100 left) ++
          (rest.drop (min 100 left)).take (left - min 100 left) := by
        rw [← List.take_add]
        congr 1
        omega
      have whole : rest = rest.take (min 100 left) ++ rest.drop (min 100 left) :=
        (List.take_append_drop ..).symm
      have fresh : ((rest.take (min 100 left) ++ rest.drop (min 100 left)).map
          DueTarget.targetId).Nodup := by
        rw [← whole]
        exact (dueTargets_ids keyed).sublist (behind.suffix.sublist.map _)
      have short : (rest.take (min 100 left)).length < min 100 left →
          rest.drop (min 100 left) = [] := by
        rw [List.length_take]
        exact fun fewer => List.drop_eq_nil_of_le (by omega)
      by_cases empty : rest.take (min 100 left) = []
      · have concluded : rest.take left = [] := by
          rw [split, empty, short (by rw [empty, List.length_nil]; omega), List.take_nil,
            List.append_nil]
        rw [if_pos (by rw [empty]; rfl), course_pure, concluded, visitedUntil_nil]
        exact .inl ⟨List.forall_mem_nil _, by simp, rfl⟩
      rw [if_neg (by simpa using empty)]
      obtain ⟨kept, scanned⟩ := @claimPage_alone deployed state before now who _ _ _ _
        (not_le.1 room) (whole ▸ untouched) fresh
      rw [split, visitedUntil_append]
      rcases scanned with ⟨intact, ends, seen⟩ | ⟨⟨breaker, member, breaks⟩, raised, ends⟩
      · rw [course_bind ends]
        refine Scanned.append intact seen ?_
        rw [Nat.sub_sub, ← List.length_append]
        by_cases fewer : (rest.take (min 100 left)).length < min 100 left
        · rw [if_pos fewer, course_pure, short fewer, List.take_nil, visitedUntil_nil]
          exact .inl ⟨List.forall_mem_nil _, by simp, rfl⟩
        · have full : (rest.take (min 100 left)).length = min 100 left :=
            le_antisymm (List.length_take_le ..) (not_lt.1 fewer)
          rw [if_neg fewer, full]
          exact ih (by omega) (Behind.next (whole ▸ behind) empty) kept
      · rw [course_bind_error ends]
        exact .inr ⟨⟨breaker, List.mem_append_left _ member, breaks⟩, raised, rfl⟩

end One

/-! ### One scan -/

section Scan

variable (deployed : Deployment) (state : Control) (who : Nat) (now : Int) (limit : Nat)

/-- The due targets a scan may come to. -/
def scannable : List DueTarget := (dueTargets state.database now).take (scanBudget limit)

/-- The targets a scan comes to. -/
abbrev visitedDue : List DueTarget :=
  visitedUntil (claimOf deployed state now) limit (scannable state now limit)

/-- **A scan is exact.** It visits the due targets in their order, none of them twice and none left
out, until it has claimed enough or its budget is spent, and it returns the first of them that can be
claimed. -/
structure ScansExactly : Prop where
  returned : (course deployed who (claimDue now limit) state).outcome =
    .ok (((scannable state now limit).filterMap (claimOf deployed state now)).take limit)
  visited : visits (course deployed who (claimDue now limit) state).log =
    (visitedDue deployed state now limit).map DueTarget.targetId
  next : visitedDue deployed state now limit <+: dueTargets state.database now
  ordered : (visitedDue deployed state now limit).Pairwise DueTarget.Before

variable {deployed state who now limit}

theorem claimDue_alone (keyed : (state.database.targets.map Target.id).Nodup) (least : 1 ≤ limit)
    (most : limit ≤ 500) :
    Scanned deployed state now
      (visitedUntil (claimOf deployed state now) limit (scannable state now limit)) []
      (course deployed who (claimDue now limit) state) := by
  rw [claimDue, if_pos ⟨least, most⟩]
  exact @claimPages_alone deployed state state now who (dueTargets state.database now) keyed limit
    (scanBudget limit) (scanBudget limit) none [] le_rfl rfl ⟨rfl, fun _ _ => rfl⟩

/-- A scan is exact if no target that it visits breaks it. -/
theorem scansExactly_iff (keyed : (state.database.targets.map Target.id).Nodup) (least : 1 ≤ limit)
    (most : limit ≤ 500) :
    ScansExactly deployed state who now limit ↔
      ∀ due ∈ visitedDue deployed state now limit, ¬ Breaks deployed state due := by
  rcases @claimDue_alone deployed state who now limit keyed least most with
    ⟨whole, ends, seen⟩ | ⟨⟨breaker, member, breaks⟩, raised, ends⟩
  · rw [List.nil_append, claimed_visitedUntil] at ends
    have next : visitedDue deployed state now limit <+: dueTargets state.database now :=
      (visitedUntil_isPrefix limit _).trans (List.take_prefix ..)
    exact iff_of_true ⟨ends, seen, next, (dueTargets_sorted keyed).sublist next.sublist⟩ whole
  · refine iff_of_false (fun exact => ?_) fun whole => whole breaker member breaks
    have returned := exact.returned
    rw [ends] at returned
    exact absurd returned nofun

end Scan

/-! ### Any number of scans -/

section Scans

/-- **Schedulers side by side.** What else runs may put the shared state into any other. -/
def schedulers (deployed : Deployment) :
    System signature (Result (List TargetDispatch)) Control Choice (Int × Nat) Control where
  program job := (claimDue job.1 job.2).run
  accept state _ := some state
  exec := exec deployed
  crash state _ := state
  env _ state := some state

/-- The worlds schedulers are in. -/
abbrev Schedulers : Type := World signature (Result (List TargetDispatch)) Control (Int × Nat)

/-- The marker of an identity has been set. -/
def Marked (log : List (Σ op : Op, Result (Answer op))) (identity : DispatchIdentity) : Prop :=
  ∃ due ttl, (⟨.mark due identity ttl, .ok true⟩ : Σ op : Op, Result (Answer op)) ∈ log

/-- A scheduler has set the marker of an identity. -/
def HasClaimed (world : Schedulers) (who : Nat) (identity : DispatchIdentity) : Prop :=
  ∃ task, world.tasks who = some task ∧ Marked task.log identity

/-- A scheduler has returned an identity. -/
def HasReturned (world : Schedulers) (who : Nat) (identity : DispatchIdentity) : Prop :=
  ∃ task claimed, world.tasks who = some task ∧ task.program = .done (.ok claimed) ∧
    identity ∈ claimed.map TargetDispatch.dispatchId

variable {deployed : Deployment} {world next last : Schedulers} {identity : DispatchIdentity}
  {first second : Nat}

/-- A scan returns what its phase has claimed. -/
def returns (phase : Phase) : Result (List TargetDispatch) → Prop
  | .ok claimed => ∃ clock page, phase = .scheduling clock page claimed
  | .error _ => True

theorem claimDue_returns (job : Int × Nat) :
    (protocol deployed.rules).Follows (.scheduling (some job.1) [] []) (claimDue job.1 job.2).run
      returns := by
  by_cases sized : 1 ≤ job.2 ∧ job.2 ≤ 500
  · refine Protocol.follows_mono (claimDue_follows sized) ?_
    rintro phase (raised | claimed) reached
    · exact trivial
    · exact ⟨_, reached⟩
  · rw [claimDue, if_neg sized]
    exact trivial

/-- Schedulers are disciplined by the protocol of the control plane. -/
def scansDiscipline (deployed : Deployment) : Discipline (schedulers deployed) Phase where
  toProtocol := protocol deployed.rules
  initial job := .scheduling (some job.1) [] []
  finished := returns
  adheres := claimDue_returns

theorem Marked.append {log later : List (Σ op : Op, Result (Answer op))}
    (marked : Marked log identity) : Marked (log ++ later) identity := by
  obtain ⟨due, ttl, member⟩ := marked
  exact ⟨due, ttl, List.mem_append_left _ member⟩

/-- What a scheduler holds as claimed it has set the marker of. -/
def Backed (log : List (Σ op : Op, Result (Answer op))) : Phase → Prop
  | .scheduling _ _ claimed => ∀ dispatch ∈ claimed, Marked log dispatch.dispatchId
  | .releasing .. | .gone => True
  | _ => False

theorem backed_next {phase : Phase} {log : List (Σ op : Op, Result (Answer op))} {op : Op}
    (reply : Result (Answer op)) (allowed : phase.allowed deployed.rules op)
    (backed : Backed log phase) : Backed (log ++ [⟨op, reply⟩]) (phase.next op reply) := by
  cases phase with
  | scheduling clock page claimed =>
      have kept : ∀ dispatch ∈ claimed, Marked (log ++ [⟨op, reply⟩]) dispatch.dispatchId :=
        fun dispatch member => (backed dispatch member).append
      have held : ∀ dispatch ∈ claimed.tail, Marked (log ++ [⟨op, reply⟩]) dispatch.dispatchId :=
        fun dispatch member => kept dispatch (List.mem_of_mem_tail member)
      cases op with
      | mark due identity ttl =>
          rcases reply with raised | taken
          · exact trivial
          cases taken with
          | false => exact kept
          | true =>
              refine List.forall_mem_append.2 ⟨kept, List.forall_mem_singleton.2 ?_⟩
              exact ⟨due, ttl, List.mem_append_right _ (List.mem_singleton_self _)⟩
      | load | revision =>
          rcases reply with raised | value
          · simp only [Phase.next, Phase.raised]
            split
            · exact kept
            · exact trivial
          · exact kept
      | enqueue =>
          rcases reply with raised | value
          · exact trivial
          · exact held
      | now | duePage =>
          rcases reply with raised | value
          · exact trivial
          · exact kept
      | _ => exact False.elim allowed
  | releasing | gone =>
      rcases reply with raised | value
      · exact trivial
      · exact trivial
  | _ => exact backed.elim

/-- **What is returned has been claimed.** -/
theorem HasReturned.claimed {events : List (Event Choice (Int × Nat) Control)} {state : Control}
    (ran : World.run (schedulers deployed) (.initial state) events = some last)
    (returned : HasReturned last first identity) : HasClaimed last first identity := by
  obtain ⟨task, claimed, found, ended, inside⟩ := returned
  have run := Discipline.Reaches.of_run (scansDiscipline deployed) (.refl _) ran
  have start := (scansDiscipline deployed).adherent_initial state
  have follows := run.adherent _ start first task found
  have backed := @Discipline.Reaches.log_invariant _ _ _ _ _ _ _ _ _ _ _ _
    (fun phase log => Backed log phase) run start (fun _ _ none => absurd none nofun)
    (fun _ => List.forall_mem_nil _)
    (fun _ _ _ reply allowed backed => backed_next reply allowed backed) first task found
  rw [ended] at follows
  obtain ⟨clock, page, phase⟩ := follows
  rw [phase] at backed
  obtain ⟨dispatch, member, rfl⟩ := List.mem_map.1 inside
  exact ⟨task, found, backed dispatch member⟩

theorem live_of_mark {state after : Control} {choice : Choice} {due : DueTarget} {ttl : Int}
    (executed : exec deployed state first (.mark due identity ttl) choice = some (.ok true, after)) :
    Live state identity = false := by
  cases choice with
  | proceed =>
      have performed : perform deployed state first (.mark due identity ttl) = (.ok true, after) :=
        Option.some.inj executed
      rw [perform_mark] at performed
      cases alive : Live state identity with
      | false => rfl
      | true =>
          rw [if_pos alive] at performed
          exact absurd (congrArg Prod.fst performed) nofun
  | fault =>
      have failed : ((.error ⟨.redisError, ""⟩, state) : Result Bool × Control) = (.ok true, after) :=
        Option.some.inj executed
      exact absurd (congrArg Prod.fst failed) nofun
  | outcome | row => exact absurd executed nofun

/-- **A claim is made where there is no live marker.** -/
theorem HasClaimed.of_step {event : Event Choice (Int × Nat) Control}
    (stepped : world.step (schedulers deployed) event = some next)
    (claims : HasClaimed next first identity) :
    HasClaimed world first identity ∨
      Live world.state identity = false ∧ ∃ choice, event = .work first choice := by
  obtain ⟨task, found, due, ttl, member⟩ := claims
  rcases World.log_of_step stepped found member with ⟨before, held, old⟩ | ⟨choice, after, mine, executed⟩
  · exact .inl ⟨before, held, due, ttl, old⟩
  · exact .inr ⟨live_of_mark executed, choice, mine⟩

/-- **Between two claims the marker has died.** -/
theorem claimed_apart (different : first ≠ second) {events : List (Event Choice (Int × Nat) Control)}
    (before : ¬ (HasClaimed world first identity ∧ HasClaimed world second identity))
    (ran : world.run (schedulers deployed) events = some last)
    (one : HasClaimed last first identity) (two : HasClaimed last second identity) :
    ∃ moment between, world.run (schedulers deployed) (events.take moment) = some between ∧
      Live between.state identity = false ∧
      (HasClaimed between first identity ∧ ¬ HasClaimed between second identity ∨
        ¬ HasClaimed between first identity ∧ HasClaimed between second identity) := by
  induction events generalizing world with
  | nil =>
      obtain rfl := Option.some.inj ran
      exact absurd ⟨one, two⟩ before
  | cons event events ih =>
      obtain ⟨next, stepped, rest⟩ := Option.bind_eq_some_iff.1 ran
      by_cases both : HasClaimed next first identity ∧ HasClaimed next second identity
      · -- The event is the later of the two claims, and no event makes both.
        refine ⟨0, world, rfl, ?_⟩
        rcases both.1.of_step stepped with held | ⟨dead, choice, mine⟩
        · rcases both.2.of_step stepped with held' | ⟨dead, -⟩
          · exact absurd ⟨held, held'⟩ before
          · exact ⟨dead, .inl ⟨held, fun held' => before ⟨held, held'⟩⟩⟩
        · rcases both.2.of_step stepped with held' | ⟨-, choice', yours⟩
          · exact ⟨dead, .inr ⟨fun held => before ⟨held, held'⟩, held'⟩⟩
          · obtain ⟨same, -⟩ := Event.work.inj (mine.symm.trans yours)
            exact absurd same different
      · obtain ⟨moment, between, reached, holds⟩ := ih both rest
        exact ⟨moment + 1, between, Option.bind_eq_some_iff.2 ⟨next, stepped, reached⟩, holds⟩

/-- **When a scan is exact.** A scan visits the due targets in their order and returns the first that
can be claimed, exactly if the loading of none that it visits fails otherwise than by the repository's
own exception. Of any number of schedulers one returns an identity, unless its marker has died between
the two claims. -/
theorem due_scan_iff {state : Control} {who : Nat} {now : Int} {limit : Nat}
    (keyed : (state.database.targets.map Target.id).Nodup) (least : 1 ≤ limit) (most : limit ≤ 500) :
    (ScansExactly deployed state who now limit ↔
      ∀ due ∈ visitedDue deployed state now limit, ¬ Breaks deployed state due) ∧
    ∀ (events : List (Event Choice (Int × Nat) Control)) (last : Schedulers) (first second : Nat)
      (identity : DispatchIdentity),
      World.run (schedulers deployed) (.initial state) events = some last → first ≠ second →
      HasReturned last first identity → HasReturned last second identity →
      ∃ moment between, World.run (schedulers deployed) (.initial state) (events.take moment) =
          some between ∧
        Live between.state identity = false ∧
        (HasClaimed between first identity ∧ ¬ HasClaimed between second identity ∨
          ¬ HasClaimed between first identity ∧ HasClaimed between second identity) := by
  refine ⟨scansExactly_iff keyed least most, ?_⟩
  intro events last first second identity ran different one two
  refine claimed_apart different ?_ ran (one.claimed ran) (two.claimed ran)
  rintro ⟨⟨task, found, -⟩, -⟩
  exact absurd found nofun

/-- What a scheduler has returned. -/
def returnedBy (world : Schedulers) (who : Nat) : Option (List DispatchIdentity) :=
  (world.tasks who).bind fun task =>
    match task.program with
    | .done (.ok claimed) => some (claimed.map TargetDispatch.dispatchId)
    | _ => none

theorem hasReturned_of_returnedBy {who : Nat} {claimed : List DispatchIdentity}
    (returned : returnedBy world who = some claimed) (member : identity ∈ claimed) :
    HasReturned world who identity := by
  obtain ⟨task, found, ended⟩ := Option.bind_eq_some_iff.1 returned
  split at ended
  · next dispatches concluded =>
    obtain rfl := Option.some.inj ended
    exact ⟨task, dispatches, found, concluded, member⟩
  · exact absurd ended nofun

/-- Two schedulers one after the other, and the markers are lost between them. -/
def scannedTwice : List (Event Choice (Int × Nat) Control) :=
  .start (epoch, 25) :: List.replicate 4 (.work 0 .proceed) ++
    .env quoteControl :: .start (epoch, 25) :: List.replicate 4 (.work 1 .proceed)

/-- The one target is claimed, and by both of them. -/
theorem due_scan_iff_quote :
    ScansExactly quoteDeployment quoteControl 0 epoch 25 ∧
      visitedDue quoteDeployment quoteControl epoch 25 = [quoteTarget.due] ∧
      ∃ moment between, World.run (schedulers quoteDeployment) (.initial quoteControl)
          (scannedTwice.take moment) = some between ∧
        Live between.state ⟨1, 1, 0, "normal"⟩ = false ∧
        (HasClaimed between 0 ⟨1, 1, 0, "normal"⟩ ∧ ¬ HasClaimed between 1 ⟨1, 1, 0, "normal"⟩ ∨
          ¬ HasClaimed between 0 ⟨1, 1, 0, "normal"⟩ ∧
            HasClaimed between 1 ⟨1, 1, 0, "normal"⟩) := by
  obtain ⟨exact, apart⟩ := @due_scan_iff quoteDeployment quoteControl 0 epoch 25 (by decide)
    (by decide) (by decide)
  have visited : visitedDue quoteDeployment quoteControl epoch 25 = [quoteTarget.due] := by
    decide +kernel
  have ran : ((World.initial quoteControl).run (schedulers quoteDeployment) scannedTwice).map
      (fun world => (returnedBy world 0, returnedBy world 1)) =
        some (some [⟨1, 1, 0, "normal"⟩], some [⟨1, 1, 0, "normal"⟩]) := by
    decide +kernel
  obtain ⟨last, ran, returned⟩ := Option.map_eq_some_iff.1 ran
  obtain ⟨one, two⟩ := Prod.mk.inj returned
  refine ⟨exact.2 ?_, visited, apart scannedTwice last 0 1 _ ran (by decide)
    (hasReturned_of_returnedBy one (List.mem_singleton_self _))
    (hasReturned_of_returnedBy two (List.mem_singleton_self _))⟩
  rw [visited]
  refine List.forall_mem_singleton.2 ?_
  rintro ⟨raised, fails, -⟩
  have loads : (loadDue quoteDeployment quoteControl.database quoteTarget.due).isOk = true := by
    decide
  rw [fails] at loads
  exact absurd loads nofun

/-- A target, of an account of its own, with a contract that the registry does not have, due before one
that can be claimed. -/
def strangeTarget : Target :=
  { quoteTarget with id := 3, sourceAccountId := some 21, providerContractVersion := 7 }

def laterTarget : Target := { quoteTarget with priority := 1 }

def strangeControl : Control :=
  { quoteControl with database := { quoteTables with
      accounts := [⟨20, 10, true, .verified⟩, ⟨21, 10, true, .verified⟩]
      targets := [strangeTarget, laterTarget] } }

/-- **A stored target that the registry refuses ends the scan for all of them.** -/
theorem strange_target_ends_scan :
    (strangeControl.database.targets.map Target.id).Nodup ∧
    (scannable strangeControl epoch 25).filterMap (claimOf quoteDeployment strangeControl epoch) =
      [⟨1, 1, 0, "normal", ⟨1, 1, 0, "normal"⟩⟩] ∧
    ¬ ScansExactly quoteDeployment strangeControl 0 epoch 25 := by
  have visited : visitedDue quoteDeployment strangeControl epoch 25 =
      [strangeTarget.due, laterTarget.due] := by
    decide +kernel
  refine ⟨by decide, by decide +kernel, fun exact => ?_⟩
  refine (scansExactly_iff (by decide) (by decide) (by decide)).1 exact strangeTarget.due ?_ ?_
  · rw [visited]
    exact List.mem_cons_self ..
  · exact ⟨⟨.targetConfigError, "operation_contract_unknown"⟩, rfl, rfl⟩

end Scans

end NewsCollect.Collection
