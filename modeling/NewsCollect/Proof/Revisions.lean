/-
**Revisions are compare and swap.**

A target is revised and paused by operators while workers start runs of it and store their pages.
Whatever the order of the transactions, a revision moves the number of the target by one, from the
number it expects, when nothing of the target is in flight; and a worker starts a run, and stores a
page of it, at the number its dispatch has only.

* `Consistent`: the running runs have been dispatched for the number their target has.
* `Swapped`: what one transaction of a run does to the targets.
* `revisions_swapped`.
-/

import NewsCollect.Proof.Effects

namespace NewsCollect.Collection.Operators

open Calendar Providers

/-! ### What is known of the tables -/

/-- What a worker has in hand is of its dispatch. -/
structure Fits (db : Database) (held : Held) : Prop where
  target_eq : held.loaded.target.id = held.dispatch.targetId
  named : held.dispatch.dispatchId.revision = held.dispatch.configRevision
  run : ∀ runId cursor, held.run = some (runId, cursor) → ∃ run identity,
    db.run runId = some run ∧ run.targetId = some held.dispatch.targetId ∧
    run.dispatchIdentity = some identity ∧ identity.revision = held.dispatch.configRevision

/-- **What is known of the tables.** Retired targets, and only these, have been retired at some time;
the running runs of a target have been dispatched for the number it has. -/
structure Consistent (desk : Desk) : Prop where
  issued : desk.database.Issued
  retired : ∀ id target, desk.database.target id = some target →
    (target.retiredAt.isSome = true ↔ target.status = .retired)
  current : ∀ runId run targetId target, desk.database.run runId = some run →
    run.targetId = some targetId → run.status = .running →
    desk.database.target targetId = some target →
    ∃ identity, run.dispatchIdentity = some identity ∧ identity.revision = target.configRevision
  fits : ∀ who held, desk.held who = some held → Fits desk.database held

/-- The tables before anything has happened: no worker has anything in hand. -/
structure Starts (desk : Desk) : Prop extends Consistent desk where
  idle : ∀ who, desk.held who = none

section Preserved

variable {revived : Uuid → Prop} {db db' : Database} {desk next : Desk} {deployed : Deployment}

/-- The target before a transaction that keeps its configuration. -/
theorem Keeps.target (keeps : Keeps revived db db') {id : Uuid} {target' : Target}
    (found : db'.target id = some target') : ∃ target, db.target id = some target ∧
      target.configured = target'.configured := by
  have same := keeps.configured_eq id
  rw [found] at same
  obtain ⟨target, held, kept⟩ := Option.map_eq_some_iff.1 same.symm
  exact ⟨target, held, kept⟩

theorem Keeps.run (keeps : Keeps revived db db') {id : Uuid} {run' : Run}
    (found : db'.run id = some run') : ∃ run, db.run id = some run ∧
      run.identity = run'.identity := by
  have same := keeps.identity_eq id
  rw [found] at same
  obtain ⟨run, held, kept⟩ := Option.map_eq_some_iff.1 same.symm
  exact ⟨run, held, kept⟩

/-- What is in hand stays so while the runs keep what they were started with. -/
theorem Fits.mono {held : Held} (fits : Fits db held)
    (kept : ∀ id run, db.run id = some run →
      ∃ run', db'.run id = some run' ∧ run'.identity = run.identity) : Fits db' held where
  target_eq := fits.target_eq
  named := fits.named
  run runId cursor bound := by
    obtain ⟨run, identity, found, target, dispatched, revision⟩ := fits.run runId cursor bound
    obtain ⟨run', found', same⟩ := kept runId run found
    exact ⟨run', identity, found', (congrArg RunIdentity.targetId same).trans target,
      (congrArg RunIdentity.dispatchIdentity same).trans dispatched, revision⟩

theorem revision_of_configured {target target' : Target}
    (same : target.configured = target'.configured) :
    target.configRevision = target'.configRevision :=
  (congrArg Target.configRevision same :
    target.configured.configRevision = target'.configured.configRevision)

theorem status_of_configured {target target' : Target}
    (same : target.configured = target'.configured) : target.status = target'.status :=
  (congrArg Target.status same : target.configured.status = target'.configured.status)

theorem retiredAt_of_configured {target target' : Target}
    (same : target.configured = target'.configured) : target.retiredAt = target'.retiredAt :=
  (congrArg Target.retiredAt same : target.configured.retiredAt = target'.configured.retiredAt)

/-- A run in hand is of the number its target has, where it may be revived. -/
theorem Consistent.licensed (consistent : Consistent desk) {runId : Uuid}
    (licensed : Licensed desk runId) {run : Run} {targetId : Uuid} {target : Target}
    (found : desk.database.run runId = some run) (of : run.targetId = some targetId)
    (held : desk.database.target targetId = some target) :
    ∃ identity, run.dispatchIdentity = some identity ∧
      identity.revision = target.configRevision := by
  obtain ⟨who, hand, cursor, current, inHand, bound, there, revision⟩ := licensed
  have fits := consistent.fits who hand inHand
  obtain ⟨run', identity, found', of', dispatched, number⟩ := fits.run runId cursor bound
  obtain rfl : run' = run := Option.some.inj (found'.symm.trans found)
  have same : hand.loaded.target.id = targetId :=
    fits.target_eq.trans (Option.some.inj (of'.symm.trans of))
  obtain rfl : current = target := Option.some.inj ((same ▸ there).symm.trans held)
  exact ⟨identity, dispatched, number.trans revision.symm⟩

/-- What is known is kept by most transactions. -/
theorem Consistent.keeps (consistent : Consistent desk)
    (keeps : Keeps (Licensed desk) desk.database db) :
    Consistent (desk.commit (.ok (.done, db))).2 where
  issued := keeps.issued consistent.issued
  retired id target' found := by
    obtain ⟨target, held, same⟩ := keeps.target found
    rw [← retiredAt_of_configured same, ← status_of_configured same]
    exact consistent.retired id target held
  current runId run' targetId target' found' of' runs' there' := by
    obtain ⟨run, found, same⟩ := keeps.run found'
    obtain ⟨target, there, kept⟩ := keeps.target there'
    have of : run.targetId = some targetId := (congrArg RunIdentity.targetId same).trans of'
    have known : ∃ identity, run.dispatchIdentity = some identity ∧
        identity.revision = target.configRevision := by
      rcases keeps.running runId run' found' runs' with licensed | ⟨old, held, runs⟩
      · exact consistent.licensed licensed found of there
      · obtain rfl : old = run := Option.some.inj (held.symm.trans found)
        exact consistent.current runId old targetId target found of runs there
    obtain ⟨identity, dispatched, revision⟩ := known
    exact ⟨identity, (congrArg RunIdentity.dispatchIdentity same).symm.trans dispatched,
      revision.trans (revision_of_configured kept)⟩
  fits who held inHand := (consistent.fits who held inHand).mono fun id run found => by
    have same := keeps.identity_eq id
    rw [found] at same
    exact Option.map_eq_some_iff.1 same

/-- What is in hand may change, if it fits. -/
theorem Consistent.hold (consistent : Consistent desk) (who : Nat) {hand : Option Held}
    (fits : ∀ held, hand = some held → Fits desk.database held) :
    Consistent (desk.hold who hand) where
  issued := consistent.issued
  retired := consistent.retired
  current := consistent.current
  fits other held inHand := by
    by_cases same : other = who
    · subst same
      have set : (desk.hold other hand).held other = hand := Function.update_self ..
      exact fits held (set.symm.trans inHand)
    · have kept : (desk.hold who hand).held other = desk.held other :=
        Function.update_of_ne same ..
      exact consistent.fits other held (kept.symm.trans inHand)

/-! ### What each transaction preserves -/

/-- A dispatch that has been taken fits the target that has been loaded for it. -/
theorem fits_of_load {dispatch : TargetDispatch} {mode : RunMode} {loaded : LoadedTarget}
    (named : dispatch.dispatchId.revision = dispatch.configRevision)
    (found : loadForExecution deployed.registry desk.database dispatch.targetId
      dispatch.configRevision = .ok loaded) :
    Fits desk.database ⟨dispatch, mode, loaded, none⟩ where
  target_eq := loadForExecution_id found
  named := named
  run := nofun

/-- A worker adopts a run, or starts one, of the number its dispatch has. -/
theorem Consistent.started (consistent : Consistent desk) {held : Held}
    (fits : Fits desk.database held) {started : Uuid × Option Cursor}
    (ok : startRun desk.database desk.now held.loaded held.dispatch held.mode =
      .ok (started, db)) :
    Consistent (desk.commit (.ok (.done, db))).2 ∧
      ∃ target run identity, desk.database.target held.dispatch.targetId = some target ∧
        target.configRevision = held.dispatch.configRevision ∧ db.run started.1 = some run ∧
        run.targetId = some held.dispatch.targetId ∧ run.dispatchIdentity = some identity ∧
        identity.revision = target.configRevision := by
  obtain ⟨target, found, revision, -, adopted | added⟩ := startRun_eq_ok ok
  · obtain ⟨run, running, same, rfl⟩ := adopted
    have facts := List.find?_some running
    simp only [Bool.decide_and, Bool.and_eq_true, decide_eq_true_eq] at facts
    have there : desk.database.run run.id = some run :=
      Table.find_of_mem Run.id consistent.issued.distinct (List.mem_of_find?_eq_some running)
    have of : run.targetId = some held.dispatch.targetId := by
      rw [facts.1, Database.target_id _ found, fits.target_eq]
    have held' : desk.database.target held.dispatch.targetId = some target :=
      fits.target_eq ▸ found
    obtain ⟨identity, dispatched, number⟩ :=
      consistent.current run.id run _ target there of facts.2.2 held'
    exact ⟨consistent.keeps (.refl _), target, run, identity, held', revision, same ▸ there, of,
      dispatched, number⟩
  · obtain ⟨-, same, rfl⟩ := added
    have held' : desk.database.target held.dispatch.targetId = some target :=
      fits.target_eq ▸ found
    have of : (newRun target held.dispatch held.mode desk.now desk.database.fresh).targetId =
        some held.dispatch.targetId :=
      congrArg some ((Database.target_id _ found).trans fits.target_eq)
    have new : (desk.database.addRun (newRun target held.dispatch held.mode desk.now)).run
        desk.database.fresh =
        some (newRun target held.dispatch held.mode desk.now desk.database.fresh) :=
      Table.find_append_fresh (Database.run_fresh consistent.issued)
    have grows : Grows desk.database
        (desk.database.addRun (newRun target held.dispatch held.mode desk.now)) :=
      .addRun fun _ => rfl
    refine ⟨⟨grows.issued consistent.issued, consistent.retired, ?_, fun who other inHand =>
      (consistent.fits who other inHand).mono grows.identity_kept⟩, target, _, _, held', revision,
      same ▸ new, of, rfl, fits.named.trans revision.symm⟩
    intro runId run targetId other found' of' runs there
    by_cases fresh : runId = desk.database.fresh
    · subst fresh
      obtain rfl := Option.some.inj (new.symm.trans found')
      obtain rfl : held.dispatch.targetId = targetId := Option.some.inj (of.symm.trans of')
      obtain rfl : target = other := Option.some.inj (held'.symm.trans there)
      exact ⟨_, rfl, fits.named.trans revision.symm⟩
    · have kept : Table.find Run.id (desk.database.runs ++
          [newRun target held.dispatch held.mode desk.now desk.database.fresh]) runId =
          Table.find Run.id desk.database.runs runId := Table.find_append_ne (Ne.symm fresh)
      have old : desk.database.run runId = some run := kept.symm.trans found'
      exact consistent.current runId run targetId other old of' runs there

/-- A write to one target. -/
theorem target_setTarget {id other : Uuid} {change : Target → Target}
    (keeps : ∀ target, (change target).id = target.id) {target' : Target}
    (found : (db.setTarget id change).target other = some target') :
    (other = id ∧ ∃ target, db.target id = some target ∧ target' = change target) ∨
      other ≠ id ∧ db.target other = some target' := by
  by_cases same : other = id
  · subst same
    rw [db.target_setTarget_same change keeps] at found
    obtain ⟨target, held, rfl⟩ := Option.map_eq_some_iff.1 found
    exact .inl ⟨rfl, target, held, rfl⟩
  · rw [db.target_setTarget_ne change keeps same] at found
    exact .inr ⟨same, found⟩

theorem target_setTarget_some {id : Uuid} (change : Target → Target)
    (keeps : ∀ target, (change target).id = target.id) {target : Target}
    (found : db.target id = some target) :
    (db.setTarget id change).target id = some (change target) := by
  rw [db.target_setTarget_same change keeps, found]
  rfl

/-- No run of a target with none in flight is running. -/
theorem stopped_of_inFlight {targetId : Uuid} (calm : db.inFlight targetId = false) {run : Run}
    (member : run ∈ db.runs) (of : run.targetId = some targetId) : run.status ≠ .running := by
  intro runs
  have busy : db.inFlight targetId = true :=
    List.any_eq_true.2 ⟨run, member, by simp [of, runs]⟩
  exact Bool.false_ne_true (calm.symm.trans busy)

/-- A write to a target with no run in flight, that keeps its retirement in order. -/
theorem Consistent.setTarget (consistent : Consistent desk) {targetId : Uuid}
    {change : Target → Target} (keeps : ∀ target, (change target).id = target.id)
    (calm : desk.database.inFlight targetId = false)
    (retires : ∀ target, desk.database.target targetId = some target →
      ((change target).retiredAt.isSome = true ↔ (change target).status = .retired)) :
    Consistent (desk.commit (.ok (.done, desk.database.setTarget targetId change))).2 where
  issued := consistent.issued.of_eq rfl rfl (Nat.le_refl _)
  retired id target' found := by
    rcases target_setTarget keeps found with ⟨-, target, held, rfl⟩ | ⟨-, held⟩
    · exact retires target held
    · exact consistent.retired id target' held
  current runId run id target' found of runs there := by
    rcases target_setTarget keeps there with ⟨rfl, -⟩ | ⟨-, held⟩
    · exact absurd runs (stopped_of_inFlight calm (Table.mem_of_find Run.id found) of)
    · exact consistent.current runId run id target' found of runs held
  fits who held inHand := (consistent.fits who held inHand).mono fun _ run found =>
    ⟨run, found, rfl⟩

theorem Consistent.revised (consistent : Consistent desk) {targetId : Uuid} {expected next : Int}
    {values : TargetRevision} (ok : revise deployed.registry desk.database desk.now targetId
      expected values = .ok (next, db)) : Consistent (desk.commit (.ok (.done, db))).2 := by
  obtain ⟨target, held, same, -, calm, -, status, strategy, mode, rfl, -⟩ := revise_eq_ok ok
  refine consistent.setTarget (fun _ => rfl) calm fun target _ => ?_
  show (if status = .retired then some desk.now else none).isSome = true ↔ status = .retired
  by_cases retired : status = .retired
  · simp [retired]
  · simp [retired]

theorem Consistent.paused (consistent : Consistent desk) {targetId : Uuid} {expected : Int}
    (ok : pauseForContinuationAbandon desk.database targetId expected = .ok db) :
    Consistent (desk.commit (.ok (.done, db))).2 := by
  obtain ⟨target, held, -, calm, ⟨-, rfl⟩ | ⟨active, rfl⟩⟩ := pause_eq_ok ok
  · exact consistent.keeps (.refl _)
  · refine consistent.setTarget (fun _ => rfl) calm fun other there => ?_
    obtain rfl : target = other := Option.some.inj (held.symm.trans there)
    have known := consistent.retired targetId target held
    rw [active] at known
    simpa [Target.pause] using known

/-- An abandonment keeps the targets and the runs. -/
theorem abandoned_keeps {targetId : Uuid} {expected : Int}
    {tokens : List PendingContinuationToken} {reason : String} {count : Nat}
    (ok : abandonPendingContinuations deployed.rules desk.database targetId expected tokens reason =
      .ok (count, db)) : Keeps revived desk.database db := by
  obtain rfl | rfl := abandon_eq_ok ok
  · exact .refl _
  · exact ⟨fun _ => rfl, fun _ => rfl, fun _ run found runs => .inr ⟨run, found, runs⟩,
      fun issued => issued.of_eq rfl rfl (Nat.le_refl _)⟩

/-- A page is stored by a worker whose run is in hand. -/
theorem stored_keeps {who : Nat} {held : Held} {page : PageWrite} {runId : Uuid}
    {cursor : Option Cursor} (inHand : desk.held who = some held)
    (bound : held.run = some (runId, cursor))
    (ok : persistResult deployed.rules desk.database desk.now held.loaded held.dispatch runId
      held.mode page = .ok db) : Keeps (Licensed desk) desk.database db := by
  obtain ⟨target, run, counts, db₁, db₂, found, -, revision, -⟩ := persistResult_eq_ok ok
  exact persistResult_keeps ok ⟨who, held, cursor, target, inHand, bound, found, revision⟩

/-- **What is known is preserved by every transaction.** -/
theorem Consistent.acted (consistent : Consistent desk) {act : Act} {reply : Result Returned}
    (acted : desk.act deployed act = some (reply, next)) : Consistent next := by
  cases effect_of_act acted with
  | refused => exact consistent
  | waited elapsed =>
      exact ⟨consistent.issued, consistent.retired, consistent.current, consistent.fits⟩
  | taken who dispatch mode loaded named found =>
      refine consistent.hold who fun held same => ?_
      obtain rfl := Option.some.inj same
      exact fits_of_load named found
  | left who =>
      exact consistent.hold who fun held same => absurd same.symm (Option.some_ne_none held)
  | started who held inHand started db ok =>
      have fits := consistent.fits who held inHand
      obtain ⟨after, target, run, identity, found, revision, there, of, dispatched, number⟩ :=
        consistent.started fits ok
      refine after.hold who fun hand same => ?_
      obtain rfl := Option.some.inj same
      refine ⟨fits.target_eq, fits.named, fun runId cursor bound => ?_⟩
      obtain rfl := Option.some.inj bound
      exact ⟨run, identity, there, of, dispatched, number.trans revision⟩
  | stored who page held inHand runId cursor bound db paged ok =>
      exact consistent.keeps (stored_keeps inHand bound ok)
  | revised targetId expected values revision db ok => exact consistent.revised ok
  | paused targetId expected db ok => exact consistent.paused ok
  | abandoned targetId expected tokens reason count db ok =>
      exact consistent.keeps (abandoned_keeps ok)
  | resolved who held inHand runId cursor bound config db ok =>
      exact consistent.keeps (resolvedRunConfig_keeps ok)
  | kept act db quiet keeps continues => exact consistent.keeps keeps

end Preserved

/-! ### What one transaction does to the targets -/

/-- The number a revision of the target has expected, if it has succeeded. -/
def expectedBy (targetId : Uuid) (entry : Happened) : Option Int :=
  match entry.act, entry.reply with
  | .revise id expected _, .ok _ => if id = targetId then some expected else none
  | _, _ => none

/-- A status that is kept, or that moves along the transitions. -/
def MovesTo (status status' : TargetStatus) : Prop :=
  status' = status ∨ status' ∈ status.transitions

/-- **What one transaction of a run does to the targets.** -/
structure Swapped (entry : Happened) : Prop where
  revised : ∀ targetId expected values revision, entry.act = .revise targetId expected values →
    entry.reply = .ok (.revised revision) → ∃ target target',
      entry.before.database.target targetId = some target ∧ target.configRevision = expected ∧
      entry.after.database.target targetId = some target' ∧ target'.configRevision = expected + 1 ∧
      revision = expected + 1 ∧
      (∀ run ∈ entry.before.database.runs, run.targetId = some targetId →
        run.status ≠ .running) ∧
      ∀ cursor ∈ entry.before.database.cursors, cursor.targetId = some targetId →
        ∀ continuation, cursor.continuation = some continuation → continuation = []
  refused : ∀ raised, entry.reply = .error raised → entry.after = entry.before
  moved : ∀ id target, entry.before.database.target id = some target → ∃ target',
    entry.after.database.target id = some target' ∧ MovesTo target.status target'.status ∧
    (target'.retiredAt.isSome = true ↔ target'.status = .retired)
  started : ∀ who runId, entry.act = .start who → entry.reply = .ok (.started runId) →
    ∃ held target run identity, entry.before.held who = some held ∧
      entry.before.database.target held.dispatch.targetId = some target ∧
      target.configRevision = held.dispatch.configRevision ∧
      entry.after.database.run runId = some run ∧ run.targetId = some held.dispatch.targetId ∧
      run.dispatchIdentity = some identity ∧ identity.revision = target.configRevision
  stored : ∀ who page, entry.act = .persist who page → entry.reply = .ok .done →
    ∃ held runId cursor target run identity, entry.before.held who = some held ∧
      held.run = some (runId, cursor) ∧
      entry.before.database.target held.dispatch.targetId = some target ∧
      target.configRevision = held.dispatch.configRevision ∧
      entry.before.database.run runId = some run ∧ run.targetId = some held.dispatch.targetId ∧
      run.dispatchIdentity = some identity ∧ identity.revision = target.configRevision

section Steps

variable {deployed : Deployment} {desk next : Desk} {act : Act} {reply : Result Returned}

theorem target_of_keeps {revived : Uuid → Prop} {db db' : Database} (keeps : Keeps revived db db')
    {id : Uuid} {target : Target} (found : db.target id = some target) :
    ∃ target', db'.target id = some target' ∧ MovesTo target.status target'.status ∧
      target'.configRevision = target.configRevision := by
  have same := keeps.configured_eq id
  rw [found] at same
  obtain ⟨target', held, kept⟩ := Option.map_eq_some_iff.1 same
  exact ⟨target', held, .inl (status_of_configured kept), revision_of_configured kept⟩

/-- **A target keeps its number, unless a revision that expects it moves it by one.** Its status is
kept, or moves along the transitions. -/
theorem target_of_act (acted : desk.act deployed act = some (reply, next)) {id : Uuid}
    {target : Target} (found : desk.database.target id = some target) :
    ∃ target', next.database.target id = some target' ∧ MovesTo target.status target'.status ∧
      ((expectedBy id ⟨desk, act, reply, next⟩ = none ∧
          target'.configRevision = target.configRevision) ∨
        expectedBy id ⟨desk, act, reply, next⟩ = some target.configRevision ∧
          target'.configRevision = target.configRevision + 1) := by
  cases effect_of_act acted with
  | refused _ raised =>
      refine ⟨target, found, .inl rfl, .inl ⟨?_, rfl⟩⟩
      unfold expectedBy
      split
      · next impossible => exact absurd impossible nofun
      · rfl
  | waited | taken | left => exact ⟨target, found, .inl rfl, .inl ⟨rfl, rfl⟩⟩
  | started who held inHand started db ok =>
      obtain ⟨-, -, -, -, ⟨-, -, -, rfl⟩ | ⟨-, -, rfl⟩⟩ := startRun_eq_ok ok
      · exact ⟨target, found, .inl rfl, .inl ⟨rfl, rfl⟩⟩
      · exact ⟨target, found, .inl rfl, .inl ⟨rfl, rfl⟩⟩
  | stored who page held inHand runId cursor bound db paged ok =>
      obtain ⟨target', found', moves, same⟩ := target_of_keeps (stored_keeps inHand bound ok) found
      exact ⟨target', found', moves, .inl ⟨rfl, same⟩⟩
  | revised targetId expected values revision db ok =>
      obtain ⟨old, held, same, -, -, -, status, strategy, mode, rfl, proposed⟩ := revise_eq_ok ok
      by_cases here : targetId = id
      · subst here
        obtain rfl : old = target := Option.some.inj (held.symm.trans found)
        refine ⟨_, target_setTarget_some (values.apply status strategy mode desk.now)
          (fun _ => rfl) held, proposedStatus_eq_ok proposed, .inr ⟨?_, rfl⟩⟩
        exact (if_pos rfl).trans (congrArg some same.symm)
      · exact ⟨target, (desk.database.target_setTarget_ne
          (values.apply status strategy mode desk.now) (fun _ => rfl) (Ne.symm here)).trans found,
          .inl rfl, .inl ⟨if_neg here, rfl⟩⟩
  | paused targetId expected db ok =>
      obtain ⟨old, held, -, -, ⟨-, rfl⟩ | ⟨active, rfl⟩⟩ := pause_eq_ok ok
      · exact ⟨target, found, .inl rfl, .inl ⟨rfl, rfl⟩⟩
      · by_cases here : targetId = id
        · subst here
          obtain rfl : old = target := Option.some.inj (held.symm.trans found)
          refine ⟨_, target_setTarget_some Target.pause (fun _ => rfl) held, ?_, .inl ⟨rfl, rfl⟩⟩
          rw [active]
          exact .inr List.mem_cons_self
        · exact ⟨target, (desk.database.target_setTarget_ne Target.pause (fun _ => rfl)
            (Ne.symm here)).trans found, .inl rfl, .inl ⟨rfl, rfl⟩⟩
  | abandoned targetId expected tokens reason count db ok =>
      obtain ⟨target', found', moves, same⟩ :=
        @target_of_keeps (fun _ => False) _ _ (abandoned_keeps ok) _ _ found
      exact ⟨target', found', moves, .inl ⟨rfl, same⟩⟩
  | resolved who held inHand runId cursor bound config db ok =>
      obtain ⟨target', found', moves, same⟩ :=
        @target_of_keeps (fun _ => False) _ _ (resolvedRunConfig_keeps ok) _ _ found
      exact ⟨target', found', moves, .inl ⟨rfl, same⟩⟩
  | kept _ db quiet keeps continues =>
      obtain ⟨target', found', moves, same⟩ := target_of_keeps keeps found
      refine ⟨target', found', moves, .inl ⟨?_, same⟩⟩
      unfold expectedBy
      split
      · next revises _ =>
        rw [show act = _ from revises] at quiet
        exact absurd quiet nofun
      · rfl

/-- What a transaction does to the targets, where what is known of the tables holds before it. -/
theorem swapped_of_act (consistent : Consistent desk)
    (acted : desk.act deployed act = some (reply, next)) : Swapped ⟨desk, act, reply, next⟩ where
  revised := by
    rintro targetId expected values revision rfl rfl
    cases effect_of_act acted with
    | revised targetId expected values revision db ok =>
        obtain ⟨target, held, same, rfl, calm, settled, status, strategy, mode, rfl, -⟩ :=
          revise_eq_ok ok
        refine ⟨target, _, held, same, target_setTarget_some (values.apply status strategy mode _)
          (fun _ => rfl) held, congrArg (· + 1) same, rfl, fun run member of =>
            stopped_of_inFlight calm member of, fun cursor member of continuation there => ?_⟩
        by_contra pending
        have waits : desk.database.pendingContinuation targetId = true :=
          List.any_eq_true.2 ⟨cursor, member, by simpa [of, there] using pending⟩
        exact Bool.false_ne_true (settled.symm.trans waits)
  refused := by
    rintro raised rfl
    cases effect_of_act acted with
    | refused => rfl
  moved id target found := by
    obtain ⟨target', found', moves, -⟩ := target_of_act acted found
    exact ⟨target', found', moves, (consistent.acted acted).retired id target' found'⟩
  started := by
    rintro who runId rfl rfl
    cases effect_of_act acted with
    | started who held inHand started db ok =>
        obtain ⟨-, target, run, identity, found, revision, there, of, dispatched, number⟩ :=
          consistent.started (consistent.fits who held inHand) ok
        exact ⟨held, target, run, identity, inHand, found, revision, there, of, dispatched, number⟩
  stored := by
    rintro who page rfl rfl
    cases effect_of_act acted with
    | stored who page held inHand runId cursor bound db paged ok =>
        have fits := consistent.fits who held inHand
        obtain ⟨run, identity, found, of, dispatched, number⟩ := fits.run runId cursor bound
        obtain ⟨target, -, -, -, -, there, -, revision, -⟩ := persistResult_eq_ok ok
        exact ⟨held, runId, cursor, target, run, identity, inHand, bound, fits.target_eq ▸ there,
          revision, found, of, dispatched, number.trans revision.symm⟩
    | kept act db quiet => exact absurd quiet nofun

end Steps

/-! ### Runs -/

/-- The numbers the revisions of a target that have succeeded expected, in their order. -/
def succeeded (targetId : Uuid) (log : List Happened) : List Int :=
  log.filterMap (expectedBy targetId)

/-- **The number of a target counts the revisions that have succeeded**, and each of them has
expected the number it found. -/
theorem succeeded_of_runs {deployed : Deployment} {first desk : Desk} {log : List Happened}
    (runs : Runs deployed first log desk) {id : Uuid} {target : Target}
    (found : first.database.target id = some target) :
    ∃ target', desk.database.target id = some target' ∧
      target'.configRevision = target.configRevision + (succeeded id log).length ∧
      succeeded id log = (List.range (succeeded id log).length).map
        fun passed : Nat => target.configRevision + passed := by
  induction runs with
  | refl => exact ⟨target, found, (Int.add_zero _).symm, rfl⟩
  | @step log desk act reply after run acted ih =>
      obtain ⟨now, held, number, expected⟩ := ih
      obtain ⟨next, held', -, ⟨kept, same⟩ | ⟨moved, same⟩⟩ := target_of_act acted held
      · have log' : succeeded id (log ++ [⟨desk, act, reply, after⟩]) = succeeded id log := by
          rw [succeeded, List.filterMap_append, List.filterMap_cons_none kept, List.filterMap_nil,
            List.append_nil]
          rfl
        rw [log']
        exact ⟨next, held', same.trans number, expected⟩
      · have log' : succeeded id (log ++ [⟨desk, act, reply, after⟩]) =
            succeeded id log ++ [now.configRevision] := by
          rw [succeeded, List.filterMap_append, List.filterMap_cons_some moved, List.filterMap_nil]
          rfl
        rw [log', List.length_append, List.length_singleton, List.range_succ, List.map_append,
          ← expected, number, List.map_singleton]
        refine ⟨next, held', ?_, rfl⟩
        rw [same, number]
        push_cast
        omega

/-- **Revisions are compare and swap.** In every run of the operators and the workers, each
transaction does to the targets what `Swapped` says; and the revisions of a target that have
succeeded have expected one number each, from its first one on. -/
theorem revisions_swapped {deployed : Deployment} {first desk : Desk} {log : List Happened}
    (starts : Starts first) (runs : Runs deployed first log desk) :
    (∀ entry ∈ log, Swapped entry) ∧
    ∀ id target, first.database.target id = some target →
      (succeeded id log).Nodup ∧ ∃ target', desk.database.target id = some target' ∧
        target'.configRevision = target.configRevision + (succeeded id log).length ∧
        succeeded id log = (List.range (succeeded id log).length).map
          fun passed : Nat => target.configRevision + passed := by
  obtain ⟨-, every⟩ := @Runs.invariant _ _ _ _ Consistent runs starts.toConsistent
    fun _ _ _ _ consistent acted => consistent.acted acted
  refine ⟨fun entry member => ?_, fun id target found => ?_⟩
  · obtain ⟨consistent, acted⟩ := every entry member
    exact swapped_of_act consistent acted
  · obtain ⟨target', held, number, expected⟩ := succeeded_of_runs runs found
    refine ⟨?_, target', held, number, expected⟩
    rw [expected]
    exact List.nodup_range.map fun left right same => by simpa using same

/-! ### A target that is revised while a run of it is started -/

/-- The tables of the target of a quote, with nothing in hand. -/
def quoteDesk : Desk := ⟨quoteTables, [], 0, fun _ => none⟩

/-- A revision of the cadence. -/
def slower (cadence : Int) : TargetRevision :=
  ⟨none, none, none, none, some cadence, none, none, none, none, none, none, none, none, none, none,
    none, []⟩

/-- A worker has loaded the target when it is revised, twice at the same number. -/
def revisedTwice : List Act :=
  [.take 0 quoteDispatch, .revise 1 1 (slower 120), .revise 1 1 (slower 240), .start 0]

theorem quoteDesk_starts : Starts quoteDesk where
  issued := ⟨fun _ member => absurd member List.not_mem_nil, List.nodup_nil⟩
  retired id target found := by
    obtain rfl := List.mem_singleton.1 (Table.mem_of_find Target.id found)
    decide
  current _ _ _ _ found := absurd found nofun
  fits _ _ held := absurd held nofun
  idle _ := rfl

/-- Of the two revisions at one number, one succeeds. -/
theorem revisions_swapped_twice : ∃ log desk, Runs quoteDeployment quoteDesk log desk ∧
    log.map Happened.reply = [.ok .done, .ok (.revised 2),
      raise .targetRepositoryError "target_revision_conflict",
      raise .targetRepositoryError "stale_target_revision"] ∧
    (∀ entry ∈ log, Swapped entry) ∧ (succeeded 1 log).Nodup := by
  have traced : (quoteDesk.trace quoteDeployment revisedTwice).map (fun ran =>
      ran.1.map Happened.reply) = some [.ok .done, .ok (.revised 2),
        raise .targetRepositoryError "target_revision_conflict",
        raise .targetRepositoryError "stale_target_revision"] := by
    decide +kernel
  obtain ⟨⟨log, desk⟩, ran, replies⟩ := Option.map_eq_some_iff.1 traced
  have runs : Runs quoteDeployment quoteDesk log desk := Runs.of_trace .refl ran
  obtain ⟨every, numbers⟩ := revisions_swapped quoteDesk_starts runs
  exact ⟨log, desk, runs, replies, every, (numbers 1 quoteTarget rfl).1⟩

end NewsCollect.Collection.Operators
