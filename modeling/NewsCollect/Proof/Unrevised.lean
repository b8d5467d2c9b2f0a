/-
**Targets that are not revised.**

Between two revisions the configuration of a target does not change, and what a worker has loaded is
what is stored.

* `Retains`: no target is revised.
* `stepped_retains`: every step but a revision.
* `Current`: what has been loaded is what is stored.
-/

import NewsCollect.Proof.Locks

namespace NewsCollect.Collection

open Calendar Interleaving Providers

/-- **No target is revised.** -/
def Retains (db db' : Database) : Prop :=
  ∀ id, (db'.target id).map Target.configured = (db.target id).map Target.configured

namespace Retains

variable {db db' db'' : Database}

theorem refl (db : Database) : Retains db db := fun _ => rfl

theorem trans (first : Retains db db') (second : Retains db' db'') : Retains db db'' :=
  fun id => (second id).trans (first id)

theorem of_touches {runId : Uuid} (touches : Touches runId db db') : Retains db db' :=
  touches.configured_eq

theorem of_targets (same : db'.targets = db.targets) : Retains db db' := fun id => by
  simp only [Database.target, same]

end Retains

variable {deployed : Deployment} {state state' : Control} {who : Nat}

theorem commit_retains {α : Type} {result : Result (α × Database)}
    (retains : ∀ value db, result = .ok (value, db) → Retains state.database db) :
    Retains state.database (state.commit result).2.database := by
  cases result with
  | error raised => exact .refl _
  | ok pair => exact retains pair.1 pair.2 rfl

theorem commitUnit_retains {result : Result Database}
    (retains : ∀ db, result = .ok db → Retains state.database db) :
    Retains state.database (state.commitUnit result).2.database := by
  refine commit_retains fun value db same => ?_
  cases result with
  | error raised => simp [Except.map] at same
  | ok held =>
      obtain ⟨-, rfl⟩ := Prod.mk.inj (Except.ok.inj same)
      exact retains held rfl

/-- No operation revises a target. -/
theorem perform_retains (op : Op) :
    Retains state.database (perform deployed state who op).2.database := by
  cases op with
  | markCredentialMissing loaded =>
      refine commitUnit_retains fun db same => ?_
      obtain rfl := Except.ok.inj same
      exact .of_touches (markCredentialMissing_touches 0).1
  | startRun loaded dispatch mode =>
      unfold perform
      simp only
      split
      · next started db ok =>
        obtain ⟨target, -, -, -, ⟨run, -, -, rfl⟩ | ⟨-, -, rfl⟩⟩ := startRun_eq_ok ok
        · exact .refl _
        · exact .of_targets rfl
      · exact .refl _
  | resolvedRunConfig runId loaded cursor mode =>
      exact commit_retains fun value db ok => .of_touches (resolvedRunConfig_touches ok)
  | reserveRequest loaded runId =>
      refine commit_retains fun value db ok => ?_
      obtain ⟨run, -, touches, -⟩ := reserveRequest_eq_ok ok
      exact .of_touches touches
  | persistResult loaded dispatch runId mode page =>
      exact commitUnit_retains fun db ok => .of_touches (persistResult_run ok).1
  | finishError loaded dispatch runId code retryable retryAfter =>
      refine commit_retains fun value db same => ?_
      obtain ⟨-, rfl⟩ := Prod.mk.inj (Except.ok.inj same)
      exact .of_touches finishError_touches
  | finishLockLost loaded dispatch runId =>
      refine commitUnit_retains fun db same => ?_
      obtain rfl := Except.ok.inj same
      exact .of_touches finishLockLost_touches
  | mark due identity ttl =>
      unfold perform
      simp only
      split
      · exact .refl _
      · exact .refl _
  | _ => exact .refl _

theorem Executed.retains {op : Op} {reply : Result (Answer op)}
    (executed : Executed deployed state who op reply state') :
    Retains state.database state'.database := by
  cases executed with
  | performed => exact perform_retains op
  | failed | found | ended => exact .refl _

/-- Of what happens by itself, only a revision revises a target. -/
theorem happen_retains {happening : Happening}
    (unrevised : ∀ targetId expected values, happening ≠ .revise targetId expected values)
    (happened : happen deployed state happening = some state') :
    Retains state.database state'.database := by
  cases happening with
  | tick | lose =>
      obtain rfl := Option.some.inj happened
      exact .refl _
  | renew who =>
      unfold happen at happened
      simp only at happened
      split at happened
      · split at happened
        · simp at happened
        · obtain rfl := Option.some.inj happened
          unfold renewOnce
          simp only
          split
          · exact .refl _
          · exact .refl _
      · simp at happened
  | recover staleBefore delay =>
      obtain rfl := Option.some.inj happened
      refine List.foldlRecOn (motive := fun (pass : Database × Nat) =>
        Retains state.database pass.1) _ _ (.refl _) ?_
      intro pass kept run _
      unfold recoverTargetRun
      split
      · exact kept
      · split
        · exact kept
        · split
          · exact kept
          · exact kept.trans (.of_touches (.setRunTarget (failedRun state.now "stale_run")
              (staleTarget state.now delay) (fun _ => rfl) (fun _ => rfl) fun _ => rfl))
  | recoverLegacy staleAfter =>
      obtain rfl := Option.some.inj happened
      refine List.foldlRecOn (motive := fun (pass : Database × Nat) =>
        Retains state.database pass.1) _ _ (.refl _) ?_
      intro pass kept run _
      unfold recoverRun
      split
      · exact kept
      · exact kept.trans (.of_targets rfl)
  | revise targetId expected values => exact absurd rfl (unrevised targetId expected values)
  | advanceLegacy account cursorType value =>
      obtain ⟨db, advanced, rfl⟩ := Option.map_eq_some_iff.1 happened
      unfold advanceLegacy at advanced
      split at advanced
      · simp at advanced
      · split at advanced
        · obtain rfl := Option.some.inj advanced
          exact .of_targets rfl
        · split at advanced
          · obtain rfl := Option.some.inj advanced
            exact .of_targets rfl
          · simp at advanced

variable {phases phases' : ℕ → Option Phase} {move : Move signature Choice Job Happening}

/-- The move is not a revision. -/
def Unrevising : Move signature Choice Job Happening → Prop
  | .env (.revise ..) => False
  | _ => True

theorem stepped_retains (stepped : (discipline deployed).Stepped state phases move state' phases')
    (unrevising : Unrevising move) : Retains state.database state'.database := by
  cases stepped with
  | work who op choice bound allowed executed => exact (executed_of_exec executed).retains
  | crash who bound => exact .refl _
  | start who job free accepted =>
      obtain rfl := Option.some.inj accepted
      cases job with
      | execute dispatch => exact .refl _
      | schedule => exact .refl _
  | env happening happened =>
      refine happen_retains (fun targetId expected values same => ?_) happened
      subst same
      exact unrevising

/-! ### What has been loaded -/

/-- The target a worker has loaded last. -/
def Phase.loaded? : Phase → Option LoadedTarget
  | .locked _ loaded => loaded
  | .collecting work => some work.loaded
  | _ => none

/-- **What has been loaded is what is stored.** -/
def Current (state : Control) (phases : ℕ → Option Phase) : Prop :=
  ∀ who phase loaded, phases who = some phase → phase.loaded? = some loaded →
    (state.database.target loaded.target.id).map Target.configured = some loaded.target.configured

/-- What a phase has loaded is what is stored, after an operation too. -/
theorem current_next {phase : Phase} {op : Op} {reply : Result (Answer op)} {loaded : LoadedTarget}
    (allowed : phase.allowed deployed.rules op)
    (executed : Executed deployed state who op reply state')
    (current : ∀ loaded, phase.loaded? = some loaded →
      (state.database.target loaded.target.id).map Target.configured = some loaded.target.configured)
    (given : (phase.next op reply).loaded? = some loaded) :
    (state'.database.target loaded.target.id).map Target.configured =
      some loaded.target.configured := by
  have kept : ∀ loaded, phase.loaded? = some loaded →
      (state'.database.target loaded.target.id).map Target.configured =
        some loaded.target.configured := fun loaded held =>
    (executed.retains _).trans (current loaded held)
  cases phase with
  | collecting work =>
      rcases collecting_next work op reply with left | ⟨work', next, tenure⟩
      · simp [left, Phase.loaded?] at given
      · rw [next] at given
        obtain rfl := Option.some.inj given
        rw [tenure]
        exact kept work.loaded rfl
  | locked execution held =>
      cases reply with
      | error raised =>
          unfold Phase.next Phase.raised at given
          simp only at given
          split at given
          · split at given
            · exact kept loaded given
            · simp [Phase.loaded?] at given
          · simp [Phase.loaded?] at given
      | ok value =>
          cases op with
          | load targetId revision =>
              obtain rfl := Option.some.inj given
              obtain ⟨read, rfl⟩ := Prod.mk.inj (executed.perform_eq (by simp) (by simp))
              rw [loadForExecution_id read, (loadForExecution_eq_ok read).1]
              rfl
          | startRun target dispatch mode =>
              obtain ⟨runId, cursor⟩ := value
              obtain rfl := Option.some.inj given
              exact kept _ allowed.1
          | markCredentialMissing => simp [Phase.next, Phase.answered, locked.answered,
              Phase.loaded?] at given
          | spawnRenewal | credential => exact kept loaded given
          | _ => exact False.elim allowed
  | scheduling clock page claimed =>
      cases reply with
      | error raised =>
          unfold Phase.next Phase.raised at given
          simp only at given
          split at given
          · simp [Phase.loaded?] at given
          · split at given
            · simp [Phase.loaded?] at given
            · simp [Phase.loaded?] at given
          · split at given
            · simp [Phase.loaded?] at given
            · simp [Phase.loaded?] at given
          · simp [Phase.loaded?] at given
      | ok value =>
          unfold Phase.next Phase.answered scheduling.answered at given
          simp only at given
          split at given
          · simp [Phase.loaded?] at given
          · simp [Phase.loaded?] at given
          · simp [Phase.loaded?] at given
          · simp [Phase.loaded?] at given
          · simp [Phase.loaded?] at given
  | arriving dispatch token =>
      cases reply with
      | error raised => simp [Phase.next, Phase.raised, Phase.loaded?] at given
      | ok value =>
          unfold Phase.next Phase.answered arriving.answered at given
          simp only at given
          split at given
          · split at given
            · simp [Phase.loaded?] at given
            · simp [Phase.loaded?] at given
          · simp [Phase.loaded?] at given
          · split at given
            · simp [Phase.loaded?] at given
            · simp [Phase.loaded?] at given
          · simp [Phase.loaded?] at given
  | leaving | releasing | gone =>
      cases reply with
      | error raised => simp [Phase.next, Phase.raised, Phase.loaded?] at given
      | ok value => simp [Phase.next, Phase.answered, Phase.loaded?] at given

/-- A job has loaded nothing in the beginning. -/
theorem job_loaded (job : Job) : job.phase.loaded? = none := by
  cases job with
  | schedule => rfl
  | execute dispatch =>
      unfold Job.phase
      simp only
      split
      · split
        · rfl
        · rfl
      · rfl

/-- **What has been loaded is what is stored**, as long as no target is revised. -/
theorem current_preserved (stepped : (discipline deployed).Stepped state phases move state' phases')
    (unrevising : Unrevising move) (current : Current state phases) : Current state' phases' := by
  have retains := stepped_retains stepped unrevising
  have others : ∀ other phase loaded, phases other = some phase → phase.loaded? = some loaded →
      (state'.database.target loaded.target.id).map Target.configured =
        some loaded.target.configured := fun other phase loaded held given =>
    (retains _).trans (current other phase loaded held given)
  intro other phase loaded held given
  cases stepped with
  | work who op choice bound allowed executed =>
      by_cases same : other = who
      · subst same
        rw [Function.update_self] at held
        obtain rfl := Option.some.inj held
        exact current_next allowed (executed_of_exec executed)
          (fun loaded given => current other _ loaded bound given) given
      · rw [Function.update_of_ne same] at held
        exact others other phase loaded held given
  | crash who bound =>
      by_cases same : other = who
      · subst same
        rw [Function.update_self] at held
        simp at held
      · rw [Function.update_of_ne same] at held
        exact others other phase loaded held given
  | start who job free accepted =>
      by_cases same : other = who
      · subst same
        rw [Function.update_self] at held
        obtain rfl := Option.some.inj held
        rw [show (discipline deployed).initial job = job.phase from rfl, job_loaded] at given
        simp at given
      · rw [Function.update_of_ne same] at held
        exact others other phase loaded held given
  | env happening happened => exact others other phase loaded held given

end NewsCollect.Collection
