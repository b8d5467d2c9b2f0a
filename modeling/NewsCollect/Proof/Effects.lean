/-
**What one transaction of the operators and the workers does.**

* `Keeps`: what most transactions keep of the targets and of the runs.
* `Continues`: what most transactions keep of the continuations.
* `Effect`: what one transaction has done.
* `effect_of_act`: the inversion of a transaction.
-/

import NewsCollect.Collection.Operators
import NewsCollect.Proof.Forward

namespace NewsCollect.Collection.Operators

open Calendar Providers

/-! ### What is kept -/

/-- **What a transaction keeps of the targets and of the runs.** A run that is running was so
before, unless it has been revived. -/
structure Keeps (revived : Uuid → Prop) (db db' : Database) : Prop where
  configured_eq : ∀ id, (db'.target id).map Target.configured = (db.target id).map Target.configured
  identity_eq : ∀ id, (db'.run id).map Run.identity = (db.run id).map Run.identity
  running : ∀ id run, db'.run id = some run → run.status = .running →
    revived id ∨ ∃ old, db.run id = some old ∧ old.status = .running
  issued : db.Issued → db'.Issued

namespace Keeps

variable {revived : Uuid → Prop} {db db' db'' : Database} {runId : Uuid}

theorem refl (db : Database) : Keeps revived db db :=
  ⟨fun _ => rfl, fun _ => rfl, fun _ run found runs => .inr ⟨run, found, runs⟩, id⟩

theorem trans (first : Keeps revived db db') (second : Keeps revived db' db'') :
    Keeps revived db db'' where
  configured_eq id := (second.configured_eq id).trans (first.configured_eq id)
  identity_eq id := (second.identity_eq id).trans (first.identity_eq id)
  running id run found runs := by
    rcases second.running id run found runs with revived | ⟨old, found', runs'⟩
    · exact .inl revived
    · exact first.running id old found' runs'
  issued := second.issued ∘ first.issued

/-- A transaction on a run that has been running, or is revived. -/
theorem of_touches (touches : Touches runId db db')
    (running : ∀ run, db'.run runId = some run → run.status = .running →
      revived runId ∨ ∃ old, db.run runId = some old ∧ old.status = .running) :
    Keeps revived db db' where
  configured_eq := touches.configured_eq
  identity_eq := touches.identity_eq
  running id run found runs := by
    by_cases same : id = runId
    · subst same
      exact running run found runs
    · rw [touches.run_ne id same] at found
      exact .inr ⟨run, found, runs⟩
  issued := touches.issued

/-- A transaction that leaves the runs alone. -/
theorem of_runs (touches : Touches runId db db') (same : db'.runs = db.runs) :
    Keeps revived db db' :=
  .of_touches touches fun run found runs => .inr ⟨run, by
    rw [Database.run, ← same]
    exact found, runs⟩

/-- A write to a run, and to the schedule of a target. -/
theorem setRun (write : Run → Run) (keeps : ∀ run, (write run).id = run.id)
    (identical : ∀ run, (write run).identity = run.identity)
    (stops : ∀ run, (write run).status = .running → revived runId ∨ run.status = .running) :
    Keeps revived db (db.setRun runId write) := by
  refine .of_touches (.setRun write keeps identical) fun run found runs => ?_
  rw [db.run_setRun_same write keeps] at found
  obtain ⟨old, held, rfl⟩ := Option.map_eq_some_iff.1 found
  exact (stops old runs).imp id fun was => ⟨old, held, was⟩

theorem setTarget {id : Uuid} (change : Target → Target)
    (keeps : ∀ target, (change target).configured = target.configured) :
    Keeps revived db (db.setTarget id change) :=
  of_runs (@Touches.setTarget 0 db id change keeps) rfl

theorem setSource {id : Uuid} : Keeps revived db (db.setSource id failingSource) where
  configured_eq _ := rfl
  identity_eq _ := rfl
  running _ run found runs := .inr ⟨run, found, runs⟩
  issued issued := issued.of_eq rfl rfl (Nat.le_refl _)

end Keeps

/-! ### The continuations that are kept -/

/-- **The continuations of the targets are kept**: a row of a target has the continuation that a row
of it had before. -/
structure Continues (db db' : Database) : Prop where
  rows : ∀ row ∈ db'.cursors, row.targetId.isSome = true → ∃ old ∈ db.cursors,
    old.targetId = row.targetId ∧ old.continuation = row.continuation ∧
      old.continuationRunId = row.continuationRunId
  issued : db.CursorsIssued → db'.CursorsIssued

theorem Continues.of_cursors {db db' : Database} (grows : Grows db db')
    (same : db'.cursors = db.cursors) : Continues db db' where
  rows row member _ := ⟨row, same ▸ member, rfl, rfl, rfl⟩
  issued issued := issued.of_cursors same grows.supply_eq grows.issued_le

section Transactions

variable {revived : Uuid → Prop} {db db' : Database} {now : Int} {loaded : LoadedTarget}
  {dispatch : TargetDispatch} {runId : Uuid} {mode : RunMode} {rules : Rules}

theorem recoverStaleTargetRuns_keeps (redis : Redis) (staleBefore delay : Int) :
    Keeps revived db (recoverStaleTargetRuns db redis now staleBefore delay).1 := by
  have pass : ∀ (runs : List Run) (state : Database × Nat),
      Keeps revived state.1 (runs.foldl (recoverTargetRun redis now delay) state).1 := by
    intro runs
    induction runs with
    | nil => exact fun _ => .refl _
    | cons run runs ih =>
        intro state
        refine Keeps.trans ?_ (ih _)
        unfold recoverTargetRun
        split
        · exact .refl _
        · split
          · exact .refl _
          · split
            · exact .refl _
            · exact (Keeps.setRun (failedRun now "stale_run") (fun _ => rfl) (fun _ => rfl)
                fun _ => nofun).trans (.setTarget (staleTarget now delay) fun _ => rfl)
  exact pass _ (db, 0)

theorem recoverStaleRuns_keeps (redis : Redis) (staleAfter : Int) :
    Keeps revived db (recoverStaleRuns db redis now staleAfter).1 := by
  have pass : ∀ (runs : List Run) (state : Database × Nat),
      Keeps revived state.1 (runs.foldl (recoverRun redis now) state).1 := by
    intro runs
    induction runs with
    | nil => exact fun _ => .refl _
    | cons run runs ih =>
        intro state
        refine Keeps.trans ?_ (ih _)
        unfold recoverRun
        split
        · exact .refl _
        · exact (Keeps.setRun (staleRun now) (fun _ => rfl) (fun _ => rfl) fun _ => nofun).trans
            .setSource
  exact pass _ (db, 0)

theorem resolvedRunConfig_keeps {cursor : Option Cursor} {bound : Object × Object}
    (ok : resolvedRunConfig rules db runId loaded cursor mode = .ok (bound, db')) :
    Keeps revived db db' := by
  obtain ⟨run, persisted, db₁, window, -, ensured, -, -, -, -, rfl⟩ := resolvedRunConfig_eq_ok ok
  have first : Keeps revived db db₁ := by
    refine .of_runs (@ensureCursor_touches _ _ runId _ _ _ _ ensured) ?_
    obtain ⟨-, rfl⟩ | ⟨-, account, -, -, rfl⟩ := ensureCursor_eq_ok ensured
    · rfl
    · rfl
  exact (first.trans (.setRun (Run.bind window _) (fun _ => rfl) (fun _ => rfl) fun _ =>
    .inr)).trans (.of_runs (@Touches.setCursor 0 _ _ _) rfl)

theorem reserveRequest_keeps {reservation : Reservation}
    (ok : reserveRequest db now loaded runId = .ok (reservation, db')) :
    Keeps revived db db' := by
  obtain ⟨run, found, touches, -, ⟨-, held, -⟩ | ⟨-, held, -⟩⟩ := reserveRequest_eq_ok ok
  · refine .of_touches touches fun run' found' runs => ?_
    rw [← Option.some.inj (held.symm.trans found')] at runs
    exact absurd runs nofun
  · refine .of_touches touches fun run' found' runs => ?_
    rw [← Option.some.inj (held.symm.trans found')] at runs
    exact .inr ⟨run, found, runs⟩

theorem finishLockLost_keeps :
    Keeps revived db (finishLockLost db now loaded dispatch runId) := by
  have ends : Keeps revived db (db.setRun runId (lostRun now)) :=
    .setRun (lostRun now) (fun _ => rfl) (fun _ => rfl) fun _ => nofun
  unfold finishLockLost
  split
  · split
    · exact ends
    · exact ends.trans (.setTarget (lostTarget now) fun _ => rfl)
  · exact .refl _

/-- An error leaves a run running only at the number of its dispatch. -/
theorem finishError_keeps {code : String} {retryable : Bool} {retryAfter : Option (Nat × Nat)}
    (revives : ∀ target, db.target loaded.target.id = some target →
      target.configRevision = dispatch.configRevision → revived runId) :
    Keeps revived db
      (finishError db now loaded dispatch runId code retryable retryAfter).2 := by
  unfold finishError
  split
  · next run target found held =>
    split
    · exact .setRun (failedRun now _) (fun _ => rfl) (fun _ => rfl) fun _ => nofun
    · next same =>
      exact (Keeps.setRun (erroredRun now code _) (fun _ => rfl) (fun _ => rfl) fun _ _ =>
        .inl (revives target held (not_not.1 same))).trans
          (.setTarget (erroredTarget now code _ retryAfter) fun _ => rfl)
  · exact .refl _

theorem markCredentialMissing_keeps :
    Keeps revived db (markCredentialMissing db now loaded) := by
  obtain ⟨touches, same, -⟩ := @markCredentialMissing_touches db now loaded 0
  exact .of_runs touches same

theorem advanceLegacy_keeps {reader : Reader} {account : Uuid} {cursorType value : String}
    (advanced : advanceLegacy reader db account cursorType value = some db') :
    Keeps revived db db' := by
  unfold advanceLegacy at advanced
  split at advanced
  · exact absurd advanced nofun
  · split at advanced
    · obtain rfl := Option.some.inj advanced
      exact .of_runs (@Touches.addCursor 0 _ _) rfl
    · split at advanced
      · obtain rfl := Option.some.inj advanced
        exact .of_runs (@Touches.setCursor 0 _ _ _) rfl
      · exact absurd advanced nofun

/-- A page is stored at the number of its dispatch. -/
theorem persistResult_keeps {page : PageWrite}
    (ok : persistResult rules db now loaded dispatch runId mode page = .ok db')
    (revives : revived runId) : Keeps revived db db' := by
  obtain ⟨touches, -⟩ := persistResult_run ok
  exact .of_touches touches fun _ _ _ => .inl revives

theorem finishError_continues {code : String} {retryable : Bool}
    {retryAfter : Option (Nat × Nat)} : Continues db
      (finishError db now loaded dispatch runId code retryable retryAfter).2 := by
  refine .of_cursors (.of_touches finishError_touches) ?_
  obtain ⟨same, -⟩ | ⟨run, target, -, -, ⟨-, same⟩ | ⟨retry, -, same⟩⟩ :=
    finishError_cases db now loaded dispatch runId code retryable retryAfter
  · rw [same]
  · rw [same]
    rfl
  · rw [same]
    rfl

theorem finishLockLost_continues :
    Continues db (finishLockLost db now loaded dispatch runId) := by
  refine .of_cursors (.of_touches finishLockLost_touches) ?_
  unfold finishLockLost
  split
  · split
    · rfl
    · rfl
  · rfl

theorem advanceLegacy_continues {reader : Reader} {account : Uuid} {cursorType value : String}
    (advanced : advanceLegacy reader db account cursorType value = some db') :
    Continues db db' := by
  unfold advanceLegacy at advanced
  split at advanced
  · exact absurd advanced nofun
  · split at advanced
    · obtain rfl := Option.some.inj advanced
      refine ⟨fun row member given => ?_, fun issued => issued.addCursor fun _ => rfl⟩
      rcases List.mem_append.1 member with old | new
      · exact ⟨row, old, rfl, rfl, rfl⟩
      · obtain rfl := List.mem_singleton.1 new
        exact absurd given nofun
    · split at advanced
      · obtain rfl := Option.some.inj advanced
        refine ⟨fun row member _ => ?_, fun issued => issued.setCursor fun _ same => same⟩
        obtain ⟨old, inside, rfl⟩ := Table.mem_modify.1 member
        refine ⟨old, inside, ?_⟩
        split
        · exact ⟨rfl, rfl, rfl⟩
        · exact ⟨rfl, rfl, rfl⟩
      · exact absurd advanced nofun

end Transactions

/-! ### What one transaction has done -/

/-- The run is in the hands of a worker whose dispatch is of the number the target has. -/
def Licensed (desk : Desk) (runId : Uuid) : Prop :=
  ∃ who held cursor target, desk.held who = some held ∧ held.run = some (runId, cursor) ∧
    desk.database.target held.loaded.target.id = some target ∧
    target.configRevision = held.dispatch.configRevision

/-- Most transactions: they keep the continuations, and revive only what is in hand. -/
def isQuiet : Act → Bool
  | .credentialMissing _ | .reserve _ | .finishError .. | .finishLockLost _ | .recover ..
  | .recoverLegacy .. | .advanceLegacy .. => true
  | _ => false

/-- The end of a transaction: refused, or committed. -/
theorem committed_returned {desk next : Desk} {result : Result (Returned × Database)}
    {reply : Result Returned} (same : desk.commit result = (reply, next)) :
    (∃ raised, reply = .error raised ∧ next = desk) ∨
      ∃ returned db, result = .ok (returned, db) ∧ reply = .ok returned ∧
        next = (desk.commit (.ok (.done, db))).2 := by
  cases result with
  | error raised =>
      obtain ⟨rfl, rfl⟩ := Prod.mk.inj same
      exact .inl ⟨raised, rfl, rfl⟩
  | ok value =>
      obtain ⟨rfl, rfl⟩ := Prod.mk.inj same
      exact .inr ⟨value.1, value.2, rfl, rfl, rfl⟩

theorem committed {desk next : Desk} {result : Result Database} {reply : Result Returned}
    (same : desk.commitUnit result = (reply, next)) :
    (∃ raised, reply = .error raised ∧ next = desk) ∨
      ∃ db, result = .ok db ∧ reply = .ok .done ∧ next = (desk.commit (.ok (.done, db))).2 := by
  rcases committed_returned same with refused | ⟨returned, db, ok, rfl, rfl⟩
  · exact .inl refused
  · obtain ⟨db', ran, same⟩ := map_eq_ok.1 ok
    obtain ⟨rfl, rfl⟩ := Prod.mk.inj same
    exact .inr ⟨_, ran, rfl, rfl⟩

/-- **What one transaction has done.** It has been refused; or a worker has taken a dispatch, has
started its run, or has stored a page; or an operator has revised the target or paused it; or
another transaction has kept the targets and the runs. -/
inductive Effect (deployed : Deployment) (desk : Desk) : Act → Result Returned → Desk → Prop where
  | refused (act : Act) (raised : PyError) : Effect deployed desk act (.error raised) desk
  | waited (elapsed : Nat) :
      Effect deployed desk (.tick elapsed) (.ok .done) { desk with now := desk.now + elapsed }
  | taken (who : Nat) (dispatch : TargetDispatch) (mode : RunMode) (loaded : LoadedTarget)
      (named : dispatch.dispatchId.revision = dispatch.configRevision)
      (found : loadForExecution deployed.registry desk.database dispatch.targetId
        dispatch.configRevision = .ok loaded) :
      Effect deployed desk (.take who dispatch) (.ok .done)
        (desk.hold who (some ⟨dispatch, mode, loaded, none⟩))
  | left (who : Nat) : Effect deployed desk (.leave who) (.ok .done) (desk.hold who none)
  | started (who : Nat) (held : Held) (inHand : desk.held who = some held)
      (started : Uuid × Option Cursor) (db : Database)
      (ok : startRun desk.database desk.now held.loaded held.dispatch held.mode =
        .ok (started, db)) :
      Effect deployed desk (.start who) (.ok (.started started.1))
        ((desk.commit (.ok (.done, db))).2.hold who (some { held with run := some started }))
  | stored (who : Nat) (page : PageWrite) (held : Held) (inHand : desk.held who = some held)
      (runId : Uuid) (cursor : Option Cursor) (bound : held.run = some (runId, cursor))
      (db : Database)
      (paged : page.pageMode =
        (held.loaded.contract.paginationCapability == .boundedWindowV1))
      (ok : persistResult deployed.rules desk.database desk.now held.loaded held.dispatch runId
        held.mode page = .ok db) :
      Effect deployed desk (.persist who page) (.ok .done) (desk.commit (.ok (.done, db))).2
  | revised (targetId : Uuid) (expected : Int) (values : TargetRevision) (next : Int)
      (db : Database)
      (ok : revise deployed.registry desk.database desk.now targetId expected values =
        .ok (next, db)) :
      Effect deployed desk (.revise targetId expected values) (.ok (.revised next))
        (desk.commit (.ok (.done, db))).2
  | paused (targetId : Uuid) (expected : Int) (db : Database)
      (ok : pauseForContinuationAbandon desk.database targetId expected = .ok db) :
      Effect deployed desk (.pause targetId expected) (.ok .done) (desk.commit (.ok (.done, db))).2
  | abandoned (targetId : Uuid) (expected : Int) (tokens : List PendingContinuationToken)
      (reason : String) (count : Nat) (db : Database)
      (ok : abandonPendingContinuations deployed.rules desk.database targetId expected tokens
        reason = .ok (count, db)) :
      Effect deployed desk (.abandon targetId expected tokens reason) (.ok (.abandoned count))
        (desk.commit (.ok (.done, db))).2
  | resolved (who : Nat) (held : Held) (inHand : desk.held who = some held) (runId : Uuid)
      (cursor : Option Cursor) (bound : held.run = some (runId, cursor))
      (config : Object × Object) (db : Database)
      (ok : resolvedRunConfig deployed.rules desk.database runId held.loaded cursor held.mode =
        .ok (config, db)) :
      Effect deployed desk (.resolve who) (.ok .done) (desk.commit (.ok (.done, db))).2
  | kept (act : Act) (db : Database) (quiet : isQuiet act = true)
      (keeps : Keeps (Licensed desk) desk.database db) (continues : Continues desk.database db) :
      Effect deployed desk act (.ok .done) (desk.commit (.ok (.done, db))).2

/-- The inversion of a transaction. -/
theorem effect_of_act {deployed : Deployment} {desk next : Desk} {act : Act}
    {reply : Result Returned} (acted : desk.act deployed act = some (reply, next)) :
    Effect deployed desk act reply next := by
  cases act with
  | tick elapsed =>
      obtain ⟨rfl, rfl⟩ := Prod.mk.inj (Option.some.inj acted)
      exact .waited elapsed
  | take who dispatch =>
      obtain ⟨mode, -, acted⟩ := Option.bind_eq_some_iff.1 acted
      split at acted
      · next named =>
        split at acted
        · next loaded found =>
          obtain ⟨rfl, rfl⟩ := Prod.mk.inj (Option.some.inj acted)
          exact .taken who dispatch mode loaded (by rw [named]) found
        · next raised _ =>
          obtain ⟨rfl, rfl⟩ := Prod.mk.inj (Option.some.inj acted)
          exact .refused _ raised
      · exact absurd acted nofun
  | credentialMissing who =>
      obtain ⟨held, inHand, same⟩ := Option.map_eq_some_iff.1 acted
      obtain ⟨rfl, rfl⟩ := Prod.mk.inj same
      exact .kept _ _ rfl markCredentialMissing_keeps
        (.of_cursors (.of_touches (markCredentialMissing_touches 0).1)
          (markCredentialMissing_touches 0).2.2.1)
  | start who =>
      obtain ⟨held, inHand, same⟩ := Option.map_eq_some_iff.1 acted
      unfold Desk.start at same
      split at same
      · next started db ok =>
        obtain ⟨rfl, rfl⟩ := Prod.mk.inj same
        exact .started who held inHand started db ok
      · next raised _ =>
        obtain ⟨rfl, rfl⟩ := Prod.mk.inj same
        exact .refused _ raised
  | resolve who =>
      obtain ⟨held, inHand, acted⟩ := Option.bind_eq_some_iff.1 acted
      obtain ⟨⟨runId, cursor⟩, bound, same⟩ := Option.map_eq_some_iff.1 acted
      rcases committed same with ⟨raised, rfl, rfl⟩ | ⟨db, ok, rfl, rfl⟩
      · exact .refused _ raised
      · obtain ⟨⟨config, db'⟩, ran, rfl⟩ := map_eq_ok.1 ok
        exact .resolved who held inHand runId cursor bound config _ ran
  | reserve who =>
      obtain ⟨held, inHand, acted⟩ := Option.bind_eq_some_iff.1 acted
      obtain ⟨⟨runId, cursor⟩, bound, same⟩ := Option.map_eq_some_iff.1 acted
      rcases committed same with ⟨raised, rfl, rfl⟩ | ⟨db, ok, rfl, rfl⟩
      · exact .refused _ raised
      · obtain ⟨⟨reservation, db'⟩, ran, rfl⟩ := map_eq_ok.1 ok
        obtain ⟨-, -, touches, cursors, -⟩ := reserveRequest_eq_ok ran
        exact .kept _ _ rfl (reserveRequest_keeps ran)
          (.of_cursors (.of_touches touches) cursors)
  | persist who page =>
      obtain ⟨held, inHand, acted⟩ := Option.bind_eq_some_iff.1 acted
      obtain ⟨⟨runId, cursor⟩, bound, acted⟩ := Option.bind_eq_some_iff.1 acted
      split at acted
      · next paged =>
        rcases committed (Option.some.inj acted) with ⟨raised, rfl, rfl⟩ | ⟨db, ok, rfl, rfl⟩
        · exact .refused _ raised
        · exact .stored who page held inHand runId cursor bound db paged ok
      · exact absurd acted nofun
  | finishError who code retryable retryAfter =>
      obtain ⟨held, inHand, acted⟩ := Option.bind_eq_some_iff.1 acted
      obtain ⟨⟨runId, cursor⟩, bound, same⟩ := Option.map_eq_some_iff.1 acted
      obtain ⟨rfl, rfl⟩ := Prod.mk.inj same
      exact .kept _ _ rfl (finishError_keeps fun target found revision =>
        ⟨who, held, cursor, target, inHand, bound, found, revision⟩) finishError_continues
  | finishLockLost who =>
      obtain ⟨held, inHand, acted⟩ := Option.bind_eq_some_iff.1 acted
      obtain ⟨⟨runId, cursor⟩, bound, same⟩ := Option.map_eq_some_iff.1 acted
      obtain ⟨rfl, rfl⟩ := Prod.mk.inj same
      exact .kept _ _ rfl finishLockLost_keeps finishLockLost_continues
  | leave who =>
      obtain ⟨rfl, rfl⟩ := Prod.mk.inj (Option.some.inj acted)
      exact .left who
  | recover redis staleBefore delay =>
      obtain ⟨rfl, rfl⟩ := Prod.mk.inj (Option.some.inj acted)
      exact .kept _ _ rfl (recoverStaleTargetRuns_keeps redis staleBefore delay)
        (.of_cursors (recoverStaleTargetRuns_grows ..) (recoverStaleTargetRuns_cursors ..))
  | recoverLegacy redis staleAfter =>
      obtain ⟨rfl, rfl⟩ := Prod.mk.inj (Option.some.inj acted)
      exact .kept _ _ rfl (recoverStaleRuns_keeps redis staleAfter)
        (.of_cursors (recoverStaleRuns_grows ..) (recoverStaleRuns_cursors ..))
  | advanceLegacy account cursorType value =>
      obtain ⟨db, advanced, same⟩ := Option.map_eq_some_iff.1 acted
      obtain ⟨rfl, rfl⟩ := Prod.mk.inj same
      exact .kept _ _ rfl (advanceLegacy_keeps advanced) (advanceLegacy_continues advanced)
  | revise targetId expected values =>
      rcases committed_returned (Option.some.inj acted) with
        ⟨raised, rfl, rfl⟩ | ⟨returned, db, ok, rfl, rfl⟩
      · exact .refused _ raised
      · obtain ⟨⟨next, db'⟩, ran, same⟩ := map_eq_ok.1 ok
        obtain ⟨rfl, rfl⟩ := Prod.mk.inj same
        exact .revised targetId expected values next _ ran
  | pause targetId expected =>
      rcases committed (Option.some.inj acted) with ⟨raised, rfl, rfl⟩ | ⟨db, ok, rfl, rfl⟩
      · exact .refused _ raised
      · exact .paused targetId expected db ok
  | abandon targetId expected tokens reason =>
      rcases committed_returned (Option.some.inj acted) with
        ⟨raised, rfl, rfl⟩ | ⟨returned, db, ok, rfl, rfl⟩
      · exact .refused _ raised
      · obtain ⟨⟨count, db'⟩, ran, same⟩ := map_eq_ok.1 ok
        obtain ⟨rfl, rfl⟩ := Prod.mk.inj same
        exact .abandoned targetId expected tokens reason count _ ran

end NewsCollect.Collection.Operators
