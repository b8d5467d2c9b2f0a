/-
**Stale cursors.**

A worker compares the row of the cursor it writes with the row it has read last. It reads the row
again after every page, and this query, unlike that of the write, does not ask for the version of
the cursor. Where the rows of several versions are left, it may find another one.

* `Undisturbed`: nobody else writes the cursors of a target that is collected page by page.
* `CurrentRead`: the row that is read again has the value of the row that is written.
* `pages_never_stale`: under both, no page fails for a stale cursor.
* `page_went_stale`: under the first alone, one does.
-/

import NewsCollect.Proof.Absorbing
import NewsCollect.Proof.CursorRows

namespace NewsCollect.Collection

open Calendar Interleaving Providers

/-! ### The two conditions -/

/-- The row a worker writes: of the version of its target. -/
def Tenure.row (tenure : Tenure) (db : Database) : Option Cursor :=
  db.cursor tenure.loaded.target.id tenure.loaded.target.operationKey
    tenure.loaded.target.cursorVersion tenure.execution.mode

/-- **Nobody else writes the cursors** of a target a worker collects page by page. -/
def Undisturbed (deployed : Deployment) (state : Control) (phases : ℕ → Option Phase)
    (move : Move signature Choice Job Happening) : Prop :=
  ∀ who work, phases who = some (.collecting work) → work.bounded →
    (∀ op choice, move ≠ .work who op choice) →
    ∀ state' phases', (discipline deployed).Stepped state phases move state' phases' →
      state'.database.cursorsOf work.loaded.target.id = state.database.cursorsOf
        work.loaded.target.id

/-- The row the query between two pages finds. -/
def queriedRow (db : Database) (targetId : Uuid) (cursorType : String) (mode : RunMode) :
    Choice → Option Cursor
  | .row index => (pageCursors db targetId cursorType mode)[index]?
  | _ => (pageCursors db targetId cursorType mode)[0]?

/-- **The row that is read again has the value of the row that is written.** -/
def CurrentRead (state : Control) (phases : ℕ → Option Phase) :
    Move signature Choice Job Happening → Prop
  | .work who (.readCursor targetId cursorType mode) choice =>
      ∀ work, phases who = some (.collecting work) → ∀ row current,
        queriedRow state.database targetId cursorType mode choice = some row →
        work.row state.database = some current → row.cursorValue = current.cursorValue
  | _ => True

/-! ### The snapshot -/

/-- **A snapshot is fresh**: the row that is written has its value. Between a page and the next
reading, there is such a row. -/
structure Collecting.Fresh (work : Collecting) (db : Database) : Prop where
  turned : work.stage = .turned → ∃ row, work.row db = some row
  held : work.stage ≠ .turned → ∀ snapshot, work.snapshot = some snapshot →
    ∃ row, work.row db = some row ∧ row.cursorValue = snapshot.cursorValue

/-- Whoever collects page by page has a fresh snapshot. -/
def Fresh (state : Control) (phases : ℕ → Option Phase) : Prop :=
  ∀ who work, phases who = some (.collecting work) → work.bounded → work.Fresh state.database

variable {deployed : Deployment} {state state' : Control} {who : Nat} {work work' : Collecting}
  {phases phases' : ℕ → Option Phase} {move : Move signature Choice Job Happening}

/-- A snapshot stays fresh while the row does not change. -/
theorem Collecting.Fresh.of_row {db db' : Database} (fresh : work.Fresh db)
    (tenure : work'.toTenure = work.toTenure) (snapshot : work'.snapshot = work.snapshot)
    (stage : work'.stage = work.stage ∨ work.stage ≠ .turned ∧ work'.stage ≠ .turned)
    (row : work.row db' = work.row db) : work'.Fresh db' := by
  rcases stage with same | ⟨before, after⟩
  · refine ⟨fun turned => ?_, fun held => ?_⟩
    · rw [tenure, row]
      exact fresh.turned (same ▸ turned)
    · rw [snapshot, tenure, row]
      exact fresh.held (same ▸ held)
  · refine ⟨fun turned => absurd turned after, fun _ => ?_⟩
    rw [snapshot, tenure, row]
    exact fresh.held before

theorem Collecting.Fresh.of_cursors {db db' : Database} (fresh : work.Fresh db)
    (tenure : work'.toTenure = work.toTenure) (snapshot : work'.snapshot = work.snapshot)
    (stage : work'.stage = work.stage ∨ work.stage ≠ .turned ∧ work'.stage ≠ .turned)
    (cursors : db'.cursors = db.cursors) : work'.Fresh db' :=
  fresh.of_row tenure snapshot stage (Database.cursor_of_cursors cursors _ _ _ _)

/-! ### One operation -/

/-- What the query between two pages answers. -/
theorem exec_readCursor {targetId : Uuid} {cursorType : String} {mode : RunMode} {choice : Choice}
    {cursor : Option Cursor}
    (done : exec deployed state who (.readCursor targetId cursorType mode) choice =
      some (.ok cursor, state')) :
    cursor = queriedRow state.database targetId cursorType mode choice ∧ state' = state := by
  cases choice with
  | proceed =>
      obtain ⟨same, rfl⟩ := Prod.mk.inj (Option.some.inj done)
      exact ⟨(Except.ok.inj same).symm, rfl⟩
  | row index =>
      obtain ⟨row, found, same⟩ := Option.map_eq_some_iff.1 done
      obtain ⟨answer, rfl⟩ := Prod.mk.inj same
      exact ⟨(Except.ok.inj answer).symm.trans found.symm, rfl⟩
  | fault => simp [exec, faultOf] at done
  | outcome result => simp [exec] at done

/-- Binding a run keeps the value of the row, and may add it. -/
theorem resolvedRunConfig_row {rules : Rules} {db db' : Database} {runId : Uuid}
    {loaded : LoadedTarget} {cursor : Option Cursor} {mode : RunMode} {bound : Object × Object}
    {row : Cursor}
    (ok : resolvedRunConfig rules db runId loaded cursor mode = .ok (bound, db'))
    {targetId : Uuid} {cursorType : String} {version : Int} {mode' : RunMode}
    (found : db.cursor targetId cursorType version mode' = some row) :
    ∃ row', db'.cursor targetId cursorType version mode' = some row' ∧
      row'.cursorValue = row.cursorValue := by
  obtain ⟨run, persisted, db₁, window, -, ensured, -, -, -, -, rfl⟩ := resolvedRunConfig_eq_ok ok
  have held : db₁.cursor targetId cursorType version mode' = some row := by
    obtain ⟨-, rfl⟩ | ⟨-, account, -, -, rfl⟩ := ensureCursor_eq_ok ensured
    · exact found
    · exact Database.cursor_addCursor found _
  rw [Database.cursor_setCursor (Cursor.bind bound.2 runId) fun _ => rfl]
  rw [show (db₁.setRun runId (Run.bind window (rules.canonicalProjectionHash bound.1))).cursor
    targetId cursorType version mode' = some row from held]
  refine ⟨_, rfl, ?_⟩
  by_cases same : row.id = persisted.id
  · simp only [if_pos same, Cursor.bind]
  · simp only [if_neg same]

/-- **One operation of the worker itself.** -/
theorem fresh_next {op : Op} {choice : Choice} {reply : Result (Answer op)}
    (fresh : work.Fresh state.database) (bounded : work.bounded)
    (known : LoadedFor deployed state.database work.execution work.loaded)
    (allowed : collecting.allowed deployed.rules work op)
    (done : exec deployed state who op choice = some (reply, state'))
    (current : CurrentRead state phases (.work who op choice))
    (told : phases who = some (.collecting work))
    (stays : (Phase.collecting work).next op reply = .collecting work') :
    work'.Fresh state'.database := by
  have executed := executed_of_exec done
  cases reply with
  | error raised =>
      have same : state'.database = state.database := executed.database_of_error
      have tenure := collecting_tenure stays
      rw [same]
      unfold Phase.next Phase.raised at stays
      cases op with
      | stopRenewal => simp at stays
      | fetch runId request =>
          obtain rfl := Phase.collecting.inj stays
          have reserved := (allowed.2.2 bounded).1
          exact fresh.of_cursors rfl rfl (.inr ⟨by simp [reserved], by simp⟩) rfl
      | _ =>
          obtain rfl := Phase.collecting.inj stays
          exact fresh
  | ok value =>
      unfold Phase.next Phase.answered collecting.answered at stays
      cases op with
      | finishError | finishLockLost | stopRenewal => simp at stays
      | fetch runId request =>
          obtain rfl := Phase.collecting.inj stays
          have reserved := (allowed.2.2 bounded).1
          exact fresh.of_cursors rfl rfl (.inr ⟨by simp [reserved], by simp⟩)
            (executed.cursors_eq rfl)
      | reserveRequest loaded runId =>
          have idle := allowed.2.2.1
          cases value with
          | exhausted => simp at stays
          | reserved =>
              obtain rfl := Phase.collecting.inj stays
              exact fresh.of_cursors rfl rfl (.inr ⟨by simp [idle], by simp⟩)
                (executed.cursors_eq rfl)
      | resolvedRunConfig runId loaded cursor mode =>
          obtain rfl := Phase.collecting.inj stays
          obtain ⟨db, ok, rfl⟩ := commit_eq_ok (executed.perform_eq (by simp) (by simp))
          refine ⟨fun turned => ?_, fun held snapshot found => ?_⟩
          · obtain ⟨row, before⟩ := fresh.turned turned
            obtain ⟨row', after, -⟩ := resolvedRunConfig_row ok before
            exact ⟨row', after⟩
          · obtain ⟨row, before, same⟩ := fresh.held held snapshot found
            obtain ⟨row', after, kept⟩ := resolvedRunConfig_row ok before
            exact ⟨row', after, kept.trans same⟩
      | persistResult loaded dispatch runId mode page =>
          simp only at stays
          split at stays
          · simp at stays
          · obtain rfl := Phase.collecting.inj stays
            obtain ⟨rfl, rfl, -, rfl, storable⟩ := allowed
            obtain ⟨db, ok, rfl⟩ := commitUnit_eq_ok (executed.perform_eq (by simp) (by simp))
            obtain ⟨target, db₁, found, unrevised, -, written, -⟩ := persistResult_cursors ok
            obtain ⟨row, after⟩ := persistCursor_row (storable.paged.2 bounded) written
            refine ⟨fun _ => ⟨row, ?_⟩, fun held => absurd rfl held⟩
            rw [← after]
            exact (known.row_eq found unrevised db work.execution.mode).symm
      | readCursor targetId cursorType mode =>
          obtain rfl := Phase.collecting.inj stays
          obtain ⟨rfl, rfl⟩ := exec_readCursor done
          refine ⟨fun turned => by simp at turned, fun _ snapshot found => ?_⟩
          obtain ⟨row, written⟩ := fresh.turned allowed.1
          exact ⟨row, written, (current work told snapshot row found written).symm⟩
      | _ =>
          obtain rfl := Phase.collecting.inj stays
          exact fresh.of_cursors rfl rfl (.inl rfl) (executed.cursors_eq rfl)

/-- A run that has just been started or adopted has the row of its version as its snapshot. -/
theorem fresh_started {target : LoadedTarget} {dispatch : TargetDispatch} {mode : RunMode}
    {reply : Result (Answer (.startRun target dispatch mode))} {execution : Execution}
    {loaded : Option LoadedTarget}
    (executed : Executed deployed state who (.startRun target dispatch mode) reply state')
    (known : Known deployed state who (.locked execution loaded))
    (allowed : locked.allowed execution loaded (.startRun target dispatch mode))
    (next : (Phase.locked execution loaded).next (.startRun target dispatch mode) reply =
      .collecting work) : work.Fresh state'.database := by
  have cursors := executed.cursors_eq rfl
  obtain ⟨held, rfl, rfl⟩ := allowed
  have loadedFor := known.2 target held
  cases reply with
  | error raised => simp [Phase.next, Phase.raised] at next
  | ok value =>
      obtain ⟨runId, cursor⟩ := value
      obtain rfl := Phase.collecting.inj next
      have done := executed.perform_eq (by simp) (by simp)
      unfold perform at done
      simp only at done
      split at done
      · next started db ok =>
        obtain ⟨same, -⟩ := Prod.mk.inj done
        obtain rfl : started = (runId, cursor) := Except.ok.inj same
        obtain ⟨stored, found, unrevised, read, -⟩ := startRun_eq_ok ok
        rw [loadedFor.row_eq found unrevised] at read
        refine ⟨fun turned => by simp at turned, fun _ snapshot same => ⟨snapshot, ?_, rfl⟩⟩
        rw [← same]
        exact (Database.cursor_of_cursors cursors _ _ _ _).trans read.symm
      · simp at done

/-! ### One step -/

/-- The two conditions. -/
def Steady (deployed : Deployment) (state : Control) (phases : ℕ → Option Phase)
    (move : Move signature Choice Job Happening) : Prop :=
  Undisturbed deployed state phases move ∧ CurrentRead state phases move

/-- **A steady step keeps the snapshots fresh.** -/
theorem stepped_fresh (stepped : (discipline deployed).Stepped state phases move state' phases')
    (steady : Steady deployed state phases move) (sound : Sound deployed state phases)
    (fresh : Fresh state phases) : Fresh state' phases' := by
  have others : ∀ other work, phases other = some (.collecting work) → work.bounded →
      (∀ op choice, move ≠ .work other op choice) → work.Fresh state'.database := by
    intro other work told bounded passive
    refine (fresh other work told bounded).of_row rfl rfl (.inl rfl) ?_
    exact Database.cursor_eq_of_cursorsOf (steady.1 other work told bounded passive _ _ stepped) _ _ _
  intro other work told bounded
  cases stepped with
  | work who op choice bound allowed done =>
      by_cases same : other = who
      · subst same
        rw [Function.update_self] at told
        have next := Option.some.inj told
        have known := sound.known _ _ bound
        rcases collecting_of_next allowed next with ⟨before, rfl, tenure⟩ |
          ⟨execution, loaded, target, dispatch, mode, rfl, rfl⟩
        · have boundedBefore : before.bounded := by
            rw [← tenure]
            exact bounded
          exact fresh_next (fresh other before bound boundedBefore) boundedBefore known.2.1 allowed
            done steady.2 bound next
        · exact fresh_started (executed_of_exec done) known allowed next
      · rw [Function.update_of_ne same] at told
        exact others other work told bounded fun op choice moved => by
          simp only [Move.work.injEq] at moved
          exact same moved.1.symm
  | crash who bound =>
      by_cases same : other = who
      · subst same
        rw [Function.update_self] at told
        simp at told
      · rw [Function.update_of_ne same] at told
        exact others other work told bounded (by simp)
  | start who job free accepted =>
      by_cases same : other = who
      · subst same
        rw [Function.update_self] at told
        exact absurd (Option.some.inj told) (job_phase_ne job work)
      · rw [Function.update_of_ne same] at told
        exact others other work told bounded (by simp)
  | env happening happened => exact others other work told bounded (by simp)

/-! ### The page -/

/-- The exception of a stale cursor. -/
def staleCursor : PyError := ⟨.valueError, "target_cursor_stale"⟩

section Page

variable {rules : Rules} {db : Database} {context : ItemContext} {now : Int}
  {loaded : LoadedTarget} {dispatch : TargetDispatch} {runId : Uuid} {mode : RunMode}
  {page : PageWrite}

/-- No row of a page raises it. -/
theorem persistItem_never
    (quiet : ∀ provider operation payload,
      Never staleCursor (rules.normalizeAndClassify provider operation payload))
    (counted : Database × DownstreamCounts) (entry : RawItemEnvelope × Object) :
    Never staleCursor (persistItem rules context counted entry) := by
  refine never_bind ?_ fun facts _ => never_bind (quiet _ _ _) fun _ _ =>
    never_bind ?_ fun _ _ => never_bind ?_ fun _ _ => never_bind ?_ fun _ _ => never_ok
  · unfold factualPayload
    split
    · exact never_ok
    · split
      · exact never_raise (by decide)
      · split
        · exact never_ok
        · exact never_ok
  · unfold rawItem
    split
    · exact never_raise (by decide)
    · split
      · exact never_ok
      · exact never_ok
  · unfold observation
    split
    · split
      · exact never_ok
      · exact never_raise (by decide)
    · exact never_ok
  · unfold projection
    split
    · exact never_raise (by decide)
    · split
      · split
        · exact never_ok
        · exact never_raise (by decide)
      · exact never_ok

theorem persistFetchResult_never
    (quiet : ∀ provider operation payload,
      Never staleCursor (rules.normalizeAndClassify provider operation payload))
    (result : ProviderFetchResult) : Never staleCursor (persistFetchResult rules db context result) :=
  never_bind (never_require (by decide)) fun _ _ =>
    never_bind (never_foldlM fun _ _ _ => persistItem_never quiet _ _) fun _ _ => never_ok

/-- A decision does not raise it. -/
theorem decideCursor_never {reader : Reader} {strategy : CursorStrategy}
    {current candidate : Option String} :
    Never staleCursor (decideCursor reader strategy current candidate) := by
  have decoded : ∀ value, Never staleCursor (decodeCursor reader value) := by
    intro value
    cases value with
    | none => exact never_ok
    | some text =>
        refine never_bind ?_ fun _ _ => never_ok
        unfold decodePosition
        split
        · next raised _ =>
          split
          · exact never_raise (by decide)
          · next other =>
            intro same
            rw [Except.error.inj same] at other
            exact other (by decide)
        · split
          · exact never_raise (by decide)
          · exact never_ok
        · exact never_raise (by decide)
  refine never_bind (never_require (by decide)) fun _ _ => never_bind (decoded _) fun _ _ =>
    never_bind (decoded _) fun _ _ => ?_
  unfold decidePosition
  split
  · exact never_ok
  · exact never_ok
  · split
    · exact never_ok
    · split
      · exact never_ok
      · exact never_raise (by decide)

/-- The writes to the cursors raise it only if the row is not as in the snapshot. -/
theorem persistCursor_never {reader : Reader} {target : Target}
    (fresh : ∀ snapshot, page.snapshot = some snapshot → ∀ row,
      db.cursor target.id target.operationKey target.cursorVersion mode = some row →
      row.cursorValue = snapshot.cursorValue) :
    Never staleCursor (persistCursor reader db target runId mode page) := by
  unfold persistCursor
  split
  · refine never_bind ?_ fun ensured same => never_bind ?_ fun _ _ => never_bind ?_ fun _ _ =>
      never_ok
    · unfold ensureCursor
      split
      · exact never_ok
      · split
        · exact fun same => absurd (Except.error.inj same) (by decide)
        · exact never_ok
    · obtain ⟨row, db₁⟩ := ensured
      obtain ⟨found, -⟩ | ⟨absent, -⟩ := ensureCursor_eq_ok same
      · have current : notStale page.snapshot row = true := by
          cases snapshot : page.snapshot with
          | none => rfl
          | some held => simp [notStale, fresh held snapshot row found]
        simp [current, Never]
      · simp [absent, Never]
    · unfold advancedCursor
      simp only
      split
      · exact never_bind decideCursor_never fun _ _ => never_ok
      · split
        · exact never_ok
        · split
          · exact never_bind decideCursor_never fun _ _ => never_ok
          · exact never_ok
  · exact never_ok

/-- A page raises it only if the row is not as in the snapshot. -/
theorem persistResult_never
    (quiet : ∀ provider operation payload,
      Never staleCursor (rules.normalizeAndClassify provider operation payload))
    (fresh : ∀ target, db.target loaded.target.id = some target →
      target.configRevision = dispatch.configRevision → ∀ snapshot, page.snapshot = some snapshot →
      ∀ row, db.cursor target.id target.operationKey target.cursorVersion mode = some row →
      row.cursorValue = snapshot.cursorValue) :
    Never staleCursor (persistResult rules db now loaded dispatch runId mode page) := by
  unfold persistResult
  split
  · next target run held found =>
    refine never_bind (never_require (by decide)) fun _ unrevised =>
      never_bind (persistFetchResult_never quiet _) fun stored done =>
        never_bind (never_bind (never_require (by decide)) fun _ _ => never_ok) fun db₂ recorded => ?_
    obtain ⟨counts, db₁⟩ := stored
    have cursors : db₂.cursors = db.cursors :=
      (recordRejected_touches 0 recorded).2.2.2.trans (persistFetchResult_step done).1.cursors_eq
    have revision : target.configRevision = dispatch.configRevision := by
      simpa using require_eq_ok.1 unrevised
    refine persistCursor_never fun snapshot same row written => ?_
    exact fresh target held revision snapshot same row
      ((Database.cursor_of_cursors cursors _ _ _ _).symm.trans written)
  · exact never_raise (by decide)

end Page

/-! ### Histories -/

/-- What is known, and that the snapshots are fresh. -/
theorem steady_preserved : (discipline deployed).Preserves (Steady deployed)
    fun state phases => Sound deployed state phases ∧ Fresh state phases :=
  fun _ _ _ _ _ stepped steady kept =>
    ⟨sound_preserved stepped kept.1, stepped_fresh stepped steady kept.1 kept.2⟩

/-- **No page fails for a stale cursor**, in every steady history, unless the rules for payloads
raise this very exception. -/
theorem pages_never_stale {world : World signature (Result Ended) Control Job}
    (issued : state.database.Issued)
    (reached : (discipline deployed).Reaches (Steady deployed) (.initial state) world)
    {job : Job} {loaded : LoadedTarget} {dispatch : TargetDispatch} {runId : Uuid} {mode : RunMode}
    {page : PageWrite} {next : Result Unit → Program signature (Result Ended)}
    {log : List (Σ op : Op, Result (Answer op))}
    (asks : world.tasks who =
      some ⟨job, .call (.persistResult loaded dispatch runId mode page) next, log⟩)
    (paged : page.pageMode = true) :
    persistResult deployed.rules world.state.database world.state.now loaded dispatch runId mode
        page ≠ .error staleCursor ∨
      ∃ provider operation payload,
        deployed.rules.normalizeAndClassify provider operation payload = .error staleCursor := by
  obtain ⟨sound, fresh⟩ := reached.invariant _ steady_preserved (Discipline.adherent_initial _ _)
    ⟨⟨issued, fun _ _ told => by simp [Discipline.phases_initial] at told⟩,
      fun _ _ told => by simp [Discipline.phases_initial] at told⟩
  have allowed := (reached.adherent _ (Discipline.adherent_initial _ _) who _ asks).1
  obtain ⟨work, collects, mine⟩ := collecting_of_settles allowed rfl
  have told : (discipline deployed).phases world who = some (.collecting work) := by
    rw [← collects]
    simp [Discipline.phases, asks]
  obtain ⟨rfl, rfl, rfl, rfl, storable⟩ := mine
  have bounded : work.bounded := storable.paged.1 paged
  refine or_iff_not_imp_right.2 fun quiet => ?_
  push Not at quiet
  refine persistResult_never (fun provider operation payload => quiet provider operation payload)
    fun target found unrevised snapshot same row written => ?_
  obtain ⟨result, fetched, -⟩ := storable.fetched
  rw [storable.snapshot_eq] at same
  obtain ⟨current, read, value⟩ :=
    (fresh who work told bounded).held (by simp [fetched]) snapshot same
  rw [(sound.known _ _ told).2.1.row_eq found unrevised] at written
  obtain rfl := Option.some.inj (read.symm.trans written)
  exact value

/-! ### A worker alone -/

/-- The worker is about to store the second page of the news. -/
def secondPage : List (Event Choice Job Happening) :=
  .start (.execute newsDispatch) :: proceed 0 14 ++ .work 0 (.outcome (.ok (newsPage (some 2)))) ::
    proceed 0 6 ++ .work 0 (.outcome (.ok (newsPage none))) :: proceed 0 1

/-- A steady step of a worker that is alone. -/
def aloneStep (world : World signature (Result Ended) Control Job) :
    Event Choice Job Happening → Bool
  | .start _ => world.count == 0
  | .work who choice =>
      world.count == 1 && match world.tasks who with
        | some ⟨_, .call (.readCursor targetId cursorType mode) _, _⟩ =>
            match (discipline quoteDeployment).phases world who with
            | some (.collecting work) =>
                (queriedRow world.state.database targetId cursorType mode choice).all fun row =>
                  (work.row world.state.database).all (row.cursorValue == ·.cursorValue)
            | _ => true
        | _ => true
  | _ => false

theorem aloneStep_steady (world : World signature (Result Ended) Control Job)
    (event : Event Choice Job Happening) (move : Move signature Choice Job Happening)
    (asked : world.move event = some move) (passed : aloneStep world event = true) :
    Steady quoteDeployment world.state ((discipline quoteDeployment).phases world) move := by
  have started : ∀ who task, world.tasks who = some task → who < world.count := by
    intro who task held
    by_contra beyond
    simp [world.unstarted who (not_lt.1 beyond)] at held
  have collects : ∀ who work, (discipline quoteDeployment).phases world who =
      some (.collecting work) → who < world.count := by
    intro who work told
    obtain ⟨task, held, -⟩ := Option.map_eq_some_iff.1 told
    exact started who task held
  cases event with
  | start job =>
      obtain rfl := Option.some.inj asked
      have none : world.count = 0 := by simpa [aloneStep] using passed
      refine ⟨fun who work told => ?_, trivial⟩
      have := collects who work told
      omega
  | work who choice =>
      obtain ⟨single, passed⟩ := (Bool.and_eq_true _ _).mp passed
      have one : world.count = 1 := by simpa using single
      unfold World.move at asked
      simp only at asked
      split at asked
      · next job op rest log held =>
        obtain rfl := Option.some.inj asked
        have first := started who _ held
        refine ⟨fun other work told _ passive => ?_, ?_⟩
        · have second := collects other work told
          obtain rfl : who = other := by omega
          exact absurd rfl (passive op choice)
        · cases op with
          | readCursor targetId cursorType mode =>
              intro work told row current queried written
              simpa [held, told, queried, written] using passed
          | _ => exact trivial
      · simp at asked
  | crash | env => simp [aloneStep] at passed

/-- The last exception a task has been answered with, if its last answer was one. -/
def lastRaised (world : World signature (Result Ended) Control Job) (who : Nat) : Option PyError :=
  (world.tasks who).bind fun task => task.log.getLast?.bind fun entry =>
    match entry.2 with
    | .error raised => some raised
    | .ok _ => none

/-- Whether a worker is about to store a page, and knows the cursor. -/
def aboutToStorePage (task : Task signature (Result Ended) Job) : Option (Bool × Bool) :=
  match task.program with
  | .call (.persistResult _ _ _ _ page) _ => some (page.pageMode, page.snapshot.isSome)
  | _ => none

/-- With the row of one version, the second page of the same worker is stored. -/
theorem pages_never_stale_news : ∃ (world : World signature (Result Ended) Control Job)
      (loaded : LoadedTarget) (dispatch : TargetDispatch) (runId : Uuid) (mode : RunMode)
      (page : PageWrite), page.pageMode = true ∧ page.snapshot.isSome = true ∧
    (persistResult quoteRules world.state.database world.state.now loaded dispatch runId mode
        page ≠ .error staleCursor ∨
      ∃ provider operation payload,
        quoteRules.normalizeAndClassify provider operation payload = .error staleCursor) := by
  have ran : (((World.initial (newsControl [newsCursor 31 2 earlyQuote])).checked
      (controlPlane quoteDeployment) aloneStep secondPage).bind fun world =>
        (world.tasks 0).bind aboutToStorePage) = some (true, true) := by
    decide +kernel
  obtain ⟨world, reached, about⟩ := Option.bind_eq_some_iff.1 ran
  obtain ⟨⟨job, program, log⟩, held, asks⟩ := Option.bind_eq_some_iff.1 about
  unfold aboutToStorePage at asks
  simp only at asks
  split at asks
  · next loaded dispatch runId mode page next =>
    obtain ⟨paged, snapshot⟩ := Prod.mk.inj (Option.some.inj asks)
    have issued : (newsControl [newsCursor 31 2 earlyQuote]).database.Issued :=
      ⟨quoteTables_issued.given, quoteTables_issued.distinct⟩
    exact ⟨world, loaded, dispatch, runId, mode, page, paged, snapshot,
      pages_never_stale issued (.of_checked _ aloneStep_steady (.refl _) reached) held paged⟩
  · simp at asks

/-- **The rows of two versions are left, and the worker, which nobody disturbs, reads the older
one again**: its second page fails. -/
theorem page_went_stale :
    ((World.initial (newsControl [newsCursor 30 1 lateQuote, newsCursor 31 2 earlyQuote])).run
      (controlPlane quoteDeployment) (secondPage ++ proceed 0 1)).bind (lastRaised · 0) =
        some staleCursor := by
  decide +kernel

end NewsCollect.Collection
