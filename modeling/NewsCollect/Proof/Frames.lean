/-
**What a transaction leaves alone.**

Every transaction of a worker writes one run, the schedule of its target and the cursors of its
account. The identities of the runs, the configuration of the targets and the rows that other runs
have stored are the same after it.

* `Touches`: the frame of a transaction on a run.
* `Evolves`: the frame of any step.
* `startRun_eq_ok`, `resolvedRunConfig_eq_ok`, `reserveRequest_eq_ok`, `persistResult_eq_ok`: what a
  transaction that returned has done.
-/

import NewsCollect.Collection.Control

namespace NewsCollect.Collection

open Calendar Providers

/-! ### What never changes -/

/-- What a run is started with. -/
structure RunIdentity where
  sourceId : Uuid
  sourceAccountId : Option Uuid
  targetId : Option Uuid
  runMode : RunMode
  dispatchIdentity : Option DispatchIdentity
  startedAt : Int

def Run.identity (run : Run) : RunIdentity :=
  ⟨run.sourceId, run.sourceAccountId, run.targetId, run.runMode, run.dispatchIdentity,
    run.startedAt⟩

/-- The target without its schedule and its health: what its configuration is. -/
def Target.configured (target : Target) : Target :=
  { target with
    nextDueAt := 0
    nextRetryAt := none
    lastAttemptAt := none
    lastSuccessAt := none
    consecutiveFailures := 0
    healthStatus := .unknown
    lastErrorCode := none }

/-- **A later state of a target**: it has the identity of the target, and its configuration unless
it has been revised since. -/
structure Target.Succeeds (old new : Target) : Prop where
  id_eq : new.id = old.id
  sourceId_eq : new.sourceId = old.sourceId
  sourceAccountId_eq : new.sourceAccountId = old.sourceAccountId
  operationKey_eq : new.operationKey = old.operationKey
  legacyCursorType_eq : new.legacyCursorType = old.legacyCursorType
  revision_le : old.configRevision ≤ new.configRevision
  configured_eq : new.configRevision = old.configRevision → new.configured = old.configured

namespace Target.Succeeds

variable {old new last : Target}

theorem of_configured (same : new.configured = old.configured) : old.Succeeds new where
  id_eq := (congrArg Target.id same : new.configured.id = old.configured.id)
  sourceId_eq := (congrArg Target.sourceId same : new.configured.sourceId = old.configured.sourceId)
  sourceAccountId_eq := (congrArg Target.sourceAccountId same :
    new.configured.sourceAccountId = old.configured.sourceAccountId)
  operationKey_eq := (congrArg Target.operationKey same :
    new.configured.operationKey = old.configured.operationKey)
  legacyCursorType_eq := (congrArg Target.legacyCursorType same :
    new.configured.legacyCursorType = old.configured.legacyCursorType)
  revision_le := (congrArg Target.configRevision same :
    new.configured.configRevision = old.configured.configRevision).ge
  configured_eq := fun _ => same

theorem refl (target : Target) : target.Succeeds target := of_configured rfl

theorem trans (first : old.Succeeds new) (second : new.Succeeds last) : old.Succeeds last where
  id_eq := second.id_eq.trans first.id_eq
  sourceId_eq := second.sourceId_eq.trans first.sourceId_eq
  sourceAccountId_eq := second.sourceAccountId_eq.trans first.sourceAccountId_eq
  operationKey_eq := second.operationKey_eq.trans first.operationKey_eq
  legacyCursorType_eq := second.legacyCursorType_eq.trans first.legacyCursorType_eq
  revision_le := first.revision_le.trans second.revision_le
  configured_eq unrevised := by
    have before := first.revision_le
    have after := second.revision_le
    have here : new.configRevision = old.configRevision := by omega
    exact (second.configured_eq (unrevised.trans here.symm)).trans (first.configured_eq here)

end Target.Succeeds

/-- The source without its failures. -/
def Source.configured (source : Source) : Source := { source with consecutiveFailures := 0 }

namespace Database

/-- The raw items a run has stored. -/
def itemsOf (db : Database) (runId : Uuid) : List RawItem :=
  db.rawItems.filter fun row => row.collectionRunId = runId

/-- The observations a run has made. -/
def observationsOf (db : Database) (runId : Uuid) : List Observation :=
  db.observations.filter fun row => row.collectionRunId = runId

/-- Every run has an identifier of its own, which has been given. -/
structure Issued (db : Database) : Prop where
  given : ∀ run ∈ db.runs, ∃ n < db.issued, db.supply.id n = run.id
  distinct : (db.runs.map Run.id).Nodup

/-- A step that adds no run keeps this. -/
theorem Issued.of_eq {db db' : Database} (issued : db.Issued) (runs : db'.runs = db.runs)
    (supply : db'.supply = db.supply) (later : db.issued ≤ db'.issued) : db'.Issued := by
  refine ⟨fun run member => ?_, runs ▸ issued.distinct⟩
  obtain ⟨n, below, named⟩ := issued.given run (runs ▸ member)
  exact ⟨n, Nat.lt_of_lt_of_le below later, supply ▸ named⟩

/-! ### Reading after a write -/

variable (db : Database)

@[simp] theorem run_setTarget (id : Uuid) (change : Target → Target) (runId : Uuid) :
    (db.setTarget id change).run runId = db.run runId := rfl

@[simp] theorem run_setSource (id : Uuid) (change : Source → Source) (runId : Uuid) :
    (db.setSource id change).run runId = db.run runId := rfl

@[simp] theorem run_setCursor (id : Uuid) (change : Cursor → Cursor) (runId : Uuid) :
    (db.setCursor id change).run runId = db.run runId := rfl

@[simp] theorem run_addCursor (row : Uuid → Cursor) (runId : Uuid) :
    (db.addCursor row).run runId = db.run runId := rfl

theorem run_setRun_same {id : Uuid} (change : Run → Run)
    (keeps : ∀ run, (change run).id = run.id) :
    (db.setRun id change).run id = (db.run id).map change :=
  Table.find_modify_same change keeps _ _

theorem run_setRun_ne {id other : Uuid} (change : Run → Run)
    (keeps : ∀ run, (change run).id = run.id) (different : other ≠ id) :
    (db.setRun id change).run other = db.run other :=
  Table.find_modify_ne change keeps different

theorem target_setTarget_same {id : Uuid} (change : Target → Target)
    (keeps : ∀ target, (change target).id = target.id) :
    (db.setTarget id change).target id = (db.target id).map change :=
  Table.find_modify_same change keeps _ _

theorem target_setTarget_ne {id other : Uuid} (change : Target → Target)
    (keeps : ∀ target, (change target).id = target.id) (different : other ≠ id) :
    (db.setTarget id change).target other = db.target other :=
  Table.find_modify_ne change keeps different

theorem target_id {targetId : Uuid} {target : Target} (found : db.target targetId = some target) :
    target.id = targetId :=
  Table.key_of_find _ found

/-- A new run has an identifier of its own. -/
theorem run_fresh {db : Database} (issued : db.Issued) : db.run db.fresh = none := by
  refine (Table.find_eq_none Run.id).2 fun run member same => ?_
  obtain ⟨n, given, named⟩ := issued.given run member
  have : n = db.issued := db.supply.injective (named.trans same)
  omega

end Database

/-! ### The frame of a transaction on a run -/

/-- **What a transaction on a run may change.** -/
structure Touches (runId : Uuid) (db db' : Database) : Prop where
  configured_eq : ∀ id, (db'.target id).map Target.configured = (db.target id).map Target.configured
  sources_eq : db'.sources = db.sources
  accounts_eq : db'.accounts = db.accounts
  run_ne : ∀ id, id ≠ runId → db'.run id = db.run id
  identity_eq : ∀ id, (db'.run id).map Run.identity = (db.run id).map Run.identity
  itemsOf_ne : ∀ id, id ≠ runId → db'.itemsOf id = db.itemsOf id
  observationsOf_ne : ∀ id, id ≠ runId → db'.observationsOf id = db.observationsOf id
  supply_eq : db'.supply = db.supply
  issued_le : db.issued ≤ db'.issued
  issued : db.Issued → db'.Issued

namespace Touches

variable {runId : Uuid} {db db' db'' : Database}

theorem refl (runId : Uuid) (db : Database) : Touches runId db db :=
  ⟨fun _ => rfl, rfl, rfl, fun _ _ => rfl, fun _ => rfl, fun _ _ => rfl, fun _ _ => rfl, rfl,
    Nat.le_refl _, fun issued => issued⟩

theorem trans (first : Touches runId db db') (second : Touches runId db' db'') :
    Touches runId db db'' where
  configured_eq id := (second.configured_eq id).trans (first.configured_eq id)
  sources_eq := second.sources_eq.trans first.sources_eq
  accounts_eq := second.accounts_eq.trans first.accounts_eq
  run_ne id different := (second.run_ne id different).trans (first.run_ne id different)
  identity_eq id := (second.identity_eq id).trans (first.identity_eq id)
  itemsOf_ne id different := (second.itemsOf_ne id different).trans (first.itemsOf_ne id different)
  observationsOf_ne id different :=
    (second.observationsOf_ne id different).trans (first.observationsOf_ne id different)
  supply_eq := second.supply_eq.trans first.supply_eq
  issued_le := Nat.le_trans first.issued_le second.issued_le
  issued := second.issued ∘ first.issued

/-- A write to the run that keeps what it was started with. -/
theorem setRun (change : Run → Run) (keeps : ∀ run, (change run).id = run.id)
    (identical : ∀ run, (change run).identity = run.identity) :
    Touches runId db (db.setRun runId change) where
  configured_eq _ := rfl
  sources_eq := rfl
  accounts_eq := rfl
  run_ne _ different := db.run_setRun_ne change keeps different
  identity_eq id := by
    by_cases same : id = runId
    · subst same
      rw [db.run_setRun_same change keeps, Option.map_map]
      exact congrArg (fun f => (db.run id).map f) (funext identical)
    · rw [db.run_setRun_ne change keeps same]
  itemsOf_ne _ _ := rfl
  observationsOf_ne _ _ := rfl
  supply_eq := rfl
  issued_le := Nat.le_refl _
  issued issued := by
    refine ⟨fun run member => ?_, ?_⟩
    · obtain ⟨old, inside, rfl⟩ := Table.mem_modify.1 member
      obtain ⟨n, below, named⟩ := issued.given old inside
      refine ⟨n, below, named.trans ?_⟩
      split
      · exact (keeps old).symm
      · rfl
    · exact (Table.map_key_modify keeps db.runs runId).symm ▸ issued.distinct

/-- A write to the schedule of a target. -/
theorem setTarget {id : Uuid} (change : Target → Target)
    (keeps : ∀ target, (change target).configured = target.configured) :
    Touches runId db (db.setTarget id change) where
  configured_eq other := by
    have named : ∀ target, (change target).id = target.id := fun target => by
      show (change target).configured.id = target.configured.id
      rw [keeps]
    by_cases same : other = id
    · subst same
      rw [db.target_setTarget_same change named, Option.map_map]
      exact congrArg (fun f => (db.target other).map f) (funext keeps)
    · rw [db.target_setTarget_ne change named same]
  sources_eq := rfl
  accounts_eq := rfl
  run_ne _ _ := rfl
  identity_eq _ := rfl
  itemsOf_ne _ _ := rfl
  observationsOf_ne _ _ := rfl
  supply_eq := rfl
  issued_le := Nat.le_refl _
  issued issued := issued.of_eq rfl rfl (Nat.le_refl _)

theorem setCursor {id : Uuid} {change : Cursor → Cursor} :
    Touches runId db (db.setCursor id change) :=
  ⟨fun _ => rfl, rfl, rfl, fun _ _ => rfl, fun _ => rfl, fun _ _ => rfl, fun _ _ => rfl, rfl,
    Nat.le_refl _, fun issued => issued.of_eq rfl rfl (Nat.le_refl _)⟩

theorem addCursor {row : Uuid → Cursor} : Touches runId db (db.addCursor row) where
  configured_eq _ := rfl
  sources_eq := rfl
  accounts_eq := rfl
  run_ne _ _ := rfl
  identity_eq _ := rfl
  itemsOf_ne _ _ := rfl
  observationsOf_ne _ _ := rfl
  supply_eq := rfl
  issued_le := Nat.le_succ _
  issued issued := issued.of_eq rfl rfl (Nat.le_succ _)

/-- A write to the run and to the schedule of its target. -/
theorem setRunTarget (write : Run → Run) (change : Target → Target) {targetId : Uuid}
    (keeps : ∀ run, (write run).id = run.id)
    (identical : ∀ run, (write run).identity = run.identity)
    (configured : ∀ target, (change target).configured = target.configured) :
    Touches runId db ((db.setRun runId write).setTarget targetId change) :=
  (Touches.setRun write keeps identical).trans (Touches.setTarget change configured)

/-- Rows of the run are added. -/
theorem of_extends (adds : Extends runId db db') : Touches runId db db' where
  configured_eq id := by simp only [Database.target, adds.targets_eq]
  sources_eq := adds.sources_eq
  accounts_eq := adds.accounts_eq
  run_ne id _ := by simp only [Database.run, adds.runs_eq]
  identity_eq id := by simp only [Database.run, adds.runs_eq]
  itemsOf_ne id different := by
    obtain ⟨added, same, ours⟩ := adds.rawItems_eq
    have none : added.filter (fun row => row.collectionRunId = id) = [] := by
      refine List.filter_eq_nil_iff.2 fun row member => ?_
      simpa [ours row member] using different.symm
    simp only [Database.itemsOf, same, List.filter_append, none, List.append_nil]
  observationsOf_ne id different := by
    obtain ⟨added, same, ours⟩ := adds.observations_eq
    have none : added.filter (fun row => row.collectionRunId = id) = [] := by
      refine List.filter_eq_nil_iff.2 fun row member => ?_
      simpa [ours row member] using different.symm
    simp only [Database.observationsOf, same, List.filter_append, none, List.append_nil]
  supply_eq := adds.supply_eq
  issued_le := adds.issued_le
  issued issued := issued.of_eq adds.runs_eq adds.supply_eq adds.issued_le

end Touches

/-! ### The transactions of a worker -/

section Transactions

variable {rules : Rules} {db db' : Database} {now : Int} {loaded : LoadedTarget}
  {dispatch : TargetDispatch} {runId : Uuid} {mode : RunMode}

/-- Starting a run adopts the running run of the target, or adds one. -/
theorem startRun_eq_ok {started : Uuid × Option Cursor}
    (ok : startRun db now loaded dispatch mode = .ok (started, db')) :
    ∃ target, db.target loaded.target.id = some target ∧
      target.configRevision = dispatch.configRevision ∧
      started.2 = db.cursor target.id target.operationKey target.cursorVersion mode ∧
      ((∃ run, db.runningRun target.id mode = some run ∧ started.1 = run.id ∧ db' = db) ∨
        db.runningRun target.id mode = none ∧ started.1 = db.fresh ∧
          db' = db.addRun (newRun target dispatch mode now)) := by
  unfold startRun at ok
  split at ok
  · simp [raise] at ok
  · next target found =>
    obtain ⟨same, ok⟩ := check_eq_ok.1 ok
    refine ⟨target, found, by simpa using require_eq_ok.1 same, ?_⟩
    simp only at ok
    split at ok
    · next run held =>
      obtain ⟨rfl, rfl⟩ := Prod.mk.inj (pure_eq_ok.1 ok)
      exact ⟨rfl, .inl ⟨run, held, rfl, rfl⟩⟩
    · next absent =>
      obtain ⟨rfl, rfl⟩ := Prod.mk.inj (pure_eq_ok.1 ok)
      exact ⟨rfl, .inr ⟨absent, rfl, rfl⟩⟩

/-- A missing cursor is added, and nothing else is written. -/
theorem ensureCursor_eq_ok {target : Target} {missing : PyError} {cursor : Cursor}
    (ok : ensureCursor db target mode missing = .ok (cursor, db')) :
    db.cursor target.id target.operationKey target.cursorVersion mode = some cursor ∧ db' = db ∨
      db.cursor target.id target.operationKey target.cursorVersion mode = none ∧
        ∃ account, target.sourceAccountId = some account ∧
          cursor = newCursor account (some target.id) target.operationKey target.cursorVersion mode
            db.fresh ∧
          db' = db.addCursor (newCursor account (some target.id) target.operationKey
            target.cursorVersion mode) := by
  unfold ensureCursor at ok
  split at ok
  · next row found =>
    obtain ⟨rfl, rfl⟩ := Prod.mk.inj (Except.ok.inj ok)
    exact .inl ⟨found, rfl⟩
  · next absent =>
    split at ok
    · simp at ok
    · next account known =>
      obtain ⟨rfl, rfl⟩ := Prod.mk.inj (Except.ok.inj ok)
      exact .inr ⟨absent, account, known, rfl, rfl⟩

theorem ensureCursor_touches {target : Target} {missing : PyError} {cursor : Cursor}
    (ok : ensureCursor db target mode missing = .ok (cursor, db')) : Touches runId db db' := by
  obtain ⟨-, rfl⟩ | ⟨-, account, -, -, rfl⟩ := ensureCursor_eq_ok ok
  · exact .refl _ _
  · exact .addCursor

/-- Binding a run: its window, its configuration, its hash and its continuation. -/
theorem resolvedRunConfig_eq_ok {cursor : Option Cursor} {bound : Object × Object}
    (ok : resolvedRunConfig rules db runId loaded cursor mode = .ok (bound, db')) :
    ∃ run persisted db₁ window, db.run runId = some run ∧
      ensureCursor db loaded.target mode
        ⟨.targetRepositoryError, "target_cursor_requires_account_during_rollback"⟩ =
          .ok (persisted, db₁) ∧
      windowOf rules loaded mode run cursor persisted = .ok window ∧
      bound.1 = resolvedConfig loaded.config window ∧
      run.operationConfigHash.all (· == rules.canonicalProjectionHash bound.1) = true ∧
      continuationFor rules loaded mode bound.1 persisted = .ok bound.2 ∧
      db' = (db₁.setRun runId (Run.bind window (rules.canonicalProjectionHash bound.1))).setCursor
        persisted.id (Cursor.bind bound.2 runId) := by
  unfold resolvedRunConfig at ok
  split at ok
  · simp [raise] at ok
  · next run found =>
    obtain ⟨⟨persisted, db₁⟩, ensured, ok⟩ := bind_eq_ok.1 ok
    obtain ⟨window, chosen, ok⟩ := bind_eq_ok.1 ok
    obtain ⟨hashed, ok⟩ := check_eq_ok.1 ok
    obtain ⟨continuation, continued, ok⟩ := bind_eq_ok.1 ok
    obtain ⟨rfl, rfl⟩ := Prod.mk.inj (pure_eq_ok.1 ok)
    exact ⟨run, persisted, db₁, window, found, ensured, chosen, rfl, require_eq_ok.1 hashed,
      continued, rfl⟩

theorem resolvedRunConfig_touches {cursor : Option Cursor} {bound : Object × Object}
    (ok : resolvedRunConfig rules db runId loaded cursor mode = .ok (bound, db')) :
    Touches runId db db' := by
  obtain ⟨run, persisted, db₁, window, -, ensured, -, -, -, -, rfl⟩ := resolvedRunConfig_eq_ok ok
  exact (ensureCursor_touches ensured).trans ((Touches.setRun (Run.bind _ _) (fun _ => rfl)
    fun _ => rfl).trans .setCursor)

/-- A reservation counts the request of a run with budget left, or ends the run. -/
theorem reserveRequest_eq_ok {reservation : Reservation}
    (ok : reserveRequest db now loaded runId = .ok (reservation, db')) :
    ∃ run, db.run runId = some run ∧ Touches runId db db' ∧ db'.cursors = db.cursors ∧
      ((reservation = .exhausted ∧ db'.run runId = some (run.exhaust now) ∧
          (loaded.target.maxRequestsPerRun ≤ run.requestCount ∨
            loaded.target.maxPagesPerRun ≤ run.pageCount)) ∨
        (∃ deadline, reservation = .reserved deadline) ∧ db'.run runId = some run.reserve ∧
          (run.requestCount : Int) < loaded.target.maxRequestsPerRun ∧
          (run.pageCount : Int) < loaded.target.maxPagesPerRun) := by
  unfold reserveRequest at ok
  split at ok
  · simp [raise] at ok
  · next run found =>
    refine ⟨run, found, ?_⟩
    split at ok
    · next used =>
      split at ok
      · simp [raise] at ok
      · obtain ⟨rfl, rfl⟩ := Prod.mk.inj (Except.ok.inj ok)
        refine ⟨.setRunTarget (Run.exhaust now) (Target.exhaust now) (fun _ => rfl) (fun _ => rfl)
          fun _ => rfl, rfl, .inl ⟨rfl, ?_, used⟩⟩
        rw [Database.run_setTarget, db.run_setRun_same (Run.exhaust now) fun _ => rfl, found]
        rfl
    · next left =>
      obtain ⟨rfl, rfl⟩ := Prod.mk.inj (Except.ok.inj ok)
      refine ⟨.setRun Run.reserve (fun _ => rfl) fun _ => rfl, rfl,
        .inr ⟨⟨_, rfl⟩, ?_, by omega, by omega⟩⟩
      rw [db.run_setRun_same Run.reserve fun _ => rfl, found]
      rfl

/-- The frame of the writes of a page to the cursors: they touch no run. -/
theorem persistCursor_touches {target : Target} {page : PageWrite}
    (ok : persistCursor rules.reader db target runId mode page = .ok db') (other : Uuid) :
    Touches other db db' ∧ db'.runs = db.runs := by
  have mirrored : ∀ db : Database, Touches other db (mirrorCursor db target page.result) ∧
      (mirrorCursor db target page.result).runs = db.runs := by
    intro db
    unfold mirrorCursor
    split
    · split
      · exact ⟨.setCursor, rfl⟩
      · exact ⟨.addCursor, rfl⟩
    · exact ⟨.refl _ _, rfl⟩
  unfold persistCursor at ok
  split at ok
  · obtain ⟨⟨cursor, db₁⟩, ensured, ok⟩ := bind_eq_ok.1 ok
    obtain ⟨-, ok⟩ := check_eq_ok.1 ok
    obtain ⟨advanced, -, ok⟩ := bind_eq_ok.1 ok
    obtain rfl := pure_eq_ok.1 ok
    obtain ⟨touches, same⟩ := mirrored (db₁.setCursor cursor.id fun _ => advanced)
    have kept : db₁.runs = db.runs := by
      obtain ⟨-, rfl⟩ | ⟨-, account, -, -, rfl⟩ := ensureCursor_eq_ok ensured
      · rfl
      · rfl
    exact ⟨(ensureCursor_touches ensured).trans (Touches.setCursor.trans touches),
      same.trans kept⟩
  · obtain rfl := pure_eq_ok.1 ok
    exact ⟨.refl _ _, rfl⟩

/-- Storing a page: its rows, the rows it rejects, the run, the target and the cursors. -/
theorem persistResult_eq_ok {page : PageWrite}
    (ok : persistResult rules db now loaded dispatch runId mode page = .ok db') :
    ∃ target run counts db₁ db₂, db.target loaded.target.id = some target ∧
      db.run runId = some run ∧ target.configRevision = dispatch.configRevision ∧
      counts.new + counts.duplicates = counts.fetched ∧ Extends runId db db₁ ∧
      recordRejected db₁ target.id page.result.rejectedRowHashes = .ok db₂ ∧
      persistCursor rules.reader ((db₂.setRun runId (settledRun page counts now)).setTarget target.id
        (settledTarget page now)) target runId mode page = .ok db' := by
  unfold persistResult at ok
  split at ok
  · next target run held found =>
    obtain ⟨same, ok⟩ := check_eq_ok.1 ok
    obtain ⟨⟨counts, db₁⟩, stored, ok⟩ := bind_eq_ok.1 ok
    obtain ⟨db₂, recorded, ok⟩ := bind_eq_ok.1 ok
    obtain ⟨adds, -, counted⟩ := persistFetchResult_step stored
    exact ⟨target, run, counts, db₁, db₂, held, found, by simpa using require_eq_ok.1 same,
      counted, adds, recorded, ok⟩
  · simp [raise] at ok

theorem recordRejected_touches {targetId : Uuid} (other : Uuid) {hashes : List String}
    (ok : recordRejected db targetId hashes = .ok db') :
    Touches other db db' ∧ db'.runs = db.runs ∧ db'.targets = db.targets ∧
      db'.cursors = db.cursors := by
  obtain ⟨-, ok⟩ := check_eq_ok.1 ok
  obtain rfl := pure_eq_ok.1 ok
  exact ⟨⟨fun _ => rfl, rfl, rfl, fun _ _ => rfl, fun _ => rfl, fun _ _ => rfl, fun _ _ => rfl, rfl,
    Nat.le_refl _, fun issued => issued.of_eq rfl rfl (Nat.le_refl _)⟩, rfl, rfl, rfl⟩

theorem settledTarget_configured (page : PageWrite) (target : Target) :
    (settledTarget page now target).configured = target.configured := by
  unfold settledTarget
  split
  · rfl
  · split
    · rfl
    · rfl

theorem settledRun_identity (page : PageWrite) (counts : DownstreamCounts) (run : Run) :
    (settledRun page counts now run).identity = run.identity ∧
      (settledRun page counts now run).id = run.id := by
  unfold settledRun
  split
  · exact ⟨rfl, rfl⟩
  · split
    · exact ⟨rfl, rfl⟩
    · exact ⟨rfl, rfl⟩

/-- Storing a page settles its run, and touches no other. -/
theorem persistResult_run {page : PageWrite}
    (ok : persistResult rules db now loaded dispatch runId mode page = .ok db') :
    Touches runId db db' ∧ ∃ run counts, db.run runId = some run ∧
      counts.new + counts.duplicates = counts.fetched ∧
      db'.run runId = some (settledRun page counts now run) := by
  obtain ⟨target, run, counts, db₁, db₂, held, found, -, counted, adds, recorded, ok⟩ :=
    persistResult_eq_ok ok
  obtain ⟨rejected, sameRuns, -, -⟩ := recordRejected_touches runId recorded
  obtain ⟨cursors, kept⟩ := persistCursor_touches ok runId
  have named := fun run => (@settledRun_identity now page counts run).2
  refine ⟨(Touches.of_extends adds).trans (rejected.trans ((Touches.setRun _ named fun run =>
    (settledRun_identity page counts run).1).trans ((Touches.setTarget _
      (settledTarget_configured page)).trans cursors))), run, counts, found, counted, ?_⟩
  have before : db₂.run runId = some run := by
    rw [← found]
    simp only [Database.run, sameRuns, adds.runs_eq]
  calc db'.run runId
      = (db₂.setRun runId (settledRun page counts now)).run runId := by
        simp only [Database.run, kept]
        rfl
    _ = some (settledRun page counts now run) := by
        rw [db₂.run_setRun_same _ named, before]
        rfl

/-- An error of a run: the run has vanished, the target has been revised, or the run fails or is
left to a retry. -/
theorem finishError_cases (db : Database) (now : Int) (loaded : LoadedTarget)
    (dispatch : TargetDispatch) (runId : Uuid) (code : String) (retryable : Bool)
    (retryAfter : Option (Nat × Nat)) :
    (finishError db now loaded dispatch runId code retryable retryAfter = (false, db) ∧
        (db.run runId = none ∨ db.target loaded.target.id = none)) ∨
      ∃ run target, db.run runId = some run ∧ db.target loaded.target.id = some target ∧
        ((target.configRevision ≠ dispatch.configRevision ∧
            finishError db now loaded dispatch runId code retryable retryAfter =
              (false, db.setRun runId (failedRun now "stale_target_revision"))) ∨
          ∃ retry, retry = (retryable && decide (run.retryCount < 3)) ∧
            finishError db now loaded dispatch runId code retryable retryAfter =
              (retry, (db.setRun runId (erroredRun now code retry)).setTarget target.id
                (erroredTarget now code retry retryAfter))) := by
  unfold finishError
  cases found : db.run runId with
  | none => exact .inl ⟨rfl, .inl rfl⟩
  | some run =>
      cases held : db.target loaded.target.id with
      | none => exact .inl ⟨rfl, .inr rfl⟩
      | some target =>
          refine .inr ⟨run, target, rfl, rfl, ?_⟩
          simp only
          by_cases revised : target.configRevision ≠ dispatch.configRevision
          · rw [if_pos revised]
            exact .inl ⟨revised, rfl⟩
          · rw [if_neg revised]
            exact .inr ⟨_, rfl, rfl⟩

theorem finishError_touches {code : String} {retryable : Bool} {retryAfter : Option (Nat × Nat)} :
    Touches runId db (finishError db now loaded dispatch runId code retryable retryAfter).2 := by
  obtain ⟨same, -⟩ | ⟨run, target, -, -, ⟨-, same⟩ | ⟨retry, -, same⟩⟩ :=
    finishError_cases db now loaded dispatch runId code retryable retryAfter
  · rw [same]
    exact .refl _ _
  · rw [same]
    exact .setRun _ (fun _ => rfl) fun _ => rfl
  · rw [same]
    exact .setRunTarget (erroredRun now code retry) (erroredTarget now code retry retryAfter)
      (fun _ => rfl) (fun _ => rfl) fun _ => rfl

theorem finishLockLost_touches :
    Touches runId db (finishLockLost db now loaded dispatch runId) := by
  unfold finishLockLost
  split
  · split
    · exact .setRun _ (fun _ => rfl) fun _ => rfl
    · exact .setRunTarget (lostRun now) (lostTarget now) (fun _ => rfl) (fun _ => rfl) fun _ => rfl
  · exact .refl _ _

/-- A missing credential is noted in the schedule of the target, and nowhere else. -/
theorem markCredentialMissing_touches (other : Uuid) :
    Touches other db (markCredentialMissing db now loaded) ∧
      (markCredentialMissing db now loaded).runs = db.runs ∧
      (markCredentialMissing db now loaded).cursors = db.cursors ∧
      (markCredentialMissing db now loaded).rawItems = db.rawItems ∧
      (markCredentialMissing db now loaded).observations = db.observations := by
  unfold markCredentialMissing
  split
  · split
    · exact ⟨.setTarget _ fun _ => rfl, rfl, rfl, rfl, rfl⟩
    · exact ⟨.refl _ _, rfl, rfl, rfl, rfl⟩
  · exact ⟨.refl _ _, rfl, rfl, rfl, rfl⟩

end Transactions

/-! ### The frame of any step -/

/-- **What any step may change in the tables.** -/
structure Grows (db db' : Database) : Prop where
  succeeds : ∀ id target, db.target id = some target →
    ∃ target', db'.target id = some target' ∧ target.Succeeds target'
  sources_eq : ∀ id, (db'.source id).map Source.configured = (db.source id).map Source.configured
  identity_kept : ∀ id run, db.run id = some run →
    ∃ run', db'.run id = some run' ∧ run'.identity = run.identity
  supply_eq : db'.supply = db.supply
  issued_le : db.issued ≤ db'.issued
  issued : db.Issued → db'.Issued

namespace Grows

variable {db db' db'' : Database}

theorem refl (db : Database) : Grows db db :=
  ⟨fun _ target found => ⟨target, found, .refl _⟩, fun _ => rfl,
    fun _ run found => ⟨run, found, rfl⟩, rfl, Nat.le_refl _, fun issued => issued⟩

theorem trans (first : Grows db db') (second : Grows db' db'') : Grows db db'' where
  succeeds id target found := by
    obtain ⟨next, held, succeeds⟩ := first.succeeds id target found
    obtain ⟨last, held', succeeds'⟩ := second.succeeds id next held
    exact ⟨last, held', succeeds.trans succeeds'⟩
  sources_eq id := (second.sources_eq id).trans (first.sources_eq id)
  identity_kept id run found := by
    obtain ⟨next, held, same⟩ := first.identity_kept id run found
    obtain ⟨last, held', same'⟩ := second.identity_kept id next held
    exact ⟨last, held', same'.trans same⟩
  supply_eq := second.supply_eq.trans first.supply_eq
  issued_le := Nat.le_trans first.issued_le second.issued_le
  issued := second.issued ∘ first.issued

theorem of_touches {runId : Uuid} (touches : Touches runId db db') : Grows db db' where
  succeeds id target found := by
    have same := touches.configured_eq id
    rw [found] at same
    obtain ⟨target', held, kept⟩ := Option.map_eq_some_iff.1 same
    exact ⟨target', held, .of_configured kept⟩
  sources_eq id := by simp only [Database.source, touches.sources_eq]
  identity_kept id run found := by
    have same := touches.identity_eq id
    rw [found] at same
    exact Option.map_eq_some_iff.1 same
  supply_eq := touches.supply_eq
  issued_le := touches.issued_le
  issued := touches.issued

theorem addRun {row : Uuid → Run} (named : ∀ id, (row id).id = id) : Grows db (db.addRun row) where
  succeeds _ target found := ⟨target, found, .refl _⟩
  sources_eq _ := rfl
  identity_kept id run found := by
    refine ⟨run, ?_, rfl⟩
    show Table.find Run.id (db.runs ++ [row db.fresh]) id = some run
    rw [Table.find_append, show Table.find Run.id db.runs id = some run from found]
    rfl
  supply_eq := rfl
  issued_le := Nat.le_succ _
  issued issued := by
    refine ⟨fun run member => ?_, ?_⟩
    · rcases List.mem_append.1 member with old | new
      · obtain ⟨n, below, same⟩ := issued.given run old
        exact ⟨n, Nat.lt_succ_of_lt below, same⟩
      · obtain rfl := List.mem_singleton.1 new
        exact ⟨db.issued, Nat.lt_succ_self _, (named _).symm⟩
    · show ((db.runs ++ [row db.fresh]).map Run.id).Nodup
      rw [List.map_append, List.map_singleton, named]
      refine List.nodup_append.2 ⟨issued.distinct, List.nodup_singleton _, ?_⟩
      intro old member new fresh
      obtain ⟨run, inside, rfl⟩ := List.mem_map.1 member
      rw [List.mem_singleton.1 fresh]
      exact (Table.find_eq_none Run.id).1 (db.run_fresh issued) run inside

/-- A write to the failures of a source. -/
theorem setSource {id : Uuid} {change : Source → Source}
    (keeps : ∀ source, (change source).configured = source.configured) :
    Grows db (db.setSource id change) where
  succeeds _ target found := ⟨target, found, .refl _⟩
  sources_eq other := by
    have named : ∀ source, (change source).id = source.id := fun source => by
      show (change source).configured.id = source.configured.id
      rw [keeps]
    show (Table.find Source.id (Table.modify Source.id db.sources id change) other).map _ = _
    by_cases same : other = id
    · subst same
      rw [Table.find_modify_same change named, Option.map_map]
      exact congrArg (fun f => (db.source other).map f) (funext keeps)
    · rw [Table.find_modify_ne change named same]
      rfl
  identity_kept _ run found := ⟨run, found, rfl⟩
  supply_eq := rfl
  issued_le := Nat.le_refl _
  issued issued := issued.of_eq rfl rfl (Nat.le_refl _)

/-- A target goes to a later state of it. -/
theorem setTarget {id : Uuid} {change : Target → Target}
    (succeeds : ∀ target : Target, target.Succeeds (change target)) :
    Grows db (db.setTarget id change) where
  succeeds other old held := by
    by_cases same : other = id
    · subst same
      refine ⟨change old, ?_, succeeds old⟩
      rw [db.target_setTarget_same change fun target => (succeeds target).id_eq, held]
      rfl
    · refine ⟨old, ?_, .refl _⟩
      rw [db.target_setTarget_ne change (fun target => (succeeds target).id_eq) same, held]
  sources_eq _ := rfl
  identity_kept _ run found := ⟨run, found, rfl⟩
  supply_eq := rfl
  issued_le := Nat.le_refl _
  issued issued := issued.of_eq rfl rfl (Nat.le_refl _)

end Grows

/-- A revision. -/
theorem revise_grows {registry : OperationRegistry} {db db' : Database} {now : Int}
    {targetId : Uuid} {expected next : Int} {values : TargetRevision}
    (ok : revise registry db now targetId expected values = .ok (next, db')) : Grows db db' := by
  obtain ⟨target, -, -, -, -, -, status, strategy, mode, rfl, -⟩ := revise_eq_ok ok
  refine .setTarget fun target => ⟨rfl, rfl, rfl, rfl, rfl, ?_, fun same => ?_⟩
  · show target.configRevision ≤ target.configRevision + 1
    omega
  · exact absurd same (Int.ne_of_gt (Int.lt_succ target.configRevision))

/-- A pass over some runs that changes the tables a little at each of them. -/
theorem foldl_grows {step : Database × Nat → Run → Database × Nat}
    (grows : ∀ state run, Grows state.1 (step state run).1) (runs : List Run)
    (state : Database × Nat) : Grows state.1 (runs.foldl step state).1 := by
  induction runs generalizing state with
  | nil => exact .refl _
  | cons run runs ih => exact (grows state run).trans (ih _)

theorem recoverStaleTargetRuns_grows (db : Database) (redis : Redis) (now staleBefore delay : Int) :
    Grows db (recoverStaleTargetRuns db redis now staleBefore delay).1 := by
  refine foldl_grows (fun state run => ?_) _ (db, 0)
  unfold recoverTargetRun
  split
  · exact .refl _
  · split
    · exact .refl _
    · split
      · exact .refl _
      · exact .of_touches (.setRunTarget (failedRun now "stale_run") (staleTarget now delay)
          (fun _ => rfl) (fun _ => rfl) fun _ => rfl)

theorem recoverStaleRuns_grows (db : Database) (redis : Redis) (now staleAfter : Int) :
    Grows db (recoverStaleRuns db redis now staleAfter).1 := by
  refine foldl_grows (fun state run => ?_) _ (db, 0)
  unfold recoverRun
  split
  · exact .refl _
  · exact (Grows.of_touches (.setRun (staleRun now) (fun _ => rfl) fun _ => rfl)).trans
      (Grows.setSource fun _ => rfl)

end NewsCollect.Collection
