/-
**An abandonment is reviewed, and clears what it has been shown.**

The continuations of a target of a bounded operation are bound to its runs, whatever workers and
operators have done. An operator who abandons them hands in the tokens of all that are pending; the
tokens are compared, the target must be paused and idle, and then the continuations and their
bindings are cleared, and nothing else.

* `Reviewable`: every continuation of the target is bound to a run of it.
* `ReviewedAt`: the tokens of a target, and what is abandoned with them.
* `abandonment_reviewed`.
* `cleared_not_listed`: where nothing is pending an abandonment returns 0, whatever the status.
-/

import NewsCollect.Library.Unordered
import NewsCollect.Proof.Revisions

namespace NewsCollect.Collection.Operators

open Calendar Providers

/-! ### Continuations and their runs -/

/-- A continuation of a row is not empty, and is bound to a run of the target. -/
def BoundTo (db : Database) (targetId : Uuid) (row : Cursor) : Prop :=
  ∀ continuation, row.continuation = some continuation → continuation ≠ [] ∧
    ∃ runId run, row.continuationRunId = some runId ∧ db.run runId = some run ∧
      run.targetId = some targetId

/-- What a worker has in hand is a run of the target of its dispatch; the target in question is
collected page by page. -/
structure Paged (db : Database) (targetId : Uuid) (held : Held) : Prop where
  target_eq : held.loaded.target.id = held.dispatch.targetId
  paged : held.dispatch.targetId = targetId →
    held.loaded.contract.paginationCapability = .boundedWindowV1
  run : ∀ runId cursor, held.run = some (runId, cursor) → ∃ run,
    db.run runId = some run ∧ run.targetId = some held.dispatch.targetId

/-- **What is known of a target of a bounded operation**, which has no legacy cursor. -/
structure Reviewable (targetId : Uuid) (desk : Desk) : Prop where
  issued : desk.database.Issued
  cursorsIssued : desk.database.CursorsIssued
  unmirrored : ∀ target, desk.database.target targetId = some target →
    target.legacyCursorType = none
  bound : ∀ row ∈ desk.database.cursors, row.targetId = some targetId →
    BoundTo desk.database targetId row
  hands : ∀ who held, desk.held who = some held → Paged desk.database targetId held

section Preserved

variable {db db' : Database} {desk next : Desk} {targetId : Uuid} {rules : Rules}
  {deployed : Deployment}

/-- The runs keep what they were started with. -/
def KeepsRuns (db db' : Database) : Prop :=
  ∀ id run, db.run id = some run → ∃ run', db'.run id = some run' ∧ run'.identity = run.identity

theorem KeepsRuns.of_map (same : ∀ id, (db'.run id).map Run.identity = (db.run id).map Run.identity) :
    KeepsRuns db db' := by
  intro id run found
  have kept := same id
  rw [found] at kept
  exact Option.map_eq_some_iff.1 kept

theorem BoundTo.mono {row : Cursor} (bound : BoundTo db targetId row) (runs : KeepsRuns db db') :
    BoundTo db' targetId row := by
  intro continuation there
  obtain ⟨some, runId, run, named, found, of⟩ := bound continuation there
  obtain ⟨run', found', same⟩ := runs runId run found
  exact ⟨some, runId, run', named, found', (congrArg RunIdentity.targetId same).trans of⟩

theorem Paged.mono {held : Held} (paged : Paged db targetId held) (runs : KeepsRuns db db') :
    Paged db' targetId held where
  target_eq := paged.target_eq
  paged := paged.paged
  run runId cursor bound := by
    obtain ⟨run, found, of⟩ := paged.run runId cursor bound
    obtain ⟨run', found', same⟩ := runs runId run found
    exact ⟨run', found', (congrArg RunIdentity.targetId same).trans of⟩

/-- The tables change: the runs and the targets keep what they are, and each row of the target has
its continuation from before, or one that is bound. -/
theorem Reviewable.writes (reviewable : Reviewable targetId desk) (runs : KeepsRuns desk.database db)
    (issued : db.Issued) (cursorsIssued : db.CursorsIssued)
    (unmirrored : ∀ target, db.target targetId = some target → target.legacyCursorType = none)
    (rows : ∀ row ∈ db.cursors, row.targetId = some targetId → BoundTo db targetId row ∨
      ∃ old ∈ desk.database.cursors, old.targetId = row.targetId ∧
        old.continuation = row.continuation ∧ old.continuationRunId = row.continuationRunId) :
    Reviewable targetId (desk.commit (.ok (.done, db))).2 where
  issued := issued
  cursorsIssued := cursorsIssued
  unmirrored := unmirrored
  bound row member of := by
    rcases rows row member of with bound | ⟨old, inside, same, kept, named⟩
    · exact bound
    · have before := (reviewable.bound old inside (same.trans of)).mono runs
      intro continuation there
      obtain ⟨some, runId, run, bound, found, of'⟩ := before continuation (kept.trans there)
      exact ⟨some, runId, run, named.symm.trans bound, found, of'⟩
  hands who held inHand := (reviewable.hands who held inHand).mono runs

/-- What is in hand may change, if it is paged. -/
theorem Reviewable.hold (reviewable : Reviewable targetId desk) (who : Nat) {hand : Option Held}
    (paged : ∀ held, hand = some held → Paged desk.database targetId held) :
    Reviewable targetId (desk.hold who hand) where
  issued := reviewable.issued
  cursorsIssued := reviewable.cursorsIssued
  unmirrored := reviewable.unmirrored
  bound := reviewable.bound
  hands other held inHand := by
    by_cases same : other = who
    · subst same
      have set : (desk.hold other hand).held other = hand := Function.update_self ..
      exact paged held (set.symm.trans inHand)
    · have kept : (desk.hold who hand).held other = desk.held other :=
        Function.update_of_ne same ..
      exact reviewable.hands other held (kept.symm.trans inHand)

/-- The legacy cursor type of a target is part of its configuration. -/
theorem unmirrored_of_configured (reviewable : Reviewable targetId desk)
    (same : ∀ id, (db.target id).map Target.configured =
      (desk.database.target id).map Target.configured) :
    ∀ target, db.target targetId = some target → target.legacyCursorType = none := by
  intro target found
  have kept := same targetId
  rw [found] at kept
  obtain ⟨old, held, equal⟩ := Option.map_eq_some_iff.1 kept.symm
  exact (congrArg Target.legacyCursorType equal : old.configured.legacyCursorType =
    target.configured.legacyCursorType).symm.trans (reviewable.unmirrored old held)

/-! ### What is loaded -/

/-- The contract of a target that is loaded has its legacy cursor type. -/
theorem loadForExecution_legacy {registry : OperationRegistry} {revision : Int}
    {loaded : LoadedTarget} (ok : loadForExecution registry db targetId revision = .ok loaded) :
    loaded.target.legacyCursorType = loaded.contract.legacyCursorType := by
  unfold loadForExecution at ok
  split at ok
  · exact absurd ok nofun
  · obtain ⟨-, ok⟩ := check_eq_ok.1 ok
    obtain ⟨-, ok⟩ := check_eq_ok.1 ok
    split at ok
    · exact absurd ok nofun
    · obtain ⟨-, ok⟩ := check_eq_ok.1 ok
      obtain ⟨contract, -, ok⟩ := bind_eq_ok.1 ok
      obtain ⟨same, ok⟩ := check_eq_ok.1 ok
      obtain ⟨config, -, ok⟩ := bind_eq_ok.1 ok
      obtain rfl := pure_eq_ok.1 ok
      simpa using require_eq_ok.1 same

/-- The contracts without a legacy cursor fetch page by page. -/
theorem paged_of_registry {contract : OperationContract}
    (registered : contract ∈ buildOperationRegistry) (none : contract.legacyCursorType = none) :
    contract.paginationCapability = .boundedWindowV1 := by
  simp only [buildOperationRegistry, List.mem_cons, List.not_mem_nil, or_false] at registered
  rcases registered with rfl | rfl | rfl | rfl | rfl | rfl | rfl | rfl | rfl | rfl <;>
    first | rfl | exact absurd none nofun

theorem mem_of_resolve {registry : OperationRegistry} {provider operation : String}
    {configVersion contractVersion : Int} {contract : OperationContract}
    (ok : registry.resolve provider operation configVersion contractVersion = .ok contract) :
    contract ∈ registry := by
  unfold OperationRegistry.resolve at ok
  split at ok
  · next found =>
    obtain rfl := Except.ok.inj ok
    exact List.mem_of_find?_eq_some found
  · exact absurd ok nofun

/-- A dispatch that has been taken, of the target in question or of another one. -/
theorem Reviewable.taken (reviewable : Reviewable targetId desk) {dispatch : TargetDispatch}
    {mode : RunMode} {loaded : LoadedTarget}
    (found : loadForExecution buildOperationRegistry desk.database dispatch.targetId
      dispatch.configRevision = .ok loaded) :
    Paged desk.database targetId ⟨dispatch, mode, loaded, none⟩ where
  target_eq := loadForExecution_id found
  paged same := by
    obtain ⟨held, -, -, resolved, -⟩ := loadForExecution_eq_ok found
    have none : loaded.target.legacyCursorType = none :=
      reviewable.unmirrored loaded.target ((congrArg desk.database.target same).symm.trans held)
    exact paged_of_registry (mem_of_resolve resolved)
      ((loadForExecution_legacy found).symm.trans none)
  run := nofun

/-! ### What is written -/

theorem continuationFor_ne_nil {loaded : LoadedTarget} {mode : RunMode} {config : Object}
    {persisted : Cursor} {continuation : Object}
    (ok : continuationFor rules loaded mode config persisted = .ok continuation) :
    continuation ≠ [] := by
  unfold continuationFor at ok
  split at ok
  · next held waits =>
    obtain ⟨-, -, ok⟩ := bind_eq_ok.1 ok
    obtain rfl := pure_eq_ok.1 ok
    simpa using (Option.filter_eq_some_iff.1 waits).2
  · obtain ⟨-, ok⟩ := check_eq_ok.1 ok
    obtain ⟨-, -, ok⟩ := bind_eq_ok.1 ok
    obtain rfl := pure_eq_ok.1 ok
    exact List.cons_ne_nil _ _

/-- The continuation of a page that is one of several is not empty, and is bound to its run. -/
theorem advancedCursor_bound {reader : Reader} {target : Target} {runId : Uuid} {page : PageWrite}
    {cursor advanced : Cursor} (paged : page.pageMode = true)
    (ok : advancedCursor reader target runId page cursor = .ok advanced) {continuation : Object}
    (there : advanced.continuation = some continuation) :
    continuation ≠ [] ∧ advanced.continuationRunId = some runId := by
  unfold advancedCursor at ok
  rw [if_pos paged] at ok
  obtain ⟨⟨action, position⟩, -, ok⟩ := bind_eq_ok.1 ok
  obtain rfl := pure_eq_ok.1 ok
  have marked : ∀ (row : Cursor) (position : Option CursorPosition),
      (row.mark position).continuation = row.continuation ∧
        (row.mark position).continuationRunId = row.continuationRunId := by
    intro row position
    cases position with
    | none => exact ⟨rfl, rfl⟩
    | some position => exact ⟨rfl, rfl⟩
  rw [(marked _ _).1] at there
  rw [(marked _ _).2]
  exact ⟨by simpa using (Option.filter_eq_some_iff.1 there).2, congrArg (Option.map _) there⟩

/-- A row that has been found or added: the others are as they were. -/
theorem ensureCursor_rows {target : Target} {mode : RunMode} {missing : PyError} {cursor : Cursor}
    (issued : db.CursorsIssued) (ok : ensureCursor db target mode missing = .ok (cursor, db')) :
    db'.CursorsIssued ∧ ∀ row ∈ db'.cursors, row ∈ db.cursors ∨ row.continuation = none := by
  obtain ⟨-, rfl⟩ | ⟨-, account, -, -, rfl⟩ := ensureCursor_eq_ok ok
  · exact ⟨issued, fun row member => .inl member⟩
  · refine ⟨issued.addCursor fun _ => rfl, fun row member => ?_⟩
    rcases List.mem_append.1 member with old | new
    · exact .inl old
    · obtain rfl := List.mem_singleton.1 new
      exact .inr rfl

/-- A run is bound to its window, and its continuation to the run. -/
theorem Reviewable.resolved (reviewable : Reviewable targetId desk) {held : Held}
    (hand : Paged desk.database targetId held) {runId : Uuid} {cursor : Option Cursor}
    (bound : held.run = some (runId, cursor)) {config : Object × Object}
    (ok : resolvedRunConfig rules desk.database runId held.loaded cursor held.mode =
      .ok (config, db)) : Reviewable targetId (desk.commit (.ok (.done, db))).2 := by
  have touches := resolvedRunConfig_touches ok
  have runs : KeepsRuns desk.database db := .of_map touches.identity_eq
  obtain ⟨run, persisted, db₁, window, found, ensured, -, -, -, continued, rfl⟩ :=
    resolvedRunConfig_eq_ok ok
  obtain ⟨issued, rows⟩ := ensureCursor_rows reviewable.cursorsIssued ensured
  obtain ⟨there, named, -⟩ := ensureCursor_mem ensured
  have kept : (db₁.setRun runId (Run.bind window (rules.canonicalProjectionHash config.1))
      ).CursorsIssued := issued.of_cursors rfl rfl (Nat.le_refl _)
  refine reviewable.writes runs (touches.issued reviewable.issued)
    (kept.setCursor fun _ same => same)
    (unmirrored_of_configured reviewable touches.configured_eq) fun row member of => ?_
  obtain ⟨old, inside, rfl⟩ := Table.mem_modify.1 member
  by_cases same : old.id = persisted.id
  · -- the row is the one that has been found or added, as its identifier is its own
    rw [if_pos same] at of ⊢
    obtain rfl : old = persisted := by
      have first := Table.find_of_mem Cursor.id issued.distinct inside
      rw [same, Table.find_of_mem Cursor.id issued.distinct there] at first
      exact (Option.some.inj first).symm
    obtain ⟨run', found', of'⟩ := hand.run runId cursor bound
    obtain ⟨last, found'', same'⟩ := runs runId run' found'
    have target : some held.dispatch.targetId = some targetId := by
      rw [← of, ← hand.target_eq]
      exact named.symm
    refine .inl fun continuation stored => ?_
    obtain rfl := Option.some.inj stored
    exact ⟨continuationFor_ne_nil continued, runId, last, rfl, found'',
      ((congrArg RunIdentity.targetId same').trans of').trans target⟩
  · rw [if_neg same] at of ⊢
    rcases rows old inside with before | none
    · exact .inr ⟨old, before, rfl, rfl, rfl⟩
    · exact .inl fun continuation stored => absurd (none.symm.trans stored) nofun

/-- The row of the legacy runner has no target, or keeps its continuation. -/
theorem mirrorCursor_rows {target : Target} {result : ProviderFetchResult}
    (issued : db.CursorsIssued) : (mirrorCursor db target result).CursorsIssued ∧
      ∀ row ∈ (mirrorCursor db target result).cursors, row.targetId.isSome = true →
        ∃ old ∈ db.cursors, old.targetId = row.targetId ∧ old.continuation = row.continuation ∧
          old.continuationRunId = row.continuationRunId := by
  unfold mirrorCursor
  split
  · split
    · refine ⟨issued.setCursor fun _ same => same, fun row member _ => ?_⟩
      obtain ⟨old, inside, rfl⟩ := Table.mem_modify.1 member
      refine ⟨old, inside, ?_⟩
      split
      · exact ⟨rfl, rfl, rfl⟩
      · exact ⟨rfl, rfl, rfl⟩
    · refine ⟨issued.addCursor fun _ => rfl, fun row member given => ?_⟩
      rcases List.mem_append.1 member with old | new
      · exact ⟨row, old, rfl, rfl, rfl⟩
      · obtain rfl := List.mem_singleton.1 new
        exact absurd given nofun
  · exact ⟨issued, fun row member _ => ⟨row, member, rfl, rfl, rfl⟩⟩

/-- **A page is stored.** The row of the target is bound to the run in hand, or it is cleared. -/
theorem Reviewable.stored (reviewable : Reviewable targetId desk) {held : Held}
    (hand : Paged desk.database targetId held) {runId : Uuid} {cursor : Option Cursor}
    (bound : held.run = some (runId, cursor)) {page : PageWrite}
    (paged : page.pageMode = (held.loaded.contract.paginationCapability == .boundedWindowV1))
    (ok : persistResult rules desk.database desk.now held.loaded held.dispatch runId held.mode
      page = .ok db) : Reviewable targetId (desk.commit (.ok (.done, db))).2 := by
  obtain ⟨touches, -⟩ := persistResult_run ok
  have runs : KeepsRuns desk.database db := .of_map touches.identity_eq
  obtain ⟨target, db₁, found, -, same, written, issued⟩ := persistResult_cursors ok
  have start := issued reviewable.cursorsIssued
  obtain ⟨-, -, -, rfl⟩ | ⟨row, db₂, advanced, ensured, -, moved, rfl⟩ :=
    persistCursor_eq_ok written
  · exact reviewable.writes runs (touches.issued reviewable.issued) start
      (unmirrored_of_configured reviewable touches.configured_eq) fun row member _ =>
        .inr ⟨row, same ▸ member, rfl, rfl, rfl⟩
  · obtain ⟨issued', rows⟩ := ensureCursor_rows start ensured
    obtain ⟨-, named, -⟩ := ensureCursor_mem ensured
    obtain ⟨place, id⟩ := advancedCursor_place moved
    obtain ⟨issued'', mirrored⟩ := @mirrorCursor_rows _ target page.result
      (@Database.CursorsIssued.setCursor _ row.id (fun _ => advanced) issued' fun _ _ => id)
    refine reviewable.writes runs (touches.issued reviewable.issued) issued''
      (unmirrored_of_configured reviewable touches.configured_eq) fun last member of => ?_
    obtain ⟨next, inside, kept⟩ := mirrored last member (by rw [of]; rfl)
    obtain ⟨old, before, rfl⟩ := Table.mem_modify.1 inside
    by_cases here : old.id = row.id
    · rw [if_pos here] at kept
      have target' : held.dispatch.targetId = targetId := by
        have advances : advanced.targetId = row.targetId := congrArg CursorPlace.targetId place
        have both : some target.id = some targetId :=
          named.symm.trans (advances.symm.trans (kept.1.trans of))
        rw [← Option.some.inj both, Database.target_id _ found, hand.target_eq]
      have mode : page.pageMode = true := by rw [paged, hand.paged target']; rfl
      refine .inl fun continuation there => ?_
      obtain ⟨some, bound'⟩ := advancedCursor_bound mode moved (kept.2.1.trans there)
      obtain ⟨run', found', of'⟩ := hand.run runId cursor bound
      obtain ⟨run'', found'', same'⟩ := runs runId run' found'
      exact ⟨some, runId, run'', kept.2.2.symm.trans bound', found'',
        ((congrArg RunIdentity.targetId same').trans of').trans (congrArg _ target')⟩
    · rw [if_neg here] at kept
      rcases rows old before with first | none
      · exact .inr ⟨old, same ▸ first, kept⟩
      · exact .inl fun continuation there =>
          absurd (none.symm.trans (kept.2.1.trans there)) nofun

/-- An abandonment clears the rows that are pending. -/
theorem Reviewable.abandoned (reviewable : Reviewable targetId desk) (other : Uuid) :
    Reviewable targetId (desk.commit (.ok (.done, desk.database.abandon other))).2 := by
  have kept : ∀ cursor : Cursor, (if (cursor.targetId == some other &&
      cursor.continuation.isSome) = true then cursor.abandon else cursor).id = cursor.id := by
    intro cursor
    split
    · rfl
    · rfl
  refine reviewable.writes (fun _ run found => ⟨run, found, rfl⟩)
    (reviewable.issued.of_eq rfl rfl (Nat.le_refl _)) ⟨fun row member => ?_, ?_⟩
    reviewable.unmirrored fun row member of => ?_
  · obtain ⟨old, inside, rfl⟩ := List.mem_map.1 member
    obtain ⟨n, below, named⟩ := reviewable.cursorsIssued.given old inside
    exact ⟨n, below, named.trans (kept old).symm⟩
  · have same : (desk.database.abandon other).cursors.map Cursor.id =
        desk.database.cursors.map Cursor.id := by
      rw [Database.abandon, List.map_map]
      exact List.map_congr_left fun row _ => kept row
    exact same.symm ▸ reviewable.cursorsIssued.distinct
  · obtain ⟨old, inside, rfl⟩ := List.mem_map.1 member
    split at of
    · next pending =>
      rw [if_pos pending]
      exact .inl fun continuation there => absurd there nofun
    · next settled =>
      rw [if_neg settled]
      exact .inr ⟨old, inside, rfl, rfl, rfl⟩

/-- The targets after a write to one keep their legacy cursor type. -/
theorem Reviewable.setTarget (reviewable : Reviewable targetId desk) {id : Uuid}
    {change : Target → Target} (keeps : ∀ target, (change target).id = target.id)
    (mirrors : ∀ target, (change target).legacyCursorType = target.legacyCursorType) :
    Reviewable targetId (desk.commit (.ok (.done, desk.database.setTarget id change))).2 := by
  refine reviewable.writes (fun _ run found => ⟨run, found, rfl⟩)
    (reviewable.issued.of_eq rfl rfl (Nat.le_refl _))
    (reviewable.cursorsIssued.of_cursors rfl rfl (Nat.le_refl _)) (fun target' found => ?_)
    fun row member _ => .inr ⟨row, member, rfl, rfl, rfl⟩
  rcases target_setTarget keeps found with ⟨rfl, target, held, rfl⟩ | ⟨-, held⟩
  · exact (mirrors target).trans (reviewable.unmirrored target held)
  · exact reviewable.unmirrored target' held

/-- A run is adopted, or one is added. -/
theorem Reviewable.started (reviewable : Reviewable targetId desk) {held : Held}
    (hand : Paged desk.database targetId held) {started : Uuid × Option Cursor}
    (ok : startRun desk.database desk.now held.loaded held.dispatch held.mode =
      .ok (started, db)) : Reviewable targetId (desk.commit (.ok (.done, db))).2 ∧
      Paged db targetId { held with run := some started } := by
  obtain ⟨run, found, of, -, -⟩ := startRun_of reviewable.issued ok
  have after : Reviewable targetId (desk.commit (.ok (.done, db))).2 := by
    obtain ⟨target, held', -, -, ⟨-, -, -, rfl⟩ | ⟨-, -, rfl⟩⟩ := startRun_eq_ok ok
    · exact reviewable.writes (fun _ run found => ⟨run, found, rfl⟩) reviewable.issued
        reviewable.cursorsIssued reviewable.unmirrored fun row member _ =>
          .inr ⟨row, member, rfl, rfl, rfl⟩
    · have grows : Grows desk.database
          (desk.database.addRun (newRun target held.dispatch held.mode desk.now)) :=
        .addRun fun _ => rfl
      exact reviewable.writes grows.identity_kept (grows.issued reviewable.issued)
        (reviewable.cursorsIssued.of_cursors rfl rfl (Nat.le_succ _)) reviewable.unmirrored
        fun row member _ => .inr ⟨row, member, rfl, rfl, rfl⟩
  refine ⟨after, hand.target_eq, hand.paged, fun runId cursor same => ?_⟩
  obtain rfl := Option.some.inj same
  exact ⟨run, found, of.trans (congrArg some hand.target_eq)⟩

/-- **What is known is preserved by every transaction.** -/
theorem Reviewable.acted (reviewable : Reviewable targetId desk) {environ : String → String}
    {act : Act} {reply : Result Returned}
    (acted : desk.act ⟨rules, buildOperationRegistry, environ⟩ act = some (reply, next)) :
    Reviewable targetId next := by
  cases effect_of_act acted with
  | refused => exact reviewable
  | waited elapsed =>
      exact ⟨reviewable.issued, reviewable.cursorsIssued, reviewable.unmirrored, reviewable.bound,
        reviewable.hands⟩
  | taken who dispatch mode loaded named found =>
      refine reviewable.hold who fun held same => ?_
      obtain rfl := Option.some.inj same
      exact reviewable.taken found
  | left who =>
      exact reviewable.hold who fun held same => absurd same.symm (Option.some_ne_none held)
  | started who held inHand started db ok =>
      obtain ⟨after, hand⟩ := reviewable.started (reviewable.hands who held inHand) ok
      refine after.hold who fun other same => ?_
      obtain rfl := Option.some.inj same
      exact hand
  | stored who page held inHand runId cursor bound db paged ok =>
      exact reviewable.stored (reviewable.hands who held inHand) bound paged ok
  | revised id expected values revision db ok =>
      obtain ⟨-, -, -, -, -, -, status, strategy, mode, rfl, -⟩ := revise_eq_ok ok
      exact reviewable.setTarget (fun _ => rfl) fun _ => rfl
  | paused id expected db ok =>
      obtain ⟨-, -, -, -, ⟨-, rfl⟩ | ⟨-, rfl⟩⟩ := pause_eq_ok ok
      · exact reviewable.writes (fun _ run found => ⟨run, found, rfl⟩) reviewable.issued
          reviewable.cursorsIssued reviewable.unmirrored fun row member _ =>
            .inr ⟨row, member, rfl, rfl, rfl⟩
      · exact reviewable.setTarget (fun _ => rfl) fun _ => rfl
  | abandoned id expected tokens reason count db ok =>
      obtain rfl | rfl := abandon_eq_ok ok
      · exact reviewable.writes (fun _ run found => ⟨run, found, rfl⟩) reviewable.issued
          reviewable.cursorsIssued reviewable.unmirrored fun row member _ =>
            .inr ⟨row, member, rfl, rfl, rfl⟩
      · exact reviewable.abandoned id
  | resolved who held inHand runId cursor bound config db ok =>
      exact reviewable.resolved (reviewable.hands who held inHand) bound ok
  | kept act db quiet keeps continues =>
      exact reviewable.writes (.of_map keeps.identity_eq) (keeps.issued reviewable.issued)
        (continues.issued reviewable.cursorsIssued)
        (unmirrored_of_configured reviewable keeps.configured_eq) fun row member of =>
          .inr (continues.rows row member (by rw [of]; rfl))

end Preserved

/-! ### What an operator reviews -/

/-- The cursors of a target that have a continuation, in their order. -/
def pendingCursors (db : Database) (targetId : Uuid) : List Cursor :=
  (db.targetCursors targetId).filter fun cursor => cursor.continuation.isSome

/-- The token of a cursor that is pending. -/
structure TokenOf (rules : Rules) (cursor : Cursor) (token : PendingContinuationToken) : Prop where
  version : token.cursorVersion = cursor.cursorVersion
  mode : token.runMode = cursor.runMode.value
  run : cursor.continuationRunId = some token.boundRunId
  hash : ∃ continuation, cursor.continuation = some continuation ∧ continuation ≠ [] ∧
    token.continuationHash = rules.canonicalProjectionHash continuation

/-- A row after the continuations of a target have been abandoned: those that were pending have lost
their continuation and its run, and nothing else has changed. -/
structure Abandons (targetId : Uuid) (row row' : Cursor) : Prop where
  cleared : row.targetId = some targetId → row'.continuation = none ∧
    (row.continuation.isSome = true → row'.continuationRunId = none)
  kept : row'.targetId = row.targetId ∧ row'.cursorValue = row.cursorValue ∧
    row'.watermarkAt = row.watermarkAt ∧ row'.lastPublishedAt = row.lastPublishedAt
  others : ¬ (row.targetId = some targetId ∧ row.continuation.isSome = true) → row' = row

/-- The tables after the continuations of a target have been abandoned. -/
structure Abandoned (targetId : Uuid) (db db' : Database) : Prop where
  rows : List.Forall₂ (Abandons targetId) db.cursors db'.cursors
  targets : db'.targets = db.targets
  runs : db'.runs = db.runs

/-- **What an operator reviews of a target**: one token for each cursor that has a continuation. No
row of the target whose continuation is the JSON `null` may be listed with them. -/
structure ReviewedAt (rules : Rules) (desk : Desk) (target : Target)
    (tokens : List PendingContinuationToken) : Prop where
  pending : ∃ cursors, cursors.Perm (desk.database.cursors.filter fun cursor =>
      cursor.targetId == some target.id && cursor.continuation.isSome) ∧
    List.Forall₂ (TokenOf rules) cursors tokens
  listed : (∀ row ∈ desk.database.cursors, row.targetId = some target.id →
      row.id ∉ desk.jsonNulls) →
    pendingContinuations rules desk.database desk.jsonNulls target.id target.configRevision =
      .ok tokens
  abandons : ∀ expected given reason count db,
    abandonPendingContinuations rules desk.database target.id expected given reason =
        .ok (count, db) ↔
      reason ∈ abandonReasons ∧ expected = target.configRevision ∧ count = tokens.length ∧
        (tokens = [] ∧ db = desk.database ∨ tokens ≠ [] ∧ given = tokens ∧
          (∀ run ∈ desk.database.runs, run.targetId = some target.id → run.status ≠ .running) ∧
          target.status = .paused ∧ db = desk.database.abandon target.id)
  clears : Abandoned target.id desk.database (desk.database.abandon target.id)

section Reviewed

variable {db : Database} {desk : Desk} {targetId : Uuid} {rules : Rules}

theorem inFlight_eq_false : db.inFlight targetId = false ↔
    ∀ run ∈ db.runs, run.targetId = some targetId → run.status ≠ .running := by
  refine ⟨fun calm run member of => stopped_of_inFlight calm member of, fun stopped => ?_⟩
  refine List.any_eq_false.2 fun run member busy => ?_
  obtain ⟨of, running⟩ := Bool.and_eq_true_iff.1 busy
  exact stopped run member (by simpa using of) (by simpa using running)

theorem pendingCursors_perm : (pendingCursors db targetId).Perm (db.cursors.filter fun cursor =>
    cursor.targetId == some targetId && cursor.continuation.isSome) := by
  have sorted := List.perm_insertionSort (fun left right : Cursor => left.before right = true)
    (db.cursors.filter fun cursor => cursor.targetId == some targetId)
  have filtered := sorted.filter fun cursor => cursor.continuation.isSome
  rw [List.filter_filter] at filtered
  simpa only [pendingCursors, Database.targetCursors, Bool.and_comm] using filtered

theorem mem_pendingCursors {cursor : Cursor} : cursor ∈ pendingCursors db targetId ↔
    cursor ∈ db.cursors ∧ cursor.targetId = some targetId ∧ cursor.continuation.isSome = true := by
  rw [pendingCursors_perm.mem_iff, List.mem_filter, Bool.and_eq_true, beq_iff_eq]

theorem abandoned_rows : Abandoned targetId db (db.abandon targetId) where
  rows := by
    refine List.forall₂_map_right_iff.2 (List.forall₂_same.2 fun row _ => ?_)
    by_cases pending : (row.targetId == some targetId && row.continuation.isSome) = true
    · rw [if_pos pending]
      obtain ⟨of, there⟩ := Bool.and_eq_true_iff.1 pending
      exact ⟨fun _ => ⟨rfl, fun _ => rfl⟩, ⟨rfl, rfl, rfl, rfl⟩,
        fun other => absurd ⟨by simpa using of, there⟩ other⟩
    · rw [if_neg pending]
      have settled : row.targetId = some targetId → row.continuation = none := by
        intro of
        simpa [of] using pending
      refine ⟨fun of => ⟨settled of, fun there => ?_⟩, ⟨rfl, rfl, rfl, rfl⟩, fun _ => rfl⟩
      rw [settled of] at there
      exact absurd there Bool.false_ne_true
  targets := rfl
  runs := rfl

/-- Every cursor that is pending has its token. -/
theorem Reviewable.tokens (reviewable : Reviewable targetId desk) : ∃ tokens,
    (pendingCursors desk.database targetId).mapM (continuationToken rules) = .ok tokens ∧
      List.Forall₂ (TokenOf rules) (pendingCursors desk.database targetId) tokens ∧
      ∀ token ∈ tokens, ∃ run ∈ desk.database.runs, run.targetId = some targetId ∧
        run.id = token.boundRunId := by
  have each : ∀ cursor ∈ pendingCursors desk.database targetId, ∃ token,
      continuationToken rules cursor = .ok token ∧ TokenOf rules cursor token ∧
        ∃ run ∈ desk.database.runs, run.targetId = some targetId ∧ run.id = token.boundRunId := by
    intro cursor member
    obtain ⟨inside, of, there⟩ := mem_pendingCursors.1 member
    obtain ⟨continuation, held⟩ := Option.isSome_iff_exists.1 there
    obtain ⟨some, runId, run, named, found, of'⟩ :=
      reviewable.bound cursor inside of continuation held
    refine ⟨⟨cursor.cursorVersion, cursor.runMode.value, runId,
      rules.canonicalProjectionHash continuation⟩, ?_,
      ⟨rfl, rfl, named, continuation, held, some, rfl⟩, run, Table.mem_of_find Run.id found, of',
      Table.key_of_find Run.id found⟩
    unfold continuationToken
    rw [held, named]
  obtain ⟨tokens, ran, related⟩ := Unordered.mapM_ok_forall₂ fun cursor member =>
    (each cursor member).imp fun token made => made.1
  have known : ∀ cursor token, cursor ∈ pendingCursors desk.database targetId →
      continuationToken rules cursor = .ok token → TokenOf rules cursor token ∧
        ∃ run ∈ desk.database.runs, run.targetId = some targetId ∧ run.id = token.boundRunId := by
    intro cursor token member made
    obtain ⟨other, made', of⟩ := each cursor member
    obtain rfl := Except.ok.inj (made.symm.trans made')
    exact of
  refine ⟨tokens, ran, ?_, fun token member => ?_⟩
  · have inside : List.Forall₂ (fun cursor token => cursor ∈ pendingCursors desk.database targetId ∧
        continuationToken rules cursor = .ok token) (pendingCursors desk.database targetId) tokens :=
      (List.forall₂_and_left _ _).2 ⟨fun _ member => member, related⟩
    exact inside.imp fun cursor token made => (known cursor token made.1 made.2).1
  · obtain ⟨cursor, inside, made⟩ := Unordered.exists_of_mapM_ok ran member
    exact (known cursor token inside made).2

/-- A target that is found is found at its own revision, and at no other. -/
theorem targetAt_eq {target : Target} (found : db.target targetId = some target) (expected : Int) :
    db.targetAt targetId expected = if expected = target.configRevision then some target
      else none := by
  rw [Database.targetAt, found]
  by_cases same : expected = target.configRevision
  · rw [if_pos same]
    exact Option.filter_some_pos (beq_iff_eq.2 same.symm)
  · rw [if_neg same]
    exact Option.filter_some_neg (by simpa using Ne.symm same)

/-- Where no row of the target has the JSON `null`, what is listed is what is pending. -/
theorem pendingContinuations_eq {target : Target} {jsonNulls : List Uuid}
    (found : db.target targetId = some target)
    (clean : ∀ row ∈ db.cursors, row.targetId = some targetId → row.id ∉ jsonNulls) :
    pendingContinuations rules db jsonNulls targetId target.configRevision =
      (pendingCursors db targetId).mapM (continuationToken rules) := by
  unfold pendingContinuations pendingCursors
  rw [targetAt_eq found, if_pos rfl]
  refine congrArg (List.mapM _) (List.filter_congr fun cursor member => ?_)
  have inside : cursor ∈ db.cursors.filter fun cursor => cursor.targetId == some targetId :=
    (List.mem_insertionSort _).1 member
  obtain ⟨held, of⟩ := List.mem_filter.1 inside
  have absent : jsonNulls.contains cursor.id = false := by
    simpa using clean cursor held (by simpa using of)
  rw [absent, Bool.or_false]

/-- **An abandonment compares the tokens of all cursors that are pending**; then the target must be
paused, and none of its runs running. -/
theorem abandonPendingContinuations_iff {target : Target} {tokens : List PendingContinuationToken}
    (found : db.target targetId = some target)
    (ran : (pendingCursors db targetId).mapM (continuationToken rules) = .ok tokens)
    (length : (pendingCursors db targetId).length = tokens.length)
    (bound : ∀ token ∈ tokens, ∃ run ∈ db.runs, run.targetId = some targetId ∧
      run.id = token.boundRunId)
    {expected : Int} {given : List PendingContinuationToken} {reason : String} {count : Nat}
    {db' : Database} :
    abandonPendingContinuations rules db targetId expected given reason = .ok (count, db') ↔
      reason ∈ abandonReasons ∧ expected = target.configRevision ∧ count = tokens.length ∧
        (tokens = [] ∧ db' = db ∨ tokens ≠ [] ∧ given = tokens ∧
          (∀ run ∈ db.runs, run.targetId = some targetId → run.status ≠ .running) ∧
          target.status = .paused ∧ db' = db.abandon targetId) := by
  have known : (tokens.all fun token => db.runs.any fun run =>
      run.targetId == some targetId && run.id == token.boundRunId) = true := by
    refine List.all_eq_true.2 fun token member => ?_
    obtain ⟨run, inside, of, named⟩ := bound token member
    exact List.any_eq_true.2 ⟨run, inside, by simp [of, named]⟩
  have none : (pendingCursors db targetId).isEmpty = true ↔ tokens = [] := by
    rw [List.isEmpty_iff, ← List.length_eq_zero_iff, length, List.length_eq_zero_iff]
  unfold abandonPendingContinuations
  rw [check_eq_ok, require_eq_ok, List.contains_iff_mem, targetAt_eq found,
    ← inFlight_eq_false]
  refine and_congr_right fun _ => ?_
  by_cases same : expected = target.configRevision
  · rw [if_pos same, ← length]
    show (if (pendingCursors db targetId).isEmpty = true then _ else _) = _ ↔ _
    by_cases empty : tokens = []
    · rw [if_pos (none.2 empty), pure_eq_ok]
      have zero : (pendingCursors db targetId).length = 0 := by rw [length, empty]; rfl
      rw [zero, Prod.mk.injEq]
      exact ⟨fun returned => ⟨same, returned.1.symm, .inl ⟨empty, returned.2.symm⟩⟩,
        fun ⟨_, counted, kept⟩ => ⟨counted.symm, (kept.resolve_right fun some =>
          some.1 empty).2.symm⟩⟩
    · rw [if_neg (mt none.1 empty)]
      constructor
      · intro ok
        obtain ⟨actual, made, ok⟩ := bind_eq_ok.1 ok
        obtain rfl : tokens = actual := Except.ok.inj (ran.symm.trans made)
        obtain ⟨compared, ok⟩ := check_eq_ok.1 ok
        obtain ⟨calm, ok⟩ := check_eq_ok.1 ok
        obtain ⟨-, ok⟩ := check_eq_ok.1 ok
        obtain ⟨paused, ok⟩ := check_eq_ok.1 ok
        obtain ⟨counted, cleared⟩ := Prod.mk.inj (pure_eq_ok.1 ok)
        exact ⟨same, counted.symm, .inr ⟨empty, (beq_iff_eq.1 (require_eq_ok.1 compared)).symm,
          by simpa using require_eq_ok.1 calm, beq_iff_eq.1 (require_eq_ok.1 paused),
          cleared.symm⟩⟩
      · rintro ⟨-, counted, kept⟩
        obtain ⟨-, rfl, calm, paused, rfl⟩ := kept.resolve_left fun none => empty none.1
        refine bind_eq_ok.2 ⟨_, ran, check_eq_ok.2 ⟨require_eq_ok.2 (beq_self_eq_true _), ?_⟩⟩
        refine check_eq_ok.2 ⟨require_eq_ok.2 (by rw [calm]; rfl), ?_⟩
        refine check_eq_ok.2 ⟨require_eq_ok.2 known, ?_⟩
        exact check_eq_ok.2 ⟨require_eq_ok.2 (by rw [paused]; rfl),
          pure_eq_ok.2 (congrArg (·, _) counted.symm)⟩
  · rw [if_neg same]
    exact ⟨fun returned => absurd returned nofun, fun ⟨here, _⟩ => absurd here same⟩

/-- **What is known of a target says what an operator reviews of it.** -/
theorem Reviewable.reviewed (reviewable : Reviewable targetId desk) {target : Target}
    (found : desk.database.target targetId = some target) :
    ∃ tokens, ReviewedAt rules desk target tokens := by
  obtain ⟨tokens, ran, related, bound⟩ := @Reviewable.tokens _ _ rules reviewable
  obtain rfl : target.id = targetId := Database.target_id _ found
  exact ⟨tokens, ⟨pendingCursors desk.database target.id, pendingCursors_perm, related⟩,
    fun clean => (pendingContinuations_eq found clean).trans ran,
    fun expected given reason count db =>
      abandonPendingContinuations_iff found ran related.length_eq bound, abandoned_rows⟩

end Reviewed

/-- **An abandonment is reviewed and atomic.** In every state that the workers and the operators
reach, an operator sees one token for each cursor of the target that has a continuation, as far as no
cursor of the target has been cleared before; the tokens of all of them, for a target that is paused
and idle, clear them, and with any others, while there are some, the call raises. A transaction that
raises changes nothing. -/
theorem abandonment_reviewed {rules : Rules} {environ : String → String} {first desk : Desk}
    {log : List Happened} {targetId : Uuid} {target : Target} (starts : Reviewable targetId first)
    (runs : Runs ⟨rules, buildOperationRegistry, environ⟩ first log desk)
    (found : desk.database.target targetId = some target) :
    (∃ tokens, ReviewedAt rules desk target tokens) ∧
    ∀ entry ∈ log, ∀ raised, entry.reply = .error raised → entry.after = entry.before := by
  obtain ⟨reviewable, every⟩ := @Runs.invariant _ _ _ _ (Reviewable targetId) runs starts
    fun _ _ _ _ reviewable acted => reviewable.acted acted
  refine ⟨reviewable.reviewed found, fun entry member raised failed => ?_⟩
  obtain ⟨-, acted⟩ := every entry member
  obtain ⟨before, act, reply, after⟩ := entry
  obtain rfl : reply = .error raised := failed
  cases effect_of_act acted with
  | refused => rfl

/-! ### A target of the news -/

/-- The tables of the target of the news, with nothing in hand. -/
def newsDesk : Desk := ⟨(newsControl []).database, [], 0, fun _ => none⟩

/-- A worker stores a page of the target. -/
def newsPageStored (next : Option Int) : List Act :=
  [.take 0 newsDispatch, .start 0, .resolve 0, .reserve 0,
    .persist 0 ⟨none, newsPage next, true, true, "first page"⟩]

/-- The run fails after its first page, and an operator pauses the target. -/
def failedAndPaused : List Act :=
  newsPageStored (some 2) ++
    [.finishError 0 "provider_payload_invalid" false none, .pause 2 1]

theorem newsDesk_reviewable : Reviewable 2 newsDesk where
  issued := ⟨fun _ member => absurd member List.not_mem_nil, List.nodup_nil⟩
  cursorsIssued := ⟨fun _ member => absurd member List.not_mem_nil, List.nodup_nil⟩
  unmirrored target found := by
    obtain rfl := List.mem_singleton.1 (Table.mem_of_find Target.id found)
    rfl
  bound _ member := absurd member List.not_mem_nil
  hands _ _ held := absurd held nofun

/-- The second page of a run that has failed is pending; its token abandons it. -/
theorem abandonment_reviewed_news : ∃ log desk target token,
    Runs quoteDeployment newsDesk log desk ∧ desk.database.target 2 = some target ∧
    ReviewedAt quoteRules desk target [token] ∧
    abandonPendingContinuations quoteRules desk.database target.id 1 [token]
      "operator_reviewed_reset" = .ok (1, desk.database.abandon target.id) := by
  have traced : (newsDesk.trace quoteDeployment failedAndPaused).bind (fun ran =>
      (ran.2.database.target 2).map fun target => (target.configRevision, target.status,
        ran.2.database.inFlight target.id, (pendingCursors ran.2.database target.id).length)) =
      some (1, .paused, false, 1) := by
    decide +kernel
  obtain ⟨⟨log, desk⟩, ran, traced⟩ := Option.bind_eq_some_iff.1 traced
  obtain ⟨target, found, same⟩ := Option.map_eq_some_iff.1 traced
  simp only [Prod.mk.injEq] at same
  obtain ⟨revision, paused, calm, one⟩ := same
  have runs : Runs quoteDeployment newsDesk log desk := Runs.of_trace .refl ran
  obtain ⟨⟨tokens, reviewed⟩, -⟩ := abandonment_reviewed newsDesk_reviewable runs found
  obtain ⟨cursors, perm, related⟩ := reviewed.pending
  have length : tokens.length = 1 := by
    rw [← related.length_eq, perm.length_eq, ← pendingCursors_perm.length_eq, one]
  obtain ⟨token, rfl⟩ := List.length_eq_one_iff.1 length
  refine ⟨log, desk, target, token, runs, found, reviewed, (reviewed.abandons ..).2 ?_⟩
  exact ⟨by decide, revision.symm, rfl, .inr ⟨List.cons_ne_nil _ _, rfl, inFlight_eq_false.1 calm,
    paused, rfl⟩⟩

/-- **Where nothing is pending an abandonment raises nothing**: the target is active, and the call
returns 0 for any tokens. The listing of the same target fails, as the continuation that has been
cleared is found by its query, and is bound to no run. -/
theorem cleared_not_listed : ∃ log desk target, Runs quoteDeployment newsDesk log desk ∧
    Reviewable 2 newsDesk ∧ desk.database.target 2 = some target ∧
    pendingCursors desk.database 2 = [] ∧
    (target.status = .active ∧ ∀ tokens, abandonPendingContinuations quoteRules desk.database 2 1
      tokens "operator_reviewed_reset" = .ok (0, desk.database)) ∧
    pendingContinuations quoteRules desk.database desk.jsonNulls 2 1 =
      raise .targetRepositoryError "target_continuation_binding_invalid" := by
  have traced : (newsDesk.trace quoteDeployment (newsPageStored none)).map (fun ran =>
      ((ran.2.database.target 2).map fun target => (target.configRevision, target.status),
        (pendingCursors ran.2.database 2).isEmpty,
        pendingContinuations quoteRules ran.2.database ran.2.jsonNulls 2 1)) =
      some (some (1, .active), true,
        raise .targetRepositoryError "target_continuation_binding_invalid") := by
    decide +kernel
  obtain ⟨⟨log, desk⟩, ran, same⟩ := Option.map_eq_some_iff.1 traced
  simp only [Prod.mk.injEq] at same
  obtain ⟨target, none, listed⟩ := same
  obtain ⟨target, found, settings⟩ := Option.map_eq_some_iff.1 target
  obtain ⟨revision, active⟩ := Prod.mk.inj settings
  have empty : pendingCursors desk.database 2 = [] := List.isEmpty_iff.1 none
  refine ⟨log, desk, target, Runs.of_trace .refl ran, newsDesk_reviewable, found, empty,
    ⟨active, fun tokens => ?_⟩, listed⟩
  have ran : (pendingCursors desk.database 2).mapM (continuationToken quoteRules) = .ok [] := by
    rw [empty]
    rfl
  refine (abandonPendingContinuations_iff found ran (by rw [empty]; rfl)
    (fun _ member => absurd member List.not_mem_nil)).2 ?_
  exact ⟨by decide, revision.symm, rfl, .inl ⟨rfl, rfl⟩⟩

end NewsCollect.Collection.Operators
