/-
**The rows of cursors.**

A cursor of a target is looked up by the operation, the version and the mode, one of the legacy
runner by the account. Two transactions of a worker write such rows; both find a row under its key,
or add it, and keep its key.

* `cursor_setCursor`, `cursor_addCursor`: the lookup after a write.
* `Database.CursorsIssued`: cursors with identifiers of their own.
* `Executed.cursors_eq`: what the other operations leave alone.
* `persistCursor_eq_ok`: the writes of a page.
-/

import NewsCollect.Proof.Steps

namespace NewsCollect.Collection

open Calendar Interleaving Providers

/-! ### Looking a cursor up -/

/-- What a cursor is looked up by. -/
structure CursorPlace where
  sourceAccountId : Uuid
  targetId : Option Uuid
  cursorType : String
  cursorVersion : Int
  runMode : RunMode

def Cursor.place (row : Cursor) : CursorPlace :=
  ⟨row.sourceAccountId, row.targetId, row.cursorType, row.cursorVersion, row.runMode⟩

namespace Database

variable (db : Database)

/-- The rows of a target. -/
def cursorsOf (targetId : Uuid) : List Cursor :=
  db.cursors.filter fun row => row.targetId = some targetId

variable {db}

/-- A lookup depends on the rows of the target only. -/
theorem cursor_eq_of_cursorsOf {db' : Database} {targetId : Uuid}
    (same : db'.cursorsOf targetId = db.cursorsOf targetId) (cursorType : String) (version : Int)
    (mode : RunMode) :
    db'.cursor targetId cursorType version mode = db.cursor targetId cursorType version mode := by
  have filtered : ∀ rows : List Cursor, rows.find? (fun row => row.targetId = some targetId ∧
        row.cursorType = cursorType ∧ row.cursorVersion = version ∧ row.runMode = mode) =
      (rows.filter fun row => row.targetId = some targetId).find? (fun row =>
        row.cursorType = cursorType ∧ row.cursorVersion = version ∧ row.runMode = mode) := by
    intro rows
    simp only [List.find?_filter, Bool.decide_and, Bool.decide_eq_true]
  unfold cursor
  rw [filtered, filtered]
  exact congrArg (List.find? _) same

theorem cursor_of_cursors {db' : Database} (same : db'.cursors = db.cursors) (targetId : Uuid)
    (cursorType : String) (version : Int) (mode : RunMode) :
    db'.cursor targetId cursorType version mode = db.cursor targetId cursorType version mode := by
  simp only [cursor, same]

/-- A row with the right key is found, or one before it. -/
theorem cursor_isSome_of_mem {targetId : Uuid} {cursorType : String} {version : Int}
    {mode : RunMode} {row : Cursor} (member : row ∈ db.cursors) (target : row.targetId = some targetId)
    (type : row.cursorType = cursorType) (versioned : row.cursorVersion = version)
    (moded : row.runMode = mode) : ∃ found, db.cursor targetId cursorType version mode = some found := by
  refine Option.isSome_iff_exists.1 (List.find?_isSome.2 ⟨row, member, ?_⟩)
  simp [target, type, versioned, moded]

/-- A row that is added changes no lookup that finds one. -/
theorem cursor_addCursor {targetId : Uuid} {cursorType : String} {version : Int} {mode : RunMode}
    {row : Cursor} (found : db.cursor targetId cursorType version mode = some row)
    (added : Uuid → Cursor) :
    (db.addCursor added).cursor targetId cursorType version mode = some row := by
  show (db.cursors ++ [added db.fresh]).find? _ = some row
  rw [List.find?_append, show db.cursors.find? _ = some row from found]
  rfl

/-- A write that keeps the keys of the rows keeps what is found. -/
theorem cursor_setCursor {id : Uuid} (change : Cursor → Cursor)
    (keeps : ∀ row, (change row).place = row.place) (targetId : Uuid) (cursorType : String)
    (version : Int) (mode : RunMode) :
    (db.setCursor id change).cursor targetId cursorType version mode =
      (db.cursor targetId cursorType version mode).map fun row =>
        if row.id = id then change row else row := by
  show (db.cursors.map _).find? _ = _
  rw [List.find?_map]
  refine congrArg (Option.map _) (congrArg (db.cursors.find? ·) (funext fun row => ?_))
  show decide _ = decide _
  have same : (if row.id = id then change row else row).place = row.place := by
    split
    · exact keeps row
    · rfl
  have target := congrArg CursorPlace.targetId same
  have type := congrArg CursorPlace.cursorType same
  have versioned := congrArg CursorPlace.cursorVersion same
  have moded := congrArg CursorPlace.runMode same
  simp only [Cursor.place] at target type versioned moded
  rw [target, type, versioned, moded]

/-- A row that is found is found again where it has been replaced by a row of its key. -/
theorem cursor_replace {targetId : Uuid} {cursorType : String} {version : Int} {mode : RunMode}
    {row written : Cursor} (found : db.cursor targetId cursorType version mode = some row)
    (place : written.place = row.place) :
    (db.setCursor row.id fun _ => written).cursor targetId cursorType version mode = some written := by
  have named := List.find?_some found
  have target := congrArg CursorPlace.targetId place
  have type := congrArg CursorPlace.cursorType place
  have versioned := congrArg CursorPlace.cursorVersion place
  have moded := congrArg CursorPlace.runMode place
  simp only [Cursor.place] at target type versioned moded
  have inside : written ∈ (db.setCursor row.id fun _ => written).cursors :=
    Table.mem_modify.2 ⟨row, List.mem_of_find?_eq_some found, (if_pos rfl).symm⟩
  simp only [Bool.decide_and, Bool.and_eq_true, decide_eq_true_eq] at named
  obtain ⟨first, held⟩ := cursor_isSome_of_mem inside (target.trans named.1)
    (type.trans named.2.1) (versioned.trans named.2.2.1) (moded.trans named.2.2.2)
  rw [held]
  -- the first row under the key was this one, or has not been under the key before
  have lookup : (db.cursors.map fun other => if other.id = row.id then written else other).find? _ =
      some first := held
  rw [List.find?_map] at lookup
  obtain ⟨old, chosen, rfl⟩ := Option.map_eq_some_iff.1 lookup
  by_cases same : old.id = row.id
  · rw [if_pos same]
  · obtain ⟨matched, before, after, split, passed⟩ := List.find?_eq_some_iff_append.1 chosen
    rw [Function.comp_apply, if_neg same] at matched
    have earliest : db.cursor targetId cursorType version mode = some old := by
      refine List.find?_eq_some_iff_append.2 ⟨matched, before, after, split, fun other earlier => ?_⟩
      have fails := passed other earlier
      rw [Function.comp_apply] at fails
      by_cases replaced : other.id = row.id
      · rw [if_pos replaced] at fails
        simp [target, type, versioned, moded, named] at fails
      · rwa [if_neg replaced] at fails
    exact absurd (congrArg Cursor.id (Option.some.inj (earliest.symm.trans found))) same

/-- Every cursor has an identifier of its own, which has been given. -/
structure CursorsIssued (db : Database) : Prop where
  given : ∀ row ∈ db.cursors, ∃ n < db.issued, db.supply.id n = row.id
  distinct : (db.cursors.map Cursor.id).Nodup

namespace CursorsIssued

theorem of_cursors {db' : Database} (issued : db.CursorsIssued) (cursors : db'.cursors = db.cursors)
    (supply : db'.supply = db.supply) (later : db.issued ≤ db'.issued) : db'.CursorsIssued where
  given row member := by
    obtain ⟨n, below, named⟩ := issued.given row (cursors ▸ member)
    exact ⟨n, Nat.lt_of_lt_of_le below later, supply ▸ named⟩
  distinct := cursors ▸ issued.distinct

theorem setCursor {id : Uuid} {change : Cursor → Cursor} (issued : db.CursorsIssued)
    (keeps : ∀ row, row.id = id → (change row).id = id) : (db.setCursor id change).CursorsIssued where
  given row member := by
    obtain ⟨old, inside, rfl⟩ := Table.mem_modify.1 member
    obtain ⟨n, below, named⟩ := issued.given old inside
    refine ⟨n, below, named.trans ?_⟩
    split
    · next same => rw [keeps old same, same]
    · rfl
  distinct := by
    have same : (Table.modify Cursor.id db.cursors id change).map Cursor.id =
        db.cursors.map Cursor.id := by
      simp only [Table.modify, List.map_map]
      refine List.map_congr_left fun row _ => ?_
      by_cases same : row.id = id
      · simp [same, keeps row same]
      · simp [same]
    exact same.symm ▸ issued.distinct

theorem addCursor {added : Uuid → Cursor} (issued : db.CursorsIssued)
    (named : ∀ id, (added id).id = id) : (db.addCursor added).CursorsIssued where
  given row member := by
    rcases List.mem_append.1 member with old | new
    · obtain ⟨n, below, same⟩ := issued.given row old
      exact ⟨n, Nat.lt_succ_of_lt below, same⟩
    · obtain rfl := List.mem_singleton.1 new
      exact ⟨db.issued, Nat.lt_succ_self _, (named _).symm⟩
  distinct := by
    show ((db.cursors ++ [added db.fresh]).map Cursor.id).Nodup
    rw [List.map_append, List.map_singleton, named]
    refine List.nodup_append.2 ⟨issued.distinct, List.nodup_singleton _, ?_⟩
    intro old member new fresh same
    obtain ⟨row, inside, rfl⟩ := List.mem_map.1 member
    obtain ⟨n, below, given⟩ := issued.given row inside
    have : n = db.issued := db.supply.injective
      (given.trans (same.trans (List.mem_singleton.1 fresh)))
    omega

end CursorsIssued

end Database

/-! ### The writes of a page -/

section Page

variable {reader : Reader} {rules : Rules} {db db' : Database} {target : Target} {runId : Uuid}
  {mode : RunMode} {page : PageWrite} {cursor advanced : Cursor}

/-- A cursor that has been advanced keeps its key. -/
theorem advancedCursor_place (ok : advancedCursor reader target runId page cursor = .ok advanced) :
    advanced.place = cursor.place ∧ advanced.id = cursor.id := by
  have marked : ∀ (row : Cursor) (position : Option CursorPosition),
      (row.mark position).place = row.place ∧ (row.mark position).id = row.id := by
    intro row position
    cases position with
    | none => exact ⟨rfl, rfl⟩
    | some position => exact ⟨rfl, rfl⟩
  unfold advancedCursor at ok
  simp only at ok
  split at ok
  · obtain ⟨decided, -, ok⟩ := bind_eq_ok.1 ok
    obtain rfl := pure_eq_ok.1 ok
    exact marked _ _
  · split at ok
    · obtain rfl := pure_eq_ok.1 ok
      exact ⟨rfl, rfl⟩
    · split at ok
      · obtain ⟨decided, -, ok⟩ := bind_eq_ok.1 ok
        obtain rfl := pure_eq_ok.1 ok
        exact marked _ _
      · obtain rfl := pure_eq_ok.1 ok
        exact ⟨rfl, rfl⟩

/-- A cursor that is found or added is a row of its target, under its key. -/
theorem ensureCursor_mem {missing : PyError}
    (ok : ensureCursor db target mode missing = .ok (cursor, db')) :
    cursor ∈ db'.cursors ∧ cursor.targetId = some target.id ∧
      cursor.cursorType = target.operationKey ∧ cursor.cursorVersion = target.cursorVersion ∧
      cursor.runMode = mode := by
  obtain ⟨found, rfl⟩ | ⟨-, account, -, rfl, rfl⟩ := ensureCursor_eq_ok ok
  · have named := List.find?_some found
    simp only [Bool.decide_and, Bool.and_eq_true, decide_eq_true_eq] at named
    exact ⟨List.mem_of_find?_eq_some found, named⟩
  · exact ⟨List.mem_append_right _ (List.mem_singleton_self _), rfl, rfl, rfl, rfl⟩

/-- A cursor that is found or added is found under its key. -/
theorem ensureCursor_found {missing : PyError}
    (ok : ensureCursor db target mode missing = .ok (cursor, db')) :
    db'.cursor target.id target.operationKey target.cursorVersion mode = some cursor := by
  obtain ⟨found, rfl⟩ | ⟨absent, account, -, rfl, rfl⟩ := ensureCursor_eq_ok ok
  · exact found
  · show (db.cursors ++ [_]).find? _ = _
    rw [List.find?_append, show db.cursors.find? _ = none from absent]
    simp [newCursor]

/-- A page without a cursor writes none; any other finds the row of the target or adds it, compares
it with the snapshot if it was there, and advances it and the row of the legacy runner. -/
theorem persistCursor_eq_ok (ok : persistCursor reader db target runId mode page = .ok db') :
    (page.pageMode = false ∧ page.result.nextCursor = none ∧ page.result.hasMore = false ∧
        db' = db) ∨
      ∃ cursor db₁ advanced, ensureCursor db target mode
          ⟨.valueError, "target_cursor_requires_account_during_rollback"⟩ = .ok (cursor, db₁) ∧
        (db.cursor target.id target.operationKey target.cursorVersion mode = none ∨
          notStale page.snapshot cursor = true) ∧
        advancedCursor reader target runId page cursor = .ok advanced ∧
        db' = mirrorCursor (db₁.setCursor cursor.id fun _ => advanced) target page.result := by
  unfold persistCursor at ok
  split at ok
  · obtain ⟨⟨cursor, db₁⟩, ensured, ok⟩ := bind_eq_ok.1 ok
    obtain ⟨fresh, ok⟩ := check_eq_ok.1 ok
    obtain ⟨advanced, moved, ok⟩ := bind_eq_ok.1 ok
    obtain rfl := pure_eq_ok.1 ok
    have same := require_eq_ok.1 fresh
    rw [Bool.or_eq_true, Option.isNone_iff_eq_none] at same
    exact .inr ⟨cursor, db₁, advanced, ensured, same, moved, rfl⟩
  · next none =>
    simp only [Bool.or_eq_true, not_or, Bool.not_eq_true, Option.isSome_eq_false_iff,
      Option.isNone_iff_eq_none] at none
    obtain rfl := pure_eq_ok.1 ok
    exact .inl ⟨none.1.1, none.1.2, none.2, rfl⟩

/-- A page of many is written to the row of its target, before the row of the legacy runner. -/
theorem persistCursor_advanced (paged : page.pageMode = true)
    (ok : persistCursor reader db target runId mode page = .ok db') :
    ∃ db₁ cursor advanced, advancedCursor reader target runId page cursor = .ok advanced ∧
      db₁.cursor target.id target.operationKey target.cursorVersion mode = some advanced ∧
      db' = mirrorCursor db₁ target page.result := by
  obtain ⟨single, -⟩ | ⟨cursor, db₁, advanced, ensured, -, moved, rfl⟩ := persistCursor_eq_ok ok
  · simp [paged] at single
  · exact ⟨_, cursor, advanced, moved,
      Database.cursor_replace (ensureCursor_found ensured) (advancedCursor_place moved).1, rfl⟩

/-- A page of many leaves a row of the version of its target. -/
theorem persistCursor_row (paged : page.pageMode = true)
    (ok : persistCursor reader db target runId mode page = .ok db') :
    ∃ row, db'.cursor target.id target.operationKey target.cursorVersion mode = some row := by
  obtain ⟨db₁, cursor, advanced, -, found, rfl⟩ := persistCursor_advanced paged ok
  unfold mirrorCursor
  split
  · next cursorType account value _ _ _ _ =>
    split
    · rw [Database.cursor_setCursor (fun row => { row with cursorValue := some value })
        fun _ => rfl, found]
      exact ⟨_, rfl⟩
    · exact ⟨advanced, Database.cursor_addCursor found _⟩
  · exact ⟨advanced, found⟩

/-- **A page that leaves more to fetch leaves its continuation, and the run it is of**, in the row of
its target. -/
theorem persistCursor_continued (paged : page.pageMode = true) (more : page.result.hasMore = true)
    (continued : noContinuation page.result.continuation = false)
    (ok : persistCursor reader db target runId mode page = .ok db') :
    ∃ row, db'.cursor target.id target.operationKey target.cursorVersion mode = some row ∧
      row.continuation = page.result.continuation ∧ row.continuationRunId = some runId := by
  obtain ⟨db₁, cursor, advanced, moved, found, rfl⟩ := persistCursor_advanced paged ok
  have unmirrored : mirrorCursor db₁ target page.result = db₁ := by
    unfold mirrorCursor
    rw [more]
    split
    · next last => exact absurd last Bool.noConfusion
    · rfl
  rw [unmirrored]
  refine ⟨advanced, found, ?_⟩
  cases given : page.result.continuation with
  | none => simp [noContinuation, given] at continued
  | some continuation =>
      rw [given] at continued
      unfold advancedCursor at moved
      simp only [paged, given] at moved
      obtain ⟨⟨action, position⟩, -, moved⟩ := bind_eq_ok.1 moved
      obtain rfl := pure_eq_ok.1 moved
      have kept : (some continuation).filter (fun continuation => !continuation.isEmpty) =
          some continuation := by
        simp only [noContinuation, Option.all_some] at continued
        simp [continued]
      cases position with
      | none => simp [Cursor.mark, kept]
      | some position => simp [Cursor.mark, kept]

/-- The page of a result is written to the cursors as they are. -/
theorem persistResult_cursors {now : Int} {loaded : LoadedTarget} {dispatch : TargetDispatch}
    (ok : persistResult rules db now loaded dispatch runId mode page = .ok db') :
    ∃ target db₁, db.target loaded.target.id = some target ∧
      target.configRevision = dispatch.configRevision ∧ db₁.cursors = db.cursors ∧
      persistCursor rules.reader db₁ target runId mode page = .ok db' ∧
      (db.CursorsIssued → db₁.CursorsIssued) := by
  obtain ⟨target, run, counts, db₁, db₂, held, found, same, counted, adds, recorded, ok⟩ :=
    persistResult_eq_ok ok
  obtain ⟨rejected, -, -, cursors⟩ := recordRejected_touches runId recorded
  refine ⟨target, (db₂.setRun runId (settledRun page counts now)).setTarget target.id
    (settledTarget page now), held, same, cursors.trans adds.cursors_eq, ok, fun issued => ?_⟩
  exact issued.of_cursors (cursors.trans adds.cursors_eq)
    (rejected.supply_eq.trans adds.supply_eq) (adds.issued_le.trans rejected.issued_le)

end Page

/-! ### What leaves the cursors alone -/

variable {deployed : Deployment} {state state' : Control} {who : Nat}

/-- The write of a target that has been loaded is to the row of its version. -/
theorem LoadedFor.row_eq {execution : Execution} {loaded : LoadedTarget} {db : Database}
    {target : Target} (known : LoadedFor deployed db execution loaded)
    (found : db.target loaded.target.id = some target)
    (unrevised : target.configRevision = execution.dispatch.configRevision) (other : Database)
    (mode : RunMode) :
    other.cursor target.id target.operationKey target.cursorVersion mode =
      other.cursor loaded.target.id loaded.target.operationKey loaded.target.cursorVersion mode := by
  obtain ⟨target', found', succeeds⟩ := known.stored
  obtain rfl := Option.some.inj (found.symm.trans found')
  have same := succeeds.configured_eq (unrevised.trans known.revision_eq.symm)
  have version : target.configured.cursorVersion = loaded.target.configured.cursorVersion :=
    congrArg Target.cursorVersion same
  rw [succeeds.id_eq, succeeds.operationKey_eq, show target.cursorVersion = _ from version]
  rfl

/-- The transactions that write cursors. -/
def Op.bindsCursor : Op → Bool
  | .resolvedRunConfig .. | .persistResult .. => true
  | _ => false

/-- Every other operation leaves the cursors alone. -/
theorem Executed.cursors_eq {op : Op} {reply : Result (Answer op)}
    (executed : Executed deployed state who op reply state') (other : op.bindsCursor = false) :
    state'.database.cursors = state.database.cursors := by
  cases executed with
  | failed | ended | found => rfl
  | performed =>
      cases op with
      | resolvedRunConfig | persistResult => simp [Op.bindsCursor] at other
      | startRun loaded dispatch mode =>
          unfold perform
          simp only
          split
          · next started db ok =>
            obtain ⟨target, -, -, -, ⟨run, -, -, rfl⟩ | ⟨-, -, rfl⟩⟩ := startRun_eq_ok ok
            · rfl
            · rfl
          · rfl
      | reserveRequest loaded runId =>
          show (state.commit (reserveRequest state.database state.now loaded runId)).2.database.cursors
            = _
          cases done : reserveRequest state.database state.now loaded runId with
          | error raised => rfl
          | ok pair =>
              obtain ⟨run, -, -, cursors, -⟩ := reserveRequest_eq_ok done
              exact cursors
      | finishError loaded dispatch runId code retryable retryAfter =>
          show (finishError state.database state.now loaded dispatch runId code retryable
            retryAfter).2.cursors = _
          obtain ⟨same, -⟩ | ⟨run, target, -, -, ⟨-, same⟩ | ⟨retry, -, same⟩⟩ :=
            finishError_cases state.database state.now loaded dispatch runId code retryable
              retryAfter
          · rw [same]
          · rw [same]
            rfl
          · rw [same]
            rfl
      | finishLockLost loaded dispatch runId =>
          show (finishLockLost state.database state.now loaded dispatch runId).cursors = _
          unfold finishLockLost
          split
          · split
            · rfl
            · rfl
          · rfl
      | markCredentialMissing loaded =>
          exact (@markCredentialMissing_touches state.database state.now loaded 0).2.2.1
      | mark due identity ttl =>
          unfold perform
          simp only
          split
          · rfl
          · rfl
      | _ => rfl

end NewsCollect.Collection
