/-
**A checkpoint takes a batch whole, or not at all.**

The items of a batch are inserted as they are. The unique indexes hold an item back that is stored
already, and that is an error of the database: nothing of the batch is stored, and the run is tried
again, with the same snapshot, until its attempts are over.

* `RawItemEnvelope.identity`: what the unique indexes compare.
* `Inserted`: the tables after the items of a batch.
* `overlap_absorbed_iff`: a checkpoint does what is expected of an overlapping snapshot exactly when
  nothing overlaps.
-/

import NewsCollect.Collection.Control
import NewsCollect.Collection.Runner
import NewsCollect.Proof.Frames

namespace NewsCollect.Collection

open Calendar Providers CollectionRunner

/-! ### What the unique indexes compare -/

inductive ItemIdentity where
  | external (id : String)
  | payload (hash : String)
deriving DecidableEq

/-- The identity of an item, or for want of one the hash of its payload. -/
def RawItemEnvelope.identity (item : RawItemEnvelope) : Option ItemIdentity :=
  match item.externalId with
  | some external => some (.external external)
  | none => item.payloadHash.map .payload

/-- The identities of the rows of a source. -/
def Database.identities (db : Database) (sourceId : Uuid) : List ItemIdentity :=
  (db.rawItems.filter (·.sourceId = sourceId)).filterMap (·.envelope.identity)

/-- The items of a batch that are not stored yet, nor earlier in the batch. -/
def newItems : List ItemIdentity → List RawItemEnvelope → List RawItemEnvelope
  | _, [] => []
  | stored, item :: items =>
      match item.identity with
      | none => item :: newItems stored items
      | some identity =>
          if identity ∈ stored then newItems stored items
          else item :: newItems (stored ++ [identity]) items

/-- No item is stored already, and none occurs twice. -/
structure Database.Apart (db : Database) (sourceId : Uuid) (items : List RawItemEnvelope) : Prop where
  unstored : ∀ item ∈ items, ∀ identity, item.identity = some identity →
    identity ∉ db.identities sourceId
  distinct : (items.filterMap RawItemEnvelope.identity).Nodup

section Identities

variable {db db' : Database} {sourceId : Uuid} {item : RawItemEnvelope}

theorem conflicts_iff {row : RawItem} : item.conflicts sourceId row = true ↔
    ∃ identity, item.identity = some identity ∧ row.sourceId = sourceId ∧
      row.envelope.identity = some identity := by
  unfold RawItemEnvelope.conflicts sameItem RawItemEnvelope.identity
  cases item.externalId with
  | some external =>
      cases row.envelope.externalId with
      | some other => simp
      | none => simp
  | none =>
      cases item.payloadHash with
      | some hash =>
          cases row.envelope.externalId with
          | some other => simp
          | none => simp
      | none => simp

/-- An item is held back when its identity is stored. -/
theorem any_conflicts : db.rawItems.any (item.conflicts sourceId) = true ↔
    ∃ identity, item.identity = some identity ∧ identity ∈ db.identities sourceId := by
  simp only [List.any_eq_true, conflicts_iff, Database.identities, List.mem_filterMap,
    List.mem_filter, decide_eq_true_eq]
  constructor
  · rintro ⟨row, member, identity, named, of, same⟩
    exact ⟨identity, named, row, ⟨member, of⟩, same⟩
  · rintro ⟨identity, named, row, ⟨member, of⟩, same⟩
    exact ⟨row, member, identity, named, of, same⟩

end Identities

/-! ### The items of a batch -/

/-- The rows of a batch have been inserted, and nothing else has changed. -/
structure Inserted (target : CollectionTarget) (runId : Uuid) (items : List RawItemEnvelope)
    (db db' : Database) : Prop where
  rows : ∃ rows, db'.rawItems = db.rawItems ++ rows ∧ rows.map RawItem.envelope = items ∧
    ∀ row ∈ rows, row.sourceId = target.sourceId ∧
      row.sourceAccountId = target.sourceAccountId ∧ row.collectionRunId = runId
  sources : db'.sources = db.sources
  targets : db'.targets = db.targets
  runs : db'.runs = db.runs
  cursors : db'.cursors = db.cursors
  supply : db'.supply = db.supply
  later : db.issued ≤ db'.issued

section Inserts

variable {db db' db'' : Database} {target : CollectionTarget} {runId : Uuid}
  {item : RawItemEnvelope} {items others : List RawItemEnvelope}

theorem Inserted.refl : Inserted target runId [] db db :=
  ⟨⟨[], (List.append_nil _).symm, rfl, by simp⟩, rfl, rfl, rfl, rfl, rfl, Nat.le_refl _⟩

theorem Inserted.trans (first : Inserted target runId items db db')
    (second : Inserted target runId others db' db'') :
    Inserted target runId (items ++ others) db db'' where
  rows := by
    obtain ⟨rows, stored, envelopes, of⟩ := first.rows
    obtain ⟨later, stored', envelopes', of'⟩ := second.rows
    refine ⟨rows ++ later, by rw [stored', stored, List.append_assoc], ?_, fun row member => ?_⟩
    · rw [List.map_append, envelopes, envelopes']
    · rcases List.mem_append.1 member with inside | inside
      · exact of row inside
      · exact of' row inside
  sources := second.sources.trans first.sources
  targets := second.targets.trans first.targets
  runs := second.runs.trans first.runs
  cursors := second.cursors.trans first.cursors
  supply := second.supply.trans first.supply
  later := first.later.trans second.later

/-- One item is inserted when its columns take it and its identity is not stored. -/
theorem insertRawItem_eq_ok : insertRawItem target runId db item = .ok db' →
    item.fits = true ∧ (∀ identity, item.identity = some identity →
      identity ∉ db.identities target.sourceId) ∧ Inserted target runId [item] db db' := by
  intro ok
  unfold insertRawItem at ok
  split at ok
  · exact absurd ok nofun
  · next fits =>
    split at ok
    · exact absurd ok nofun
    · next free =>
      obtain rfl := Except.ok.inj ok
      refine ⟨by simpa using fits, fun identity named stored => ?_,
        ⟨_, rfl, rfl, ?_⟩, rfl, rfl, rfl, rfl, rfl, Nat.le_succ _⟩
      · exact free (any_conflicts.2 ⟨identity, named, stored⟩)
      · intro row member
        obtain rfl := List.mem_singleton.1 member
        exact ⟨rfl, rfl, rfl⟩

theorem exists_insertRawItem (fits : item.fits = true) (free : ∀ identity,
    item.identity = some identity → identity ∉ db.identities target.sourceId) :
    ∃ db', insertRawItem target runId db item = .ok db' := by
  have apart : db.rawItems.any (item.conflicts target.sourceId) = false := by
    refine Bool.eq_false_iff.2 fun conflict => ?_
    obtain ⟨identity, named, stored⟩ := any_conflicts.1 conflict
    exact free identity named stored
  unfold insertRawItem
  rw [fits, apart]
  exact ⟨_, rfl⟩

/-- The identities of the source after an insertion. -/
theorem Inserted.identities (inserted : Inserted target runId items db db') :
    db'.identities target.sourceId =
      db.identities target.sourceId ++ items.filterMap RawItemEnvelope.identity := by
  obtain ⟨rows, stored, rfl, of⟩ := inserted.rows
  have every : rows.filter (·.sourceId = target.sourceId) = rows :=
    List.filter_eq_self.2 fun row member => by simp [(of row member).1]
  rw [Database.identities, stored, List.filter_append, List.filterMap_append, every,
    List.filterMap_map]
  rfl

/-- The rest of a batch after its first item has been inserted. -/
theorem Inserted.apart_iff (inserted : Inserted target runId [item] db db')
    (free : ∀ identity, item.identity = some identity →
      identity ∉ db.identities target.sourceId) :
    db'.Apart target.sourceId items ↔ db.Apart target.sourceId (item :: items) := by
  have after : ∀ identity, identity ∈ db'.identities target.sourceId ↔
      identity ∈ db.identities target.sourceId ∨ item.identity = some identity := by
    intro identity
    rw [inserted.identities, List.mem_append, List.mem_filterMap]
    simp
  constructor
  · intro apart
    refine ⟨List.forall_mem_cons.2 ⟨free, fun other member identity named stored => ?_⟩, ?_⟩
    · exact apart.unstored other member identity named ((after identity).2 (.inl stored))
    · cases named : item.identity with
      | none => rw [List.filterMap_cons_none named]; exact apart.distinct
      | some identity =>
          rw [List.filterMap_cons_some named]
          refine List.nodup_cons.2 ⟨fun again => ?_, apart.distinct⟩
          obtain ⟨other, member, same⟩ := List.mem_filterMap.1 again
          exact apart.unstored other member identity same ((after identity).2 (.inr named))
  · intro apart
    refine ⟨fun other member identity named stored => ?_, ?_⟩
    · rcases (after identity).1 stored with before | same
      · exact apart.unstored other (List.mem_cons_of_mem _ member) identity named before
      · have twice := apart.distinct
        rw [List.filterMap_cons_some same] at twice
        exact (List.nodup_cons.1 twice).1 (List.mem_filterMap.2 ⟨other, member, named⟩)
    · have distinct := apart.distinct
      cases named : item.identity with
      | none => rwa [List.filterMap_cons_none named] at distinct
      | some identity =>
          rw [List.filterMap_cons_some named] at distinct
          exact (List.nodup_cons.1 distinct).2

/-- **The items of a batch are inserted exactly when the columns take all of them and nothing is
stored twice.** -/
theorem insertAll_iff : (∃ db', items.foldlM (insertRawItem target runId) db = .ok db') ↔
    (∀ item ∈ items, item.fits = true) ∧ db.Apart target.sourceId items := by
  induction items generalizing db with
  | nil => exact ⟨fun _ => ⟨by simp, ⟨by simp, List.nodup_nil⟩⟩, fun _ => ⟨db, rfl⟩⟩
  | cons item items ih =>
      rw [List.foldlM_cons]
      constructor
      · rintro ⟨db', ok⟩
        obtain ⟨next, here, ok⟩ := bind_eq_ok.1 ok
        obtain ⟨fits, free, first⟩ := insertRawItem_eq_ok here
        obtain ⟨every, apart⟩ := ih.1 ⟨db', ok⟩
        exact ⟨List.forall_mem_cons.2 ⟨fits, every⟩, (first.apart_iff free).1 apart⟩
      · rintro ⟨every, apart⟩
        have free := apart.unstored item List.mem_cons_self
        obtain ⟨next, here⟩ :=
          @exists_insertRawItem db target runId item (every item List.mem_cons_self) free
        obtain ⟨-, -, first⟩ := insertRawItem_eq_ok here
        obtain ⟨db', ok⟩ := ih.2 ⟨fun other member => every other (List.mem_cons_of_mem _ member),
          (first.apart_iff free).2 apart⟩
        exact ⟨db', bind_eq_ok.2 ⟨next, here, ok⟩⟩

/-- What holds the items of a batch back is an error of the database. -/
theorem insertAll_error {raised : RunError}
    (failed : items.foldlM (insertRawItem target runId) db = .error raised) :
    ∃ message, raised = .raised ⟨.sqlAlchemyError, message⟩ := by
  induction items generalizing db with
  | nil => exact absurd failed nofun
  | cons item items ih =>
      rw [List.foldlM_cons] at failed
      cases here : insertRawItem target runId db item with
      | ok next =>
          rw [here] at failed
          exact ih failed
      | error error =>
          rw [here] at failed
          obtain rfl := Except.error.inj failed
          unfold insertRawItem at here
          split at here
          · exact ⟨_, (Except.error.inj here).symm⟩
          · split at here
            · exact ⟨_, (Except.error.inj here).symm⟩
            · exact absurd here nofun

/-- The rows that the items of a batch have become. -/
theorem inserted_of_insertAll (ok : items.foldlM (insertRawItem target runId) db = .ok db') :
    Inserted target runId items db db' := by
  induction items generalizing db with
  | nil =>
      obtain rfl := pure_eq_ok.1 ok
      exact .refl
  | cons item items ih =>
      rw [List.foldlM_cons] at ok
      obtain ⟨next, here, ok⟩ := bind_eq_ok.1 ok
      obtain ⟨-, -, first⟩ := insertRawItem_eq_ok here
      exact first.trans (ih ok)

end Inserts

/-! ### The checkpoint -/

/-- **What is expected of the checkpoint of a batch**: the items that are not stored yet are, and the
cursor goes on to the next one. -/
structure Absorbed (adapter : CollectionAdapter) (target : CollectionTarget) (runId : Uuid)
    (batch : FetchBatch) (db db' : Database) : Prop where
  stored : ∃ rows, db'.rawItems = db.rawItems ++ rows ∧
    rows.map RawItem.envelope = newItems (db.identities target.sourceId) batch.items ∧
    ∀ row ∈ rows, row.sourceId = target.sourceId ∧ row.collectionRunId = runId
  advanced : ∀ account type next, target.sourceAccountId = some account →
    adapter.cursorType = some type → batch.nextCursor = some next →
    (db'.legacyCursor account type).bind Cursor.cursorValue = some next

section Checkpoint

variable {db db' : Database} {target : CollectionTarget} {runId : Uuid} {batch : FetchBatch}
  {adapter : CollectionAdapter} {snapshot : CursorSnapshot}

/-- Of a batch without overlap everything is new. -/
theorem newItems_of_apart {stored : List ItemIdentity} {items : List RawItemEnvelope}
    (unstored : ∀ item ∈ items, ∀ identity, item.identity = some identity → identity ∉ stored)
    (distinct : (items.filterMap RawItemEnvelope.identity).Nodup) : newItems stored items = items := by
  induction items generalizing stored with
  | nil => rfl
  | cons item items ih =>
      have later := fun other member => unstored other (List.mem_cons_of_mem _ member)
      unfold newItems
      cases named : item.identity with
      | none =>
          rw [List.filterMap_cons_none named] at distinct
          exact congrArg _ (ih later distinct)
      | some identity =>
          rw [List.filterMap_cons_some named, List.nodup_cons] at distinct
          have free : identity ∉ stored := unstored item List.mem_cons_self identity named
          dsimp only
          rw [if_neg free]
          refine congrArg _ (ih (fun other member again same inside => ?_) distinct.2)
          rcases List.mem_append.1 inside with before | here
          · exact later other member again same before
          · obtain rfl := List.mem_singleton.1 here
            exact distinct.1 (List.mem_filterMap.2 ⟨other, member, same⟩)

theorem demand_eq_ok {condition : Bool} {code : CollectionErrorCode} {detail : String} :
    demand condition code detail = .ok () ↔ condition = true := by
  unfold demand
  cases condition with
  | true => simp
  | false => simp [fails]

theorem lifted_eq_ok {α : Type} {result : Result α} {value : α} :
    lifted result = .ok value ↔ result = .ok value := by
  cases result with
  | ok held => simp [lifted]
  | error raised => simp [lifted]

/-- **A checkpoint is made** of a batch that follows its cursor, is not behind it, and is inserted
whole, while its run is running. -/
theorem persistCheckpoint_eq_ok :
    persistCheckpoint adapter db target runId snapshot batch = .ok db' ↔
      follows adapter snapshot batch = .ok true ∧ notBackward snapshot batch = true ∧ ∃ inserted,
        batch.items.foldlM (insertRawItem target runId) db = .ok inserted ∧
        (inserted.run runId).any (·.status == .running) = true ∧
        advanceCursor (inserted.setRun runId (fetchedRun batch.items.length)) target snapshot batch =
          .ok db' := by
  unfold persistCheckpoint
  constructor
  · intro ok
    obtain ⟨successor, chosen, ok⟩ := bind_eq_ok.1 ok
    obtain ⟨follows, ok⟩ := check_eq_ok.1 ok
    obtain ⟨ahead, ok⟩ := check_eq_ok.1 ok
    obtain ⟨inserted, stored, ok⟩ := bind_eq_ok.1 ok
    obtain ⟨running, moved⟩ := check_eq_ok.1 ok
    obtain rfl : successor = true := demand_eq_ok.1 follows
    exact ⟨lifted_eq_ok.1 chosen, demand_eq_ok.1 ahead, inserted, stored,
      demand_eq_ok.1 running, moved⟩
  · rintro ⟨follows, ahead, inserted, stored, running, ok⟩
    exact bind_eq_ok.2 ⟨true, lifted_eq_ok.2 follows, check_eq_ok.2 ⟨rfl, check_eq_ok.2
      ⟨demand_eq_ok.2 ahead, bind_eq_ok.2 ⟨inserted, stored, check_eq_ok.2
        ⟨demand_eq_ok.2 running, ok⟩⟩⟩⟩⟩

/-- The cursor that is loaded is of the type of the adapter. -/
theorem loadCursor_cursorType (db : Database) (target : CollectionTarget) (type : Option String) :
    (loadCursor db target type).cursorType = type := by
  unfold loadCursor
  split
  · next account type =>
    split
    · next cursor found =>
      have chosen := List.find?_some found
      simp only [decide_eq_true_eq] at chosen
      exact congrArg some chosen.2
    · rfl
  · rfl

/-- The cursor of an account is found again after it has gone on. -/
theorem legacyCursor_checkpointed {account : Uuid} {type next : String} {published : Option Int}
    {cursor : Cursor} (found : db.legacyCursor account type = some cursor) :
    (db.setCursor cursor.id (checkpointed next published)).legacyCursor account type =
      some (checkpointed next published cursor) := by
  have changed := @Table.find?_modify _ _ _ Cursor.id db.cursors cursor.id
    (checkpointed next published)
    (fun row => decide (row.sourceAccountId = account ∧ row.cursorType = type)) fun _ _ _ => rfl
  refine changed.trans ?_
  rw [show db.cursors.find? _ = some cursor from found, Option.map_some, if_pos rfl]

/-- The cursor that has been loaded is found again, and goes on. -/
theorem advanceCursor_spec (same : db'.cursors = db.cursors) : ∃ after,
    advanceCursor db' target (loadCursor db target adapter.cursorType) batch = .ok after ∧
      after.rawItems = db'.rawItems ∧
      ∀ account type next, target.sourceAccountId = some account →
        adapter.cursorType = some type → batch.nextCursor = some next →
        (after.legacyCursor account type).bind Cursor.cursorValue = some next := by
  have held : ∀ account type, db'.legacyCursor account type = db.legacyCursor account type := by
    intro account type
    rw [Database.legacyCursor, same, Database.legacyCursor]
  unfold advanceCursor
  rw [loadCursor_cursorType]
  split
  · next account type next of named given =>
    have only : ∀ after : Database, (after.legacyCursor account type).bind Cursor.cursorValue =
        some next → ∀ account' type' next', target.sourceAccountId = some account' →
          adapter.cursorType = some type' → batch.nextCursor = some next' →
          (after.legacyCursor account' type').bind Cursor.cursorValue = some next' := by
      intro after moved account' type' next' of' named' given'
      obtain rfl := Option.some.inj (of.symm.trans of')
      obtain rfl := Option.some.inj (named.symm.trans named')
      obtain rfl := Option.some.inj (given.symm.trans given')
      exact moved
    rw [held]
    cases found : db.legacyCursor account type with
    | none =>
        refine ⟨_, rfl, rfl, only _ ?_⟩
        have absent : db'.cursors.find? (fun row => decide (row.sourceAccountId = account ∧
          row.cursorType = type)) = none := (held account type).trans found
        rw [Database.legacyCursor, Database.addCursor, List.find?_append, absent]
        simp [checkpointed, newCursor]
    | some cursor =>
        have fresh : cursor.cursorValue =
            (loadCursor db target adapter.cursorType).cursorValue := by
          unfold loadCursor
          simp only [of, named, found]
        dsimp only
        rw [if_pos fresh]
        refine ⟨_, rfl, rfl, only _ ?_⟩
        rw [legacyCursor_checkpointed ((held account type).trans found)]
        rfl
  · next none =>
    refine ⟨db', rfl, rfl, fun account type next of named given => ?_⟩
    exact absurd given (none account type next of named)

/-- **A checkpoint absorbs no overlap.** Of a batch that follows the cursor, it stores what is new
and moves the cursor exactly when all of the batch is new: no item is stored already or occurs twice.
(The columns must take the items, and the published time may not go back.) A batch that overlaps is
an error of the database. -/
theorem overlap_absorbed_iff (running : (db.run runId).any (·.status == .running) = true)
    (follows : follows adapter (loadCursor db target adapter.cursorType) batch = .ok true) :
    ((∃ db', persistCheckpoint adapter db target runId (loadCursor db target adapter.cursorType)
        batch = .ok db' ∧ Absorbed adapter target runId batch db db') ↔
      notBackward (loadCursor db target adapter.cursorType) batch = true ∧
        (∀ item ∈ batch.items, item.fits = true) ∧ db.Apart target.sourceId batch.items) ∧
    (notBackward (loadCursor db target adapter.cursorType) batch = true →
      ¬ db.Apart target.sourceId batch.items → ∃ message,
        persistCheckpoint adapter db target runId (loadCursor db target adapter.cursorType) batch =
          .error (.raised ⟨.sqlAlchemyError, message⟩)) := by
  refine ⟨?_, fun ahead overlaps => ?_⟩
  constructor
  · rintro ⟨db', ok, -⟩
    obtain ⟨-, ahead, inserted, stored, -, -⟩ := persistCheckpoint_eq_ok.1 ok
    exact ⟨ahead, insertAll_iff.1 ⟨inserted, stored⟩⟩
  · rintro ⟨ahead, fit, apart⟩
    obtain ⟨inserted, ok⟩ := (@insertAll_iff db target runId batch.items).2 ⟨fit, apart⟩
    have made := inserted_of_insertAll ok
    obtain ⟨rows, stored, envelopes, of⟩ := made.rows
    have runs : (inserted.run runId).any (·.status == .running) = true := by
      rw [Database.run, made.runs]
      exact running
    obtain ⟨after, moved, items, advanced⟩ := @advanceCursor_spec db
      (inserted.setRun runId (fetchedRun batch.items.length)) target batch adapter made.cursors
    refine ⟨after, persistCheckpoint_eq_ok.2 ⟨follows, ahead, inserted, ok, runs, moved⟩,
      ⟨rows, items.trans stored, ?_, fun row member => ⟨(of row member).1, (of row member).2.2⟩⟩,
      advanced⟩
    rw [envelopes, newItems_of_apart apart.unstored apart.distinct]
  · cases inserted : batch.items.foldlM (insertRawItem target runId) db with
    | ok db' => exact absurd (insertAll_iff.1 ⟨db', inserted⟩).2 overlaps
    | error raised =>
        obtain ⟨message, rfl⟩ := insertAll_error inserted
        refine ⟨message, ?_⟩
        unfold persistCheckpoint
        rw [follows, ahead, inserted]
        rfl

end Checkpoint

/-! ### A snapshot of two periods -/

/-- An item of a period. -/
def periodItem (period : String) : RawItemEnvelope :=
  ⟨some period, 0, some 200, none, none, none, "metadata_only"⟩

def energyTarget : CollectionTarget := ⟨10, some 20, "eia"⟩

/-- The run that has collected the first period. -/
def firstPeriod : Run :=
  { CollectionRunner.legacyRun energyTarget 0 0 with
    finishedAt := some 0, status := .succeeded, fetchedCount := 1, newCount := 1 }

/-- The tables of a source of energy data that has been collected for one period. -/
def energyTables : Database :=
  { quoteTables with
    sources := [⟨10, "eia", true, .authorized, 0, "metadata_only"⟩]
    runs := [firstPeriod]
    cursors := [{ newCursor 20 none "provider_cursor_v1" 1 .normal 30 with
      cursorValue := some earlyQuote }]
    rawItems := [⟨40, 10, some 20, 0, periodItem "2024-01"⟩]
    issued := 1 }

def energyRunner : CollectionRunner where
  supports := fun method => method == "eia"
  adapter := providerAdapter quoteRules.reader.loads "eia"
  retryPolicy := ⟨3, 5, 300, 900⟩
  maxBatches := none

/-- A batch of these periods. -/
def energyBatch (periods : List String) : FetchBatch :=
  ⟨periods.map periodItem, some lateQuote, none, false⟩

/-- A call without failures, whose adapter returns this batch. -/
def energyCall (batch : FetchBatch) : Call where
  validateFault := none
  acquired := true
  startedAt := 0
  createFault := none
  turns := [⟨none, .ok batch, false, none, none⟩]
  finishedAt := 1
  drawn := 1 / 2
  endFault := none

/-- The tables while a run of the target is running. -/
def energyRunning : Database := energyTables.addRun (CollectionRunner.legacyRun energyTarget 0)

/-- The checkpoint of a batch of the next period only. -/
theorem overlap_absorbed_energy : ∃ db', persistCheckpoint energyRunner.adapter energyRunning
      energyTarget 1 (loadCursor energyRunning energyTarget energyRunner.adapter.cursorType)
      (energyBatch ["2024-02"]) = .ok db' ∧
    Absorbed energyRunner.adapter energyTarget 1 (energyBatch ["2024-02"]) energyRunning db' := by
  refine (overlap_absorbed_iff (by decide) (by decide +kernel)).1.2
    ⟨by decide +kernel, by decide +kernel, fun item member identity named => ?_, by decide⟩
  obtain rfl := List.mem_singleton.1 member
  obtain rfl := Option.some.inj named
  decide

/-- **The snapshot of the next period repeats the last one**: its cursor is a successor, but the run
is tried again, and at its last attempt it fails. Nothing is stored. -/
theorem overlap_retried :
    let batch := energyBatch ["2024-01", "2024-02"]
    let snapshot := loadCursor energyTables energyTarget energyRunner.adapter.cursorType
    let first := energyRunner.run energyTables energyTarget none 0 (energyCall batch)
    let last := energyRunner.run first.2 energyTarget (some 1) 3 (energyCall batch)
    follows energyRunner.adapter snapshot batch = .ok true ∧
      first.1 = .ok ⟨some 1, .retry, some (5 / 2)⟩ ∧ last.1 = .ok ⟨some 1, .failed, none⟩ ∧
      (last.2.run 1).map (·.errorCode) = some (some "COLLECTION_DATABASE_UNAVAILABLE") ∧
      last.2.rawItems.map (·.envelope.externalId) = [some "2024-01"] := by
  decide +kernel

end NewsCollect.Collection
