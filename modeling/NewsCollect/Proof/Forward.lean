/-
**Cursors that go forward.**

A decision on two positions never goes back, but not every write of a cursor is a decision on what
is stored: a page may be stored without a cursor, a row that has appeared since the run was started
is not compared with anything, the row of the legacy runner is written without a look, and between
two pages the row is read again whatever has become of it.

* `Cursor.Precedes`: the order of the states of a cursor.
* `Ascending`: the condition on the writes.
* `cursors_ascend`: under it, cursors go forward, and a page is applied to what it was fetched from.
* `cursor_went_back`: a history without it, in which the legacy cursor goes back.
-/

import Mathlib.Data.List.Find
import NewsCollect.Proof.Staleness

namespace NewsCollect.Collection

open Calendar Interleaving Providers

/-! ### The order of the states of a cursor -/

/-- The order of values that may be missing: a missing one is the least. -/
def Below {α : Type} [LE α] (left right : Option α) : Prop :=
  ∀ low, left = some low → ∃ high, right = some high ∧ low ≤ high

section Below

variable {α : Type} [Preorder α] {first second third : Option α}

theorem Below.refl (value : Option α) : Below value value :=
  fun low same => ⟨low, same, le_refl low⟩

theorem Below.trans (left : Below first second) (right : Below second third) :
    Below first third := by
  intro low same
  obtain ⟨middle, same', le⟩ := left low same
  obtain ⟨high, same'', le'⟩ := right middle same'
  exact ⟨high, same'', le.trans le'⟩

end Below

/-- The instants of positions are in the order of the positions. -/
theorem publishedAt_le {first second : CursorPosition} (le : first ≤ second) :
    first.publishedAt ≤ second.publishedAt := by
  have lex : toLex (first.publishedAt, first.providerItemId) ≤
      toLex (second.publishedAt, second.providerItemId) := le
  rcases (Prod.Lex.toLex_le_toLex).1 lex with less | ⟨same, -⟩
  · exact less.le
  · exact same.le

/-- **One state of a cursor precedes another.** -/
structure Cursor.Precedes (reader : Reader) (old new : Cursor) : Prop where
  place_eq : new.place = old.place
  value_le : Below (position? reader old.cursorValue) (position? reader new.cursorValue)
  value_kept : old.cursorValue ≠ none → new.cursorValue ≠ none
  watermark_le : Below old.watermarkAt new.watermarkAt

/-- A watermark is not later than the position of the cursor. -/
def Cursor.Coherent (reader : Reader) (row : Cursor) : Prop :=
  ∀ watermark, row.watermarkAt = some watermark →
    ∃ position, position? reader row.cursorValue = some position ∧
      watermark ≤ position.publishedAt

/-- The row with this identifier. -/
def Database.cursorRow (db : Database) (id : Uuid) : Option Cursor :=
  Table.find Cursor.id db.cursors id

/-- **The cursors go forward.** -/
def Ascends (reader : Reader) (db db' : Database) : Prop :=
  ∀ id row, db.cursorRow id = some row →
    ∃ row', db'.cursorRow id = some row' ∧ row.Precedes reader row'

/-- The cursors have identifiers of their own, which have been given, and coherent watermarks. -/
structure Database.Coherent (reader : Reader) (db : Database) : Prop where
  given : ∀ row ∈ db.cursors, ∃ n < db.issued, db.supply.id n = row.id
  distinct : (db.cursors.map Cursor.id).Nodup
  coherent : ∀ row ∈ db.cursors, row.Coherent reader

variable {reader : Reader} {db db' db'' : Database} {old new row : Cursor}

namespace Cursor.Precedes

theorem refl (row : Cursor) : row.Precedes reader row :=
  ⟨rfl, .refl _, fun some => some, .refl _⟩

theorem trans {last : Cursor} (first : old.Precedes reader new)
    (second : new.Precedes reader last) : old.Precedes reader last where
  place_eq := second.place_eq.trans first.place_eq
  value_le := first.value_le.trans second.value_le
  value_kept := second.value_kept ∘ first.value_kept
  watermark_le := first.watermark_le.trans second.watermark_le

/-- A state with the same value and the same watermark. -/
theorem of_eq (place : new.place = old.place) (value : new.cursorValue = old.cursorValue)
    (watermark : new.watermarkAt = old.watermarkAt) : old.Precedes reader new where
  place_eq := place
  value_le := value ▸ .refl _
  value_kept some := value ▸ some
  watermark_le := watermark ▸ .refl _

end Cursor.Precedes

namespace Ascends

theorem refl (db : Database) : Ascends reader db db := fun _ row found => ⟨row, found, .refl _⟩

theorem trans (first : Ascends reader db db') (second : Ascends reader db' db'') :
    Ascends reader db db'' := by
  intro id row found
  obtain ⟨next, found', precedes⟩ := first id row found
  obtain ⟨last, found'', precedes'⟩ := second id next found'
  exact ⟨last, found'', precedes.trans precedes'⟩

theorem of_cursors (same : db'.cursors = db.cursors) : Ascends reader db db' := by
  intro id row found
  refine ⟨row, ?_, .refl _⟩
  simpa only [Database.cursorRow, same] using found

/-- A row is written. -/
theorem setCursor {id : Uuid} {change : Cursor → Cursor}
    (keeps : ∀ row, row.id = id → (change row).id = id)
    (precedes : ∀ row, db.cursorRow id = some row → row.Precedes reader (change row)) :
    Ascends reader db (db.setCursor id change) := by
  intro other row found
  by_cases same : other = id
  · subst same
    exact ⟨change row, Table.find_replace_same keeps found, precedes row found⟩
  · exact ⟨row, (Table.find_replace_ne keeps same).trans found, .refl _⟩

/-- A row is added. -/
theorem addCursor {added : Uuid → Cursor} : Ascends reader db (db.addCursor added) := by
  intro id row found
  refine ⟨row, ?_, .refl _⟩
  show Table.find Cursor.id (db.cursors ++ [added db.fresh]) id = some row
  rw [Table.find_append, show Table.find Cursor.id db.cursors id = some row from found]
  rfl

end Ascends

namespace Database.Coherent

theorem cursorsIssued (coherent : db.Coherent reader) : db.CursorsIssued :=
  ⟨coherent.given, coherent.distinct⟩

theorem of_issued (issued : db.CursorsIssued) (coherent : ∀ row ∈ db.cursors, row.Coherent reader) :
    db.Coherent reader :=
  ⟨issued.given, issued.distinct, coherent⟩

theorem of_cursors (coherent : db.Coherent reader) (cursors : db'.cursors = db.cursors)
    (supply : db'.supply = db.supply) (issued : db.issued ≤ db'.issued) : db'.Coherent reader :=
  of_issued (coherent.cursorsIssued.of_cursors cursors supply issued) fun row member =>
    coherent.coherent row (cursors ▸ member)

/-- A row is found by its identifier. -/
theorem cursorRow_eq (coherent : db.Coherent reader) (member : row ∈ db.cursors) :
    db.cursorRow row.id = some row :=
  Table.find_of_mem Cursor.id coherent.distinct member

theorem setCursor {id : Uuid} {change : Cursor → Cursor} (before : db.Coherent reader)
    (keeps : ∀ row, row.id = id → (change row).id = id)
    (coherent : ∀ row, db.cursorRow id = some row → (change row).Coherent reader) :
    (db.setCursor id change).Coherent reader := by
  refine of_issued (before.cursorsIssued.setCursor keeps) fun row member => ?_
  obtain ⟨old, inside, rfl⟩ := Table.mem_modify.1 member
  split
  · next same =>
    refine coherent old ?_
    rw [← same]
    exact before.cursorRow_eq inside
  · exact before.coherent old inside

theorem addCursor {added : Uuid → Cursor} (before : db.Coherent reader)
    (named : ∀ id, (added id).id = id) (coherent : (added db.fresh).Coherent reader) :
    (db.addCursor added).Coherent reader := by
  refine of_issued (before.cursorsIssued.addCursor named) fun row member => ?_
  rcases List.mem_append.1 member with old | new
  · exact before.coherent row old
  · obtain rfl := List.mem_singleton.1 new
    exact coherent

end Database.Coherent

/-! ### The writes -/

section Writes

variable {target : Target} {runId : Uuid} {mode : RunMode} {page : PageWrite}
  {cursor advanced : Cursor}

/-- A row that is inserted has no watermark. -/
theorem newCursor_coherent (account : Uuid) (targetId : Option Uuid) (cursorType : String)
    (version : Int) (mode : RunMode) (id : Uuid) (value : Option String) :
    ({ newCursor account targetId cursorType version mode id with cursorValue := value } :
      Cursor).Coherent reader := fun _ same => by simp [newCursor] at same

/-- A row that has been found or added is the row under its identifier. -/
theorem ensureCursor_ascends {missing : PyError} (coherent : db.Coherent reader)
    (ok : ensureCursor db target mode missing = .ok (cursor, db')) :
    Ascends reader db db' ∧ db'.Coherent reader ∧ db'.cursorRow cursor.id = some cursor := by
  have member := (ensureCursor_mem ok).1
  obtain ⟨-, rfl⟩ | ⟨-, account, -, rfl, rfl⟩ := ensureCursor_eq_ok ok
  · exact ⟨.refl _, coherent, coherent.cursorRow_eq member⟩
  · have after := coherent.addCursor (fun _ => rfl)
      (newCursor_coherent account (some target.id) target.operationKey target.cursorVersion mode
        db.fresh none)
    exact ⟨.addCursor, after, after.cursorRow_eq member⟩

/-- A position that has been decided on moves a row forward, unless it is missing and the row has
one. -/
theorem decided_precedes {strategy : CursorStrategy} {next : Option String} {action : CursorAction}
    {position : Option CursorPosition} {continuation : Option Object} {bound : Option Uuid}
    (coherent : cursor.Coherent reader)
    (decided : decideCursor reader strategy cursor.cursorValue next = .ok (action, position))
    (cleared : next = none → cursor.cursorValue = none) :
    let moved := ({ cursor with
      cursorValue := next
      continuation := continuation
      continuationRunId := bound } : Cursor).mark position
    cursor.Precedes reader moved ∧ moved.Coherent reader ∧ moved.cursorValue = next := by
  cases next with
  | none =>
      have none : position = none := by
        obtain ⟨-, previous, proposed, -, read, chosen⟩ := decideCursor_eq_ok_iff.1 decided
        rw [decidePosition_result chosen, ← Except.ok.inj read]
      subst none
      have value : cursor.cursorValue = .none := cleared rfl
      refine ⟨.of_eq rfl value.symm rfl, fun watermark same => ?_, rfl⟩
      obtain ⟨position, read, le⟩ := coherent watermark same
      rw [value] at read
      exact ⟨position, read, le⟩
  | some text =>
      obtain ⟨next, rfl, read, forward⟩ := decideCursor_forward decided (by simp)
      refine ⟨⟨rfl, fun low same => ⟨next, read, forward low same⟩, fun _ => by simp [Cursor.mark],
        fun low same => ⟨next.publishedAt, rfl, ?_⟩⟩, fun watermark same => ⟨next, read, ?_⟩, rfl⟩
      · obtain ⟨before, held, le⟩ := coherent low same
        exact le.trans (publishedAt_le (forward before held))
      · exact (Option.some.inj same).ge

/-- **A page moves its row forward**, unless it has no cursor and the row has one. -/
theorem advancedCursor_precedes (coherent : cursor.Coherent reader)
    (ok : advancedCursor reader target runId page cursor = .ok advanced)
    (cleared : page.pageMode = true → page.result.nextCursor = none → cursor.cursorValue = none) :
    cursor.Precedes reader advanced ∧ advanced.Coherent reader ∧
      (∀ value, page.result.nextCursor = some value → page.result.hasMore = false →
        advanced.cursorValue = some value) := by
  unfold advancedCursor at ok
  simp only at ok
  split at ok
  · next paged =>
    obtain ⟨⟨action, position⟩, decided, ok⟩ := bind_eq_ok.1 ok
    obtain rfl := pure_eq_ok.1 ok
    obtain ⟨precedes, after, value⟩ := decided_precedes coherent decided (cleared paged)
    exact ⟨precedes, after, fun _ same _ => value.trans same⟩
  · split at ok
    · next more =>
      obtain rfl := pure_eq_ok.1 ok
      refine ⟨.of_eq rfl rfl rfl, coherent, fun _ _ less => ?_⟩
      simp [more] at less
    · split at ok
      · next some =>
        obtain ⟨⟨action, position⟩, decided, ok⟩ := bind_eq_ok.1 ok
        obtain rfl := pure_eq_ok.1 ok
        obtain ⟨precedes, after, value⟩ := decided_precedes coherent decided fun none => by
          simp [none] at some
        exact ⟨precedes, after, fun _ same _ => value.trans same⟩
      · next none =>
        obtain rfl := pure_eq_ok.1 ok
        refine ⟨.refl _, coherent, fun _ same _ => ?_⟩
        simp [same] at none

/-- The row that is mirrored may be the one that has just been written. -/
theorem legacyCursor_setCursor {account : Uuid} {cursorType : String}
    (coherent : db.Coherent reader) (found : db.cursorRow cursor.id = some cursor)
    (place : advanced.place = cursor.place) :
    (db.setCursor cursor.id fun _ => advanced).legacyCursor account cursorType =
      (db.legacyCursor account cursorType).map fun row =>
        if row.id = cursor.id then advanced else row := by
  show (db.cursors.map _).find? _ = _
  rw [List.find?_map]
  refine congrArg (Option.map _) (List.find?_congr fun row member => ?_)
  show decide _ = decide _
  by_cases same : row.id = cursor.id
  · have held := coherent.cursorRow_eq member
    rw [same, found] at held
    obtain rfl := Option.some.inj held
    have account := congrArg CursorPlace.sourceAccountId place
    have type := congrArg CursorPlace.cursorType place
    simp only [Cursor.place] at account type
    simp only [if_true, account, type]
  · simp only [if_neg same]

/-- The row of the legacy runner, before a page is written, is not ahead of it. -/
def NotAhead (reader : Reader) (db : Database) (target : Target) (result : ProviderFetchResult) :
    Prop :=
  ∀ cursorType account value legacy, target.legacyCursorType = some cursorType →
    target.sourceAccountId = some account → result.nextCursor = some value →
    result.hasMore = false → db.legacyCursor account cursorType = some legacy →
    Below (position? reader legacy.cursorValue) (position? reader (some value))

/-- A row whose value is replaced by a later one. -/
theorem moved_precedes {value : String} (coherent : row.Coherent reader)
    (behind : Below (position? reader row.cursorValue) (position? reader (some value))) :
    row.Precedes reader { row with cursorValue := some value } ∧
      ({ row with cursorValue := some value } : Cursor).Coherent reader := by
  refine ⟨⟨rfl, behind, fun _ => by simp, .refl _⟩, fun watermark same => ?_⟩
  obtain ⟨position, read, le⟩ := coherent watermark same
  obtain ⟨next, read', le'⟩ := behind position read
  exact ⟨next, read', le.trans (publishedAt_le le')⟩

theorem mirrorCursor_ascends {result : ProviderFetchResult} (coherent : db.Coherent reader)
    (behind : NotAhead reader db target result) :
    Ascends reader db (mirrorCursor db target result) ∧
      (mirrorCursor db target result).Coherent reader := by
  unfold mirrorCursor
  split
  · next cursorType account value typed accounted next last =>
    split
    · next legacy held =>
      have member : legacy ∈ db.cursors := List.mem_of_find?_eq_some held
      have moved : ∀ row, db.cursorRow legacy.id = some row →
          row.Precedes reader { row with cursorValue := some value } ∧
            ({ row with cursorValue := some value } : Cursor).Coherent reader := by
        intro row found
        obtain rfl := Option.some.inj ((coherent.cursorRow_eq member).symm.trans found)
        exact moved_precedes (coherent.coherent _ member)
          (behind cursorType account value _ typed accounted next last held)
      exact ⟨.setCursor (fun _ same => same) fun row found => (moved row found).1,
        coherent.setCursor (fun _ same => same) fun row found => (moved row found).2⟩
    · exact ⟨.addCursor, coherent.addCursor (fun _ => rfl) (newCursor_coherent _ _ _ _ _ _ _)⟩
  · exact ⟨.refl _, coherent⟩

/-- **A page moves the cursors forward**, if it has a cursor, or the row has none, and the legacy
row is not ahead of it. -/
theorem persistCursor_ascends (coherent : db.Coherent reader)
    (ok : persistCursor reader db target runId mode page = .ok db')
    (cleared : page.pageMode = true → page.result.nextCursor = none → ∀ row,
      db.cursor target.id target.operationKey target.cursorVersion mode = some row →
      row.cursorValue = none)
    (behind : NotAhead reader db target page.result) :
    Ascends reader db db' ∧ db'.Coherent reader := by
  obtain ⟨-, -, -, rfl⟩ | ⟨cursor, db₁, advanced, ensured, -, moved, rfl⟩ := persistCursor_eq_ok ok
  · exact ⟨.refl _, coherent⟩
  obtain ⟨added, coherent₁, found⟩ := ensureCursor_ascends coherent ensured
  have empty : page.pageMode = true → page.result.nextCursor = none →
      cursor.cursorValue = none := by
    intro paged none
    obtain ⟨held, -⟩ | ⟨-, account, -, rfl, -⟩ := ensureCursor_eq_ok ensured
    · exact cleared paged none cursor held
    · rfl
  obtain ⟨place, same⟩ := advancedCursor_place moved
  obtain ⟨precedes, after, value⟩ := advancedCursor_precedes
    (coherent₁.coherent _ (Table.mem_of_find Cursor.id found)) moved empty
  have here : ∀ row, db₁.cursorRow cursor.id = some row → row = cursor := fun row held =>
    Option.some.inj (held.symm.trans found)
  have written : Ascends reader db₁ (db₁.setCursor cursor.id fun _ => advanced) :=
    .setCursor (fun _ _ => same) fun row held => here row held ▸ precedes
  have coherent₂ : (db₁.setCursor cursor.id fun _ => advanced).Coherent reader :=
    coherent₁.setCursor (fun _ _ => same) fun _ _ => after
  have behind₂ : NotAhead reader (db₁.setCursor cursor.id fun _ => advanced) target
      page.result := by
    intro cursorType account text legacy typed accounted next last held
    rw [legacyCursor_setCursor coherent₁ found place] at held
    obtain ⟨row, before, rfl⟩ := Option.map_eq_some_iff.1 held
    by_cases written : row.id = cursor.id
    · rw [if_pos written, value text next last]
      exact .refl _
    · rw [if_neg written]
      refine behind cursorType account text row typed accounted next last ?_
      obtain ⟨-, rfl⟩ | ⟨-, owner, -, rfl, rfl⟩ := ensureCursor_eq_ok ensured
      · exact before
      · rw [Database.legacyCursor, Database.addCursor, List.find?_append] at before
        cases held : db.legacyCursor account cursorType with
        | some legacy =>
            rw [show db.cursors.find? _ = some legacy from held] at before
            exact before
        | none =>
            rw [show db.cursors.find? _ = none from held, Option.none_or] at before
            obtain rfl := List.mem_singleton.1 (List.mem_of_find?_eq_some before)
            exact absurd rfl written
  obtain ⟨mirrored, coherent₃⟩ := mirrorCursor_ascends coherent₂ behind₂
  exact ⟨(added.trans written).trans mirrored, coherent₃⟩

/-- Binding a run moves no cursor. -/
theorem resolvedRunConfig_ascends {rules : Rules} {loaded : LoadedTarget} {held : Option Cursor}
    {bound : Object × Object} (coherent : db.Coherent reader)
    (ok : resolvedRunConfig rules db runId loaded held mode = .ok (bound, db')) :
    Ascends reader db db' ∧ db'.Coherent reader := by
  obtain ⟨run, persisted, db₁, window, -, ensured, -, -, -, -, rfl⟩ := resolvedRunConfig_eq_ok ok
  obtain ⟨added, coherent₁, -⟩ := ensureCursor_ascends coherent ensured
  refine ⟨added.trans (.trans (.of_cursors rfl) (.setCursor (fun _ same => same)
    fun row _ => .of_eq rfl rfl rfl)), ?_⟩
  have bound₁ : (db₁.setRun runId
      (Run.bind window (rules.canonicalProjectionHash bound.1))).Coherent reader := coherent₁.of_cursors rfl rfl (Nat.le_refl _)
  refine bound₁.setCursor (fun _ same => same) fun row found => ?_
  exact coherent₁.coherent row (Table.mem_of_find Cursor.id found)

/-- The legacy runner only goes forward. -/
theorem advanceLegacy_ascends {account : Uuid} {cursorType value : String}
    (coherent : db.Coherent reader)
    (done : advanceLegacy reader db account cursorType value = some db') :
    Ascends reader db db' ∧ db'.Coherent reader := by
  unfold advanceLegacy at done
  split at done
  · simp at done
  · next next read =>
    split at done
    · obtain rfl := Option.some.inj done
      exact ⟨.addCursor, coherent.addCursor (fun _ => rfl) (newCursor_coherent _ _ _ _ _ _ _)⟩
    · next legacy held =>
      split at done
      · next ahead =>
        obtain rfl := Option.some.inj done
        have member : legacy ∈ db.cursors := List.mem_of_find?_eq_some held
        have moved : ∀ row, db.cursorRow legacy.id = some row →
            row.Precedes reader { row with cursorValue := some value } ∧
              ({ row with cursorValue := some value } : Cursor).Coherent reader := by
          intro row found
          obtain rfl := Option.some.inj ((coherent.cursorRow_eq member).symm.trans found)
          refine moved_precedes (coherent.coherent _ member) fun low same => ⟨next, read, ?_⟩
          simpa [same] using ahead
        exact ⟨.setCursor (fun _ same => same) fun row found => (moved row found).1,
          coherent.setCursor (fun _ same => same) fun row found => (moved row found).2⟩
      · simp at done

end Writes

/-! ### The condition on the writes -/

/-- The page writes a cursor. -/
def PageWrite.writes (page : PageWrite) : Bool :=
  page.pageMode || page.result.nextCursor.isSome || page.result.hasMore

/-- **The condition on the writes.** A page that is stored without a snapshot, or without a cursor,
finds a row without a value, and the row of the legacy runner is not ahead of it; and the row that
is read between two pages has the value the next request starts from. -/
def Ascending (deployed : Deployment) (state : Control) (phases : ℕ → Option Phase) :
    Move signature Choice Job Happening → Prop
  | .work who (.persistResult loaded _ _ _ page) _ =>
      ∀ work, phases who = some (.collecting work) → page.writes = true →
        (∀ row, work.row state.database = some row →
          page.snapshot = none ∨ page.pageMode = true ∧ page.result.nextCursor = none →
          row.cursorValue = none) ∧
        ∀ target, state.database.target loaded.target.id = some target →
          NotAhead deployed.rules.reader state.database target page.result
  | .work who (.readCursor targetId cursorType mode) choice =>
      ∀ work, phases who = some (.collecting work) →
        (queriedRow state.database targetId cursorType mode choice).bind Cursor.cursorValue =
          work.source
  | _ => True

variable {deployed : Deployment} {state state' : Control} {who : Nat} {work work' : Collecting}
  {phases phases' : ℕ → Option Phase} {move : Move signature Choice Job Happening}

/-! ### One step moves the cursors forward -/

/-- The passes over the stale runs leave the cursors alone. -/
theorem recoverStaleTargetRuns_cursors (db : Database) (redis : Redis)
    (now staleBefore delay : Int) :
    (recoverStaleTargetRuns db redis now staleBefore delay).1.cursors = db.cursors := by
  refine List.foldlRecOn (motive := fun (state : Database × Nat) =>
    state.1.cursors = db.cursors) _ _ rfl ?_
  intro state kept stale _
  unfold recoverTargetRun
  split
  · exact kept
  · split
    · exact kept
    · split
      · exact kept
      · exact kept

theorem recoverStaleRuns_cursors (db : Database) (redis : Redis) (now staleAfter : Int) :
    (recoverStaleRuns db redis now staleAfter).1.cursors = db.cursors := by
  refine List.foldlRecOn (motive := fun (state : Database × Nat) =>
    state.1.cursors = db.cursors) _ _ rfl ?_
  intro state kept stale _
  unfold recoverRun
  split
  · exact kept
  · exact kept

/-- Only the legacy runner moves a cursor by itself. -/
theorem happen_ascends {happening : Happening}
    (coherent : state.database.Coherent deployed.rules.reader)
    (happened : happen deployed state happening = some state') :
    Ascends deployed.rules.reader state.database state'.database ∧
      state'.database.Coherent deployed.rules.reader := by
  have grows := (happen_evolves happened).grows
  have still : state'.database.cursors = state.database.cursors →
      Ascends deployed.rules.reader state.database state'.database ∧
        state'.database.Coherent deployed.rules.reader := fun same =>
    ⟨.of_cursors same, coherent.of_cursors same grows.supply_eq grows.issued_le⟩
  cases happening with
  | advanceLegacy account cursorType value =>
      obtain ⟨db, advanced, rfl⟩ := Option.map_eq_some_iff.1 happened
      exact advanceLegacy_ascends coherent advanced
  | tick | lose =>
      obtain rfl := Option.some.inj happened
      exact still rfl
  | renew who =>
      refine still ?_
      unfold happen at happened
      simp only at happened
      split at happened
      · split at happened
        · simp at happened
        · obtain rfl := Option.some.inj happened
          unfold renewOnce
          simp only
          split
          · rfl
          · rfl
      · simp at happened
  | recover staleBefore delay =>
      obtain rfl := Option.some.inj happened
      exact still (recoverStaleTargetRuns_cursors ..)
  | recoverLegacy staleAfter =>
      obtain rfl := Option.some.inj happened
      exact still (recoverStaleRuns_cursors ..)
  | revise targetId expected values =>
      refine still ?_
      unfold happen at happened
      simp only at happened
      split at happened
      · next next db ok =>
        obtain rfl := Option.some.inj happened
        obtain ⟨target, -, -, -, -, -, status, strategy, mode, rfl, -⟩ := revise_eq_ok ok
        rfl
      · simp at happened

/-- **One operation moves the cursors forward.** -/
theorem work_ascends {phase : Phase} {op : Op} {choice : Choice} {reply : Result (Answer op)}
    (coherent : state.database.Coherent deployed.rules.reader) (bound : phases who = some phase)
    (known : Known deployed state who phase) (allowed : phase.allowed deployed.rules op)
    (executed : Executed deployed state who op reply state')
    (ascending : Ascending deployed state phases (.work who op choice)) :
    Ascends deployed.rules.reader state.database state'.database ∧
      state'.database.Coherent deployed.rules.reader := by
  have grows := executed.evolves.grows
  have still : state'.database.cursors = state.database.cursors →
      Ascends deployed.rules.reader state.database state'.database ∧
        state'.database.Coherent deployed.rules.reader := fun same =>
    ⟨.of_cursors same, coherent.of_cursors same grows.supply_eq grows.issued_le⟩
  cases reply with
  | error raised => exact still (congrArg Database.cursors executed.database_of_error)
  | ok value =>
      cases op with
      | resolvedRunConfig runId loaded cursor mode =>
          obtain ⟨db, ok, rfl⟩ := commit_eq_ok (executed.perform_eq (by simp) (by simp))
          exact resolvedRunConfig_ascends coherent ok
      | persistResult loaded dispatch runId mode page =>
          obtain ⟨work, rfl, mine⟩ := collecting_of_settles allowed rfl
          obtain ⟨rfl, rfl, -, rfl, storable⟩ := mine
          obtain ⟨db, ok, rfl⟩ := commitUnit_eq_ok (executed.perform_eq (by simp) (by simp))
          by_cases writes : page.writes = true
          · obtain ⟨cleared, behind⟩ := ascending work bound writes
            obtain ⟨target, run, counts, db₁, db₂, found, held, unrevised, counted, adds, recorded,
              written⟩ := persistResult_eq_ok ok
            obtain ⟨-, -, -, cursors⟩ := recordRejected_touches 0 recorded
            have same : db₂.cursors = state.database.cursors := cursors.trans adds.cursors_eq
            have before : ((db₂.setRun runId (settledRun page counts state.now)).setTarget
                target.id (settledTarget page state.now)).Coherent deployed.rules.reader := by
              refine coherent.of_cursors same ?_ ?_
              · exact (recordRejected_touches 0 recorded).1.supply_eq.trans adds.supply_eq
              · exact Nat.le_trans adds.issued_le (recordRejected_touches 0 recorded).1.issued_le
            have lookup := Database.cursor_of_cursors same target.id target.operationKey
              target.cursorVersion work.execution.mode
            obtain ⟨ascends, after⟩ := persistCursor_ascends before written
              (fun paged none row present => cleared row
                ((known.2.1.row_eq found unrevised _ _).symm.trans (lookup.symm.trans present))
                (.inr ⟨paged, none⟩))
              (fun cursorType account value legacy typed accounted next last present =>
                behind target found cursorType account value legacy typed accounted next last
                  (by
                    rw [Database.legacyCursor, ← same]
                    exact present))
            exact ⟨.trans (.of_cursors same) ascends, after⟩
          · refine still ?_
            obtain ⟨target, db₁, found, unrevised, same, written, -⟩ := persistResult_cursors ok
            unfold persistCursor at written
            rw [if_neg (show ¬ (page.pageMode || page.result.nextCursor.isSome ||
              page.result.hasMore) = true from writes)] at written
            obtain rfl := pure_eq_ok.1 written
            exact same
      | _ => exact still (executed.cursors_eq rfl)

/-- **One step moves the cursors forward.** -/
theorem stepped_ascends (stepped : (discipline deployed).Stepped state phases move state' phases')
    (ascending : Ascending deployed state phases move) (sound : Sound deployed state phases)
    (coherent : state.database.Coherent deployed.rules.reader) :
    Ascends deployed.rules.reader state.database state'.database ∧
      state'.database.Coherent deployed.rules.reader := by
  cases stepped with
  | work who op choice bound allowed done =>
      exact work_ascends coherent bound (sound.known _ _ bound) allowed (executed_of_exec done)
        ascending
  | crash => exact ⟨.refl _, coherent⟩
  | start who job free accepted =>
      obtain rfl := Option.some.inj accepted
      cases job with
      | execute | schedule => exact ⟨.refl _, coherent⟩
  | env happening happened => exact happen_ascends coherent happened

/-! ### What a page has been fetched from -/

/-- **A snapshot is what the next request starts from**, and a row once found stays. -/
structure Collecting.Rooted (work : Collecting) (db : Database) : Prop where
  source_eq : work.stage ≠ .turned → work.snapshot.bind Cursor.cursorValue = work.source
  present : work.stage = .turned ∨ work.snapshot ≠ none → ∃ row, work.row db = some row
  single : ¬ work.bounded → work.stage ≠ .turned

/-- Every snapshot is. -/
def Rooted (state : Control) (phases : ℕ → Option Phase) : Prop :=
  ∀ who work, phases who = some (.collecting work) → work.Rooted state.database

/-- A row that is found is found for good. -/
theorem Ascends.cursor (ascends : Ascends reader db db') (coherent : db.Coherent reader)
    {targetId : Uuid} {cursorType : String} {version : Int} {mode : RunMode}
    (found : ∃ row, db.cursor targetId cursorType version mode = some row) :
    ∃ row, db'.cursor targetId cursorType version mode = some row := by
  obtain ⟨row, found⟩ := found
  obtain ⟨next, held, precedes⟩ := ascends _ _ (coherent.cursorRow_eq
    (List.mem_of_find?_eq_some found))
  have named := List.find?_some found
  simp only [Bool.decide_and, Bool.and_eq_true, decide_eq_true_eq] at named
  have place := precedes.place_eq
  exact Database.cursor_isSome_of_mem (Table.mem_of_find Cursor.id held)
    ((congrArg CursorPlace.targetId place).trans named.1)
    ((congrArg CursorPlace.cursorType place).trans named.2.1)
    ((congrArg CursorPlace.cursorVersion place).trans named.2.2.1)
    ((congrArg CursorPlace.runMode place).trans named.2.2.2)

namespace Collecting.Rooted

/-- The same snapshot and the same source, in a later state of the tables. -/
theorem mono (rooted : work.Rooted db) (ascends : Ascends reader db db')
    (coherent : db.Coherent reader) (tenure : work'.toTenure = work.toTenure)
    (snapshot : work'.snapshot = work.snapshot) (source : work'.source = work.source)
    (stage : work'.stage = work.stage ∨ work.stage ≠ .turned ∧ work'.stage ≠ .turned) :
    work'.Rooted db' := by
  have still : work'.stage = .turned ↔ work.stage = .turned := by
    rcases stage with same | ⟨before, after⟩
    · rw [same]
    · exact ⟨fun turned => absurd turned after, fun turned => absurd turned before⟩
  refine ⟨?_, ?_, ?_⟩
  · rw [snapshot, source, ne_eq, still]
    exact rooted.source_eq
  · rw [snapshot, still, tenure]
    exact fun some => ascends.cursor coherent (rooted.present some)
  · rw [tenure, ne_eq, still]
    exact rooted.single

end Collecting.Rooted

/-- **One operation of the worker itself.** -/
theorem rooted_next {op : Op} {choice : Choice} {reply : Result (Answer op)}
    (rooted : work.Rooted state.database)
    (coherent : state.database.Coherent deployed.rules.reader)
    (known : LoadedFor deployed state.database work.execution work.loaded)
    (allowed : collecting.allowed deployed.rules work op)
    (done : exec deployed state who op choice = some (reply, state'))
    (ascending : Ascending deployed state phases (.work who op choice))
    (ascends : Ascends deployed.rules.reader state.database state'.database)
    (told : phases who = some (.collecting work))
    (stays : (Phase.collecting work).next op reply = .collecting work') :
    work'.Rooted state'.database := by
  have executed := executed_of_exec done
  have unturned : ∀ runId request, collecting.allowed deployed.rules work (.fetch runId request) →
      work.stage ≠ .turned := by
    intro runId request allowed
    by_cases bounded : work.bounded
    · rw [(allowed.2.2 bounded).1]
      exact Stage.noConfusion
    · exact rooted.single bounded
  cases reply with
  | error raised =>
      unfold Phase.next Phase.raised at stays
      cases op with
      | stopRenewal => simp at stays
      | fetch runId request =>
          obtain rfl := Phase.collecting.inj stays
          exact rooted.mono ascends coherent rfl rfl rfl (.inr ⟨unturned _ _ allowed, by simp⟩)
      | _ =>
          obtain rfl := Phase.collecting.inj stays
          exact rooted.mono ascends coherent rfl rfl rfl (.inl rfl)
  | ok value =>
      unfold Phase.next Phase.answered collecting.answered at stays
      cases op with
      | finishError | finishLockLost | stopRenewal => simp at stays
      | fetch runId request =>
          obtain rfl := Phase.collecting.inj stays
          exact rooted.mono ascends coherent rfl rfl rfl (.inr ⟨unturned _ _ allowed, by simp⟩)
      | reserveRequest loaded runId =>
          have idle := allowed.2.2.1
          cases value with
          | exhausted => simp at stays
          | reserved =>
              obtain rfl := Phase.collecting.inj stays
              exact rooted.mono ascends coherent rfl rfl rfl (.inr ⟨by simp [idle], by simp⟩)
      | persistResult loaded dispatch runId mode page =>
          simp only at stays
          split at stays
          · simp at stays
          · next more =>
            obtain rfl := Phase.collecting.inj stays
            obtain ⟨rfl, rfl, -, rfl, storable⟩ := allowed
            have bounded : work.bounded := by
              by_contra single
              exact more (storable.single single)
            obtain ⟨db, ok, rfl⟩ := commitUnit_eq_ok (executed.perform_eq (by simp) (by simp))
            obtain ⟨target, db₁, found, unrevised, -, written, -⟩ := persistResult_cursors ok
            obtain ⟨row, after⟩ := persistCursor_row (storable.paged.2 bounded) written
            refine ⟨fun unturned => absurd rfl unturned, fun _ => ⟨row, ?_⟩,
              fun single => absurd bounded single⟩
            rw [← after]
            exact (known.row_eq found unrevised db work.execution.mode).symm
      | readCursor targetId cursorType mode =>
          obtain rfl := Phase.collecting.inj stays
          obtain ⟨rfl, rfl⟩ := exec_readCursor done
          exact ⟨fun _ => ascending work told, fun _ => rooted.present (.inl allowed.1),
            fun _ => by simp⟩
      | _ =>
          obtain rfl := Phase.collecting.inj stays
          exact rooted.mono ascends coherent rfl rfl rfl (.inl rfl)

/-- A run that has just been started or adopted has the row of its version as its snapshot. -/
theorem rooted_started {target : LoadedTarget} {dispatch : TargetDispatch} {mode : RunMode}
    {reply : Result (Answer (.startRun target dispatch mode))} {execution : Execution}
    {loaded : Option LoadedTarget}
    (executed : Executed deployed state who (.startRun target dispatch mode) reply state')
    (known : Known deployed state who (.locked execution loaded))
    (allowed : locked.allowed execution loaded (.startRun target dispatch mode))
    (next : (Phase.locked execution loaded).next (.startRun target dispatch mode) reply =
      .collecting work) : work.Rooted state'.database := by
  have fresh := fresh_started executed known allowed next
  cases reply with
  | error raised => simp [Phase.next, Phase.raised] at next
  | ok value =>
      obtain ⟨runId, cursor⟩ := value
      obtain rfl := Phase.collecting.inj next
      refine ⟨fun _ => rfl, ?_, fun _ => by simp⟩
      rintro (turned | some)
      · simp at turned
      · obtain ⟨snapshot, same⟩ := Option.ne_none_iff_exists'.1 some
        obtain ⟨row, found, -⟩ := fresh.held (by simp) snapshot same
        exact ⟨row, found⟩

/-- What is kept on the way. -/
structure Climbing (deployed : Deployment) (state : Control) (phases : ℕ → Option Phase) :
    Prop where
  sound : Sound deployed state phases
  coherent : state.database.Coherent deployed.rules.reader
  rooted : Rooted state phases

theorem climbing_preserved :
    (discipline deployed).Preserves (Ascending deployed) (Climbing deployed) := by
  intro state phases move state' phases' stepped ascending kept
  obtain ⟨ascends, coherent⟩ := stepped_ascends stepped ascending kept.sound kept.coherent
  refine ⟨sound_preserved stepped kept.sound, coherent, ?_⟩
  intro other work told
  have still : phases other = some (.collecting work) → work.Rooted state'.database := fun before =>
    (kept.rooted other work before).mono ascends kept.coherent rfl rfl rfl (.inl rfl)
  cases stepped with
  | work who op choice bound allowed done =>
      by_cases same : other = who
      · subst same
        rw [Function.update_self] at told
        have next := Option.some.inj told
        have known := kept.sound.known _ _ bound
        rcases collecting_of_next allowed next with ⟨before, rfl, tenure⟩ |
          ⟨execution, loaded, target, dispatch, mode, rfl, rfl⟩
        · exact rooted_next (kept.rooted other before bound) kept.coherent known.2.1 allowed done
            ascending ascends bound next
        · exact rooted_started (executed_of_exec done) known allowed next
      · rw [Function.update_of_ne same] at told
        exact still told
  | crash who bound =>
      by_cases same : other = who
      · subst same
        rw [Function.update_self] at told
        simp at told
      · rw [Function.update_of_ne same] at told
        exact still told
  | start who job free accepted =>
      by_cases same : other = who
      · subst same
        rw [Function.update_self] at told
        exact absurd (Option.some.inj told) (job_phase_ne job work)
      · rw [Function.update_of_ne same] at told
        exact still told
  | env happening happened => exact still told

/-- The last request in a log. -/
def lastRequest (log : List (Σ op : Op, Result (Answer op))) : Option ProviderFetchRequest :=
  log.reverse.findSome? fun entry =>
    match entry.1 with
    | .fetch _ request => some request
    | _ => none

/-- A page that has been fetched is the answer to the last request, which started from the source
of the worker. -/
def Requested (phase : Phase) (log : List (Σ op : Op, Result (Answer op))) : Prop :=
  ∀ work result, phase = .collecting work → work.stage = .fetched result →
    ∃ request, lastRequest log = some request ∧ request.cursor = work.source

theorem requested_initial (job : Job) : Requested job.phase [] := fun work _ same =>
  absurd same (job_phase_ne job work)

/-- The last request after an operation. -/
def requestAfter (log : List (Σ op : Op, Result (Answer op))) : Op → Option ProviderFetchRequest
  | .fetch _ request => some request
  | _ => lastRequest log

theorem requested_next {rules : Rules} {phase : Phase} (log : List (Σ op : Op, Result (Answer op)))
    (op : Op) (reply : Result (Answer op)) (allowed : phase.allowed rules op)
    (before : Requested phase log) : Requested (phase.next op reply) (log ++ [⟨op, reply⟩]) := by
  intro work result next fetched
  have last : lastRequest (log ++ [⟨op, reply⟩]) = requestAfter log op := by
    unfold lastRequest
    rw [List.reverse_concat, List.findSome?_cons]
    cases op with
    | _ => rfl
  rw [last]
  rcases collecting_of_next allowed next with ⟨earlier, rfl, -⟩ |
    ⟨execution, loaded, target, dispatch, mode, rfl, rfl⟩
  · cases reply with
    | error raised =>
        unfold Phase.next Phase.raised at next
        cases op with
        | stopRenewal => simp at next
        | fetch runId request =>
            obtain rfl := Phase.collecting.inj next
            simp at fetched
        | _ =>
            obtain rfl := Phase.collecting.inj next
            exact before earlier result rfl fetched
    | ok value =>
        unfold Phase.next Phase.answered collecting.answered at next
        cases op with
        | finishError | finishLockLost | stopRenewal => simp at next
        | fetch runId request =>
            obtain rfl := Phase.collecting.inj next
            exact ⟨request, rfl, allowed.2.1⟩
        | reserveRequest loaded runId =>
            cases value with
            | exhausted => simp at next
            | reserved =>
                obtain rfl := Phase.collecting.inj next
                simp at fetched
        | persistResult loaded dispatch runId mode page =>
            simp only at next
            split at next
            · simp at next
            · obtain rfl := Phase.collecting.inj next
              simp at fetched
        | readCursor targetId cursorType mode =>
            obtain rfl := Phase.collecting.inj next
            simp at fetched
        | _ =>
            obtain rfl := Phase.collecting.inj next
            exact before earlier result rfl fetched
  · cases reply with
    | error raised => simp [Phase.next, Phase.raised] at next
    | ok value =>
        obtain ⟨runId, cursor⟩ := value
        obtain rfl := Phase.collecting.inj next
        simp at fetched

/-! ### Histories -/

theorem climbing_initial (issued : state.database.Issued)
    (coherent : state.database.Coherent deployed.rules.reader) :
    Climbing deployed state fun _ => none :=
  ⟨⟨issued, fun _ _ told => by simp at told⟩, coherent, fun _ _ told => by simp at told⟩

/-- A page is applied to the value it has been fetched from. -/
theorem Climbing.applied {page : PageWrite} {runId : Uuid} {result : ProviderFetchResult}
    (climbing : Climbing deployed state phases) (told : phases who = some (.collecting work))
    (storable : Storable deployed.rules work page) (fetched : work.stage = .fetched result)
    (ascending : ∀ row, work.row state.database = some row → page.snapshot = none →
      row.cursorValue = none)
    (writes : page.writes = true)
    (ok : persistResult deployed.rules state.database state.now work.loaded work.execution.dispatch
      runId work.execution.mode page = .ok db') :
    (work.row state.database).bind Cursor.cursorValue = work.source := by
  have rooted := climbing.rooted who work told
  have source := rooted.source_eq (by simp [fetched])
  obtain ⟨target, db₁, found, unrevised, cursors, written, -⟩ := persistResult_cursors ok
  have here : db₁.cursor target.id target.operationKey target.cursorVersion work.execution.mode =
      work.row state.database :=
    (Database.cursor_of_cursors cursors _ _ _ _).trans
      ((climbing.sound.known _ _ told).2.1.row_eq found unrevised _ _)
  obtain ⟨single, none, last, -⟩ | ⟨cursor, db₂, advanced, ensured, fresh, -, -⟩ :=
    persistCursor_eq_ok written
  · simp [PageWrite.writes, single, none, last] at writes
  · cases row : work.row state.database with
    | none =>
        have empty : work.snapshot = none := by
          by_contra some
          obtain ⟨found, held⟩ := rooted.present (.inr some)
          simp [row] at held
        rw [← source, empty]
    | some stored =>
        rw [row] at here
        obtain ⟨held, -⟩ | ⟨absent, -⟩ := ensureCursor_eq_ok ensured
        · obtain rfl := Option.some.inj (here.symm.trans held)
          show stored.cursorValue = work.source
          rw [← source]
          cases snapshot : work.snapshot with
          | none => exact ascending stored row (storable.snapshot_eq.trans snapshot)
          | some kept =>
              rcases fresh with missing | same
              · simp [here] at missing
              · simpa [storable.snapshot_eq, snapshot, notStale] using same
        · simp [here] at absent

/-- **Cursors go forward, and a page is applied to the value it has been fetched from**, in every
history whose writes look at what they replace. -/
theorem cursors_ascend {world later : World signature (Result Ended) Control Job}
    (issued : state.database.Issued) (coherent : state.database.Coherent deployed.rules.reader)
    (reached : (discipline deployed).Reaches (Ascending deployed) (.initial state) world)
    (continued : (discipline deployed).Reaches (Ascending deployed) world later) :
    Ascends deployed.rules.reader world.state.database later.state.database ∧
      ∀ (job : Job) (loaded : LoadedTarget) (dispatch : TargetDispatch) (runId : Uuid)
        (mode : RunMode) (page : PageWrite)
        (next : Result Unit → Program signature (Result Ended))
        (log : List (Σ op : Op, Result (Answer op))) (db : Database),
      later.tasks who =
        some ⟨job, .call (.persistResult loaded dispatch runId mode page) next, log⟩ →
      Ascending deployed later.state ((discipline deployed).phases later)
        (.work who (.persistResult loaded dispatch runId mode page) .proceed) →
      page.writes = true →
      persistResult deployed.rules later.state.database later.state.now loaded dispatch runId mode
        page = .ok db →
      ∃ request, lastRequest log = some request ∧
        request.cursor = (later.state.database.cursor loaded.target.id loaded.target.operationKey
          loaded.target.cursorVersion mode).bind Cursor.cursorValue := by
  have start := (discipline deployed).adherent_initial state
  have adherent := reached.adherent _ start
  have climbing := reached.invariant _ climbing_preserved start (climbing_initial issued coherent)
  refine ⟨?_, ?_⟩
  · clear reached start
    induction continued with
    | refl => exact .refl _
    | step before asked allowed stepped ih =>
        have here := before.invariant _ climbing_preserved adherent climbing
        have moved := ((discipline deployed).stepped_of_step (before.adherent _ adherent) asked
          stepped).1
        exact ih.trans (stepped_ascends moved allowed here.sound here.coherent).1
  · intro job loaded dispatch runId mode page next log db asks ascending writes ok
    have here := continued.invariant _ climbing_preserved adherent climbing
    have logged : ∀ who task, world.tasks who = some task →
        Requested ((discipline deployed).phase task) task.log :=
      reached.log_invariant _ start (fun _ _ held => by simp [World.initial] at held)
        requested_initial fun _ log op reply allowed before =>
          requested_next log op reply allowed before
    have requested := continued.log_invariant _ adherent logged requested_initial
      (fun _ log op reply allowed before => requested_next log op reply allowed before) who _ asks
    have allowed := (continued.adherent _ adherent who _ asks).1
    obtain ⟨work, collects, mine⟩ := collecting_of_settles allowed rfl
    have told : (discipline deployed).phases later who = some (.collecting work) := by
      rw [← collects]
      simp [Discipline.phases, asks]
    obtain ⟨rfl, rfl, rfl, rfl, storable⟩ := mine
    obtain ⟨result, fetched, -⟩ := storable.fetched
    obtain ⟨request, last, source⟩ := requested work result collects fetched
    exact ⟨request, last, source.trans (here.applied told storable fetched
      (fun row present none => (ascending work told writes).1 row present (.inl none)) writes
      ok).symm⟩

/-! ### The quote of two days -/

/-- A quote with this cursor has been fetched. -/
def quotePage (value : String) : ProviderFetchResult :=
  ⟨⟨[], [], some value, false, [], "finnhub", 1, [], [], none, [], false⟩, rfl, .inl rfl, .inl rfl⟩

/-- A worker is about to store the quote of a day. -/
def quoteFetched (who : Nat) (value : String) : List (Event Choice Job Happening) :=
  .start (.execute quoteDispatch) :: proceed who 10 ++
    .work who (.outcome (.ok (quotePage value))) :: proceed who 1

/-- A position that is the same or of an earlier instant. -/
def notLater (low high : Option CursorPosition) : Bool :=
  low.all fun low => high.any fun high => low == high || decide (low.publishedAt < high.publishedAt)

theorem below_of_notLater {low high : Option CursorPosition} (checked : notLater low high = true) :
    Below low high := by
  rintro position rfl
  obtain ⟨next, rfl, same⟩ := (Option.any_eq_true ..).1 checked
  refine ⟨next, rfl, ?_⟩
  rcases (Bool.or_eq_true _ _).mp same with equal | less
  · exact (eq_of_beq equal).le
  · have lex : toLex (position.publishedAt, position.providerItemId) ≤
        toLex (next.publishedAt, next.providerItemId) :=
      (Prod.Lex.toLex_le_toLex).2 (.inl (of_decide_eq_true less))
    exact lex

/-- A step that writes with a look, where nothing is read between two pages. -/
def ascendingStep (world : World signature (Result Ended) Control Job) :
    Event Choice Job Happening → Bool
  | .work who _ =>
      match world.tasks who with
      | some ⟨_, .call (.readCursor ..) _, _⟩ => false
      | some ⟨_, .call (.persistResult loaded _ _ _ page) _, _⟩ =>
          let db := world.state.database
          (match (discipline quoteDeployment).phases world who with
            | some (.collecting work) => (work.row db).all fun row => row.cursorValue == none ||
                page.snapshot.isSome && !page.pageMode
            | _ => true) &&
          (db.target loaded.target.id).all fun target =>
            target.legacyCursorType.all fun cursorType => target.sourceAccountId.all fun account =>
              page.result.nextCursor.all fun value => (db.legacyCursor account cursorType).all
                fun legacy => notLater (position? quoteRules.reader legacy.cursorValue)
                  (position? quoteRules.reader (some value))
      | _ => true
  | _ => true

theorem ascendingStep_ascending (world : World signature (Result Ended) Control Job)
    (event : Event Choice Job Happening) (move : Move signature Choice Job Happening)
    (asked : world.move event = some move) (passed : ascendingStep world event = true) :
    Ascending quoteDeployment world.state ((discipline quoteDeployment).phases world) move := by
  cases event with
  | work who choice =>
      unfold World.move at asked
      simp only at asked
      split at asked
      · next job op rest log held =>
        obtain rfl := Option.some.inj asked
        cases op with
        | readCursor => simp [ascendingStep, held] at passed
        | persistResult loaded dispatch runId mode page =>
            intro work told writes
            simp only [ascendingStep, held, told] at passed
            obtain ⟨present, mirrored⟩ := (Bool.and_eq_true _ _).mp passed
            refine ⟨fun row found unseen => ?_, ?_⟩
            · rw [found] at present
              rcases (Bool.or_eq_true _ _).mp present with empty | seen
              · exact eq_of_beq empty
              · obtain ⟨some, single⟩ := (Bool.and_eq_true _ _).mp seen
                rcases unseen with none | ⟨paged, -⟩
                · simp [none] at some
                · simp [paged] at single
            · intro target stored cursorType account value legacy typed accounted next last behind
              rw [stored] at mirrored
              simp only [Option.all_some, typed, accounted, next, behind] at mirrored
              exact below_of_notLater mirrored
        | _ => exact trivial
      · simp at asked
  | crash | env | start =>
      obtain rfl := Option.some.inj asked
      exact trivial

/-- The request of a worker that is about to store a page, and whether it may. -/
def aboutToStore (world : World signature (Result Ended) Control Job)
    (task : Task signature (Result Ended) Job) : Option (Option (Option String) × Bool) :=
  match task.program with
  | .call (.persistResult loaded dispatch runId mode page) _ =>
      some ((lastRequest task.log).map ProviderFetchRequest.cursor,
        ascendingStep world (.work 1 .proceed) && page.writes &&
        (persistResult quoteRules world.state.database world.state.now loaded dispatch runId mode
          page).toOption.isSome)
  | _ => none

/-- The first quote is stored; the second one is about to be. -/
theorem cursors_ascend_quotes : ∃ (world later : World signature (Result Ended) Control Job)
      (loaded : LoadedTarget) (mode : RunMode) (request : ProviderFetchRequest),
    request.cursor = some earlyQuote ∧
    Ascends quoteRules.reader world.state.database later.state.database ∧
    request.cursor = (later.state.database.cursor loaded.target.id loaded.target.operationKey
      loaded.target.cursorVersion mode).bind Cursor.cursorValue := by
  have ran : ((World.initial quoteControl).checked (controlPlane quoteDeployment) ascendingStep
      (quoteFetched 0 earlyQuote ++ proceed 0 3)).bind (fun world =>
        (world.checked (controlPlane quoteDeployment) ascendingStep
          (quoteFetched 1 lateQuote)).bind fun later =>
            (later.tasks 1).bind (aboutToStore later)) =
      some (some (some earlyQuote), true) := by
    decide +kernel
  obtain ⟨world, once, rest⟩ := Option.bind_eq_some_iff.1 ran
  obtain ⟨later, again, rest⟩ := Option.bind_eq_some_iff.1 rest
  obtain ⟨⟨job, program, log⟩, held, asks⟩ := Option.bind_eq_some_iff.1 rest
  unfold aboutToStore at asks
  simp only at asks
  split at asks
  · next loaded dispatch runId mode page next =>
    obtain ⟨cursor, checked⟩ := Prod.mk.inj (Option.some.inj asks)
    simp only [Bool.and_eq_true] at checked
    obtain ⟨⟨passed, writes⟩, stored⟩ := checked
    obtain ⟨db, ok⟩ := Option.isSome_iff_exists.1 stored
    have coherent : quoteControl.database.Coherent quoteRules.reader :=
      ⟨by simp [quoteControl, quoteTables], by simp [quoteControl, quoteTables],
        by simp [quoteControl, quoteTables]⟩
    have asked : later.move (Event.work 1 Choice.proceed : Event Choice Job Happening) =
        some (Move.work 1 (Op.persistResult loaded dispatch runId mode page) Choice.proceed) := by
      simp [World.move, held]
    obtain ⟨ascends, applied⟩ := @cursors_ascend quoteDeployment quoteControl 1 world later
      quoteTables_issued coherent (.of_checked _ ascendingStep_ascending (.refl _) once)
      (.of_checked _ ascendingStep_ascending (.refl _) again)
    obtain ⟨request, last, same⟩ := applied job loaded dispatch runId mode page next log db held
      (ascendingStep_ascending later _ _ asked passed) writes (by
        cases done : persistResult quoteRules later.state.database later.state.now loaded dispatch
            runId mode page with
        | error raised => simp [done, Except.toOption] at ok
        | ok held =>
            rw [done] at ok
            exact done.trans (congrArg Except.ok (Option.some.inj ok)))
    refine ⟨world, later, loaded, mode, request, ?_, ascends, same⟩
    simpa [last] using cursor
  · simp at asks

/-- The legacy runner stores the later quote while a worker is about to store the earlier one. -/
def overtaken : List (Event Choice Job Happening) :=
  quoteFetched 0 earlyQuote ++ [.env (.advanceLegacy 20 "provider_cursor_v1" lateQuote)]

/-- The cursor of the legacy runner after some events. -/
def legacyAfter (events : List (Event Choice Job Happening)) : Option (Option String) :=
  ((World.initial quoteControl).run (controlPlane quoteDeployment) events).bind fun world =>
    (world.state.database.legacyCursor 20 "provider_cursor_v1").map Cursor.cursorValue

/-- **The page sets the legacy cursor back by a day.** -/
theorem cursor_went_back : legacyAfter overtaken = some (some lateQuote) ∧
    legacyAfter (overtaken ++ proceed 0 1) = some (some earlyQuote) ∧
    notLater (position? quoteRules.reader (some lateQuote))
      (position? quoteRules.reader (some earlyQuote)) = false := by
  decide +kernel

end NewsCollect.Collection
