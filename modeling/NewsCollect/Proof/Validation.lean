/-
**Facts are validated once, and as they are.**

A row of facts is stored in normal form, so that a worker that accepts it leaves its payload as it
is; what it has accepted or refused no transaction takes again. None of this depends on who has
claimed a row: a late worker finds the row validated, waiting, or claimed by somebody else, and
writes the same result.

* `Queued`, `Validated`, `RowSound`: what is known of a row by its status.
* `Good`: this of every row, and that a row has become ready once at most.
* `facts_validated`: the histories.
-/

import NewsCollect.Proof.FixedPoint
import NewsCollect.Proof.Persistence
import NewsCollect.SafeProjection.Worker

namespace NewsCollect.SafeProjection

open Collection Interleaving
open Providers (ProviderFetchResult)

section Rows

variable (library : StandardLibrary)

/-- The facts of a row are the normal form of something. -/
def Queued (row : Projection) : Prop :=
  ∃ facts quality, normalizeAndClassify library row.provider row.operationKey 1 facts =
    .ok (row.factualPayload, quality)

/-- **A ready row**: its facts are their own normal form, with this hash and quality. -/
structure Validated (row : Projection) : Prop where
  facts : ∃ quality, normalizeAndClassify library row.provider row.operationKey
      row.projectionSchemaVersion row.factualPayload = .ok (row.factualPayload, quality) ∧
    row.qualityStatus = quality.status
  hash : canonicalProjectionHash library row.factualPayload = .ok row.projectionHash
  errorless : row.safeErrorCode = none
  processed : row.processedAt.isSome

/-- **What is known of a row**, where so many attempts are allowed. -/
def RowSound (maxAttempts : Nat) (row : Projection) : Prop :=
  row.attemptCount ≤ maxAttempts ∧
    match row.processingStatus with
    | .pending => row.attemptCount = 0 ∧ Queued library row
    | .retry => row.attemptCount < maxAttempts ∧ Queued library row
    | .validating => Queued library row
    | .ready => Validated library row
    | .blocked => True

variable {library} {maxAttempts : Nat} {row : Projection}

/-- A row that waits may be tried once more. -/
theorem RowSound.claimed (sound : RowSound library maxAttempts row) (positive : 1 ≤ maxAttempts)
    {now : Int} (waits : isWaiting now row = true) :
    RowSound library maxAttempts (claimedRow now row) := by
  simp only [isWaiting, decide_eq_true_eq] at waits
  obtain ⟨pending | retried, -⟩ := waits
  · simp only [RowSound, pending] at sound
    exact ⟨by simp only [claimedRow]; omega, sound.2.2⟩
  · simp only [RowSound, retried] at sound
    exact ⟨sound.2.1, sound.2.2⟩

/-- A row whose worker is late is blocked if it may not be tried any more. -/
theorem RowSound.recovered {settings : Settings} {now cutoff : Int}
    (sound : RowSound library settings.maxAttempts row) (stale : isStale cutoff row = true) :
    RowSound library settings.maxAttempts (recoveredRow settings now row) := by
  simp only [isStale, decide_eq_true_eq] at stale
  simp only [RowSound, stale.1] at sound
  unfold recoveredRow
  split
  · exact ⟨sound.1, trivial⟩
  · next few => exact ⟨sound.1, by simp only; omega, sound.2⟩

/-- **What a worker accepts is left as it is.** -/
theorem contractOf_queued {normalized : Object} {quality : ProjectionQuality}
    (queued : Queued library row) (accepted : contractOf library row = .ok (normalized, quality)) :
    normalized = row.factualPayload ∧
      normalizeAndClassify library row.provider row.operationKey row.projectionSchemaVersion
        row.factualPayload = .ok (row.factualPayload, quality) ∧
      canonicalProjectionHash library row.factualPayload = .ok row.projectionHash := by
  obtain ⟨⟨normal, kind⟩, classified, accepted⟩ := bind_eq_ok.1 accepted
  obtain ⟨hash, hashed, accepted⟩ := bind_eq_ok.1 accepted
  obtain ⟨same, accepted⟩ := check_eq_ok.1 accepted
  obtain ⟨rfl, rfl⟩ := Prod.mk.inj (pure_eq_ok.1 accepted)
  obtain ⟨facts, stored, made⟩ := queued
  obtain ⟨form, valid, rest⟩ := bind_eq_ok.1 made
  obtain ⟨rfl, -⟩ := Prod.mk.inj (pure_eq_ok.1 rest)
  obtain ⟨again, revalidated, rest⟩ := bind_eq_ok.1 classified
  obtain ⟨rfl, -⟩ := Prod.mk.inj (pure_eq_ok.1 rest)
  -- What is validated has no marker, so that none of its symbols reads as one.
  obtain ⟨version, clean, -⟩ := validate_cases revalidated
  have settled := (validate_again valid (unspelled_of_markless valid clean)).1
  rw [version] at revalidated
  obtain rfl : row.factualPayload = again := Except.ok.inj (settled.symm.trans revalidated)
  refine ⟨rfl, classified, ?_⟩
  rw [hashed, beq_iff_eq.1 (require_eq_ok.1 same)]

end Rows

/-! ### What storing a page adds -/

/-- A row of facts that has been stored, under an identifier given in between. -/
structure Fresh (library : StandardLibrary) (supply : Supply) (first last : Nat)
    (row : Projection) : Prop where
  pending : row.processingStatus = .pending
  unattempted : row.attemptCount = 0
  queued : Queued library row
  given : ∃ n, first ≤ n ∧ n < last ∧ supply.id n = row.id

/-- **What storing a page does to the facts**: the rows are left, with one more or as they are. -/
inductive Adds (library : StandardLibrary) (db db' : Database) : Prop where
  | none (supply_eq : db'.supply = db.supply) (issued_le : db.issued ≤ db'.issued)
      (rows_eq : db'.projections = db.projections)
  | one (row : Projection) (supply_eq : db'.supply = db.supply)
      (fresh : Fresh library db.supply db.issued db'.issued row)
      (rows_eq : db'.projections = db.projections ++ [row])

section Adds

variable {deployed : Deployment} {context : ItemContext} {db db' : Database}

theorem rawItem_projections {envelope : RawItemEnvelope} {found : Uuid × Bool}
    (ok : rawItem db context envelope = .ok (found, db')) : db'.projections = db.projections := by
  unfold rawItem at ok
  split at ok
  · cases ok
  · split at ok
    · obtain ⟨-, rfl⟩ := Prod.mk.inj (Except.ok.inj ok)
      rfl
    · obtain ⟨-, rfl⟩ := Prod.mk.inj (Except.ok.inj ok)
      rfl

theorem observation_projections {rawItemId observationId : Uuid} {inserted : Bool}
    {observedAt : Int} {hash : String}
    (ok : observation db context rawItemId inserted observedAt hash = .ok (observationId, db')) :
    db'.projections = db.projections := by
  unfold observation at ok
  split at ok
  · split at ok
    · obtain ⟨-, rfl⟩ := Prod.mk.inj (Except.ok.inj ok)
      rfl
    · cases ok
  · obtain ⟨-, rfl⟩ := Prod.mk.inj (Except.ok.inj ok)
    rfl

/-- The facts of an item are in normal form when they are stored. -/
theorem normalized_queued {facts payload : Object} {quality : String}
    (normalized : deployed.rules.normalizeAndClassify context.provider context.operationKey facts =
      .ok (payload, quality)) :
    ∃ kind, normalizeAndClassify deployed.library context.provider context.operationKey 1 facts =
      .ok (payload, kind) := by
  obtain ⟨⟨form, kind⟩, classified, rest⟩ := bind_eq_ok.1 normalized
  obtain ⟨hash, -, rest⟩ := bind_eq_ok.1 rest
  obtain ⟨rfl, -⟩ := Prod.mk.inj (pure_eq_ok.1 rest)
  exact ⟨kind, classified⟩

theorem persistItem_adds {state next : Database × DownstreamCounts}
    {entry : RawItemEnvelope × Object}
    (ok : persistItem deployed.rules context state entry = .ok next) :
    Adds deployed.library state.1 next.1 := by
  obtain ⟨facts, -, ok⟩ := bind_eq_ok.1 ok
  obtain ⟨⟨payload, quality⟩, normalized, ok⟩ := bind_eq_ok.1 ok
  obtain ⟨⟨⟨rawItemId, inserted⟩, first⟩, stored, ok⟩ := bind_eq_ok.1 ok
  obtain ⟨⟨observationId, second⟩, observed, ok⟩ := bind_eq_ok.1 ok
  obtain ⟨third, projected, ok⟩ := bind_eq_ok.1 ok
  obtain rfl := pure_eq_ok.1 ok
  have grows := (rawItem_extends stored).trans (observation_extends observed)
  have rows : second.projections = state.1.projections :=
    (observation_projections observed).trans (rawItem_projections stored)
  unfold projection at projected
  split at projected
  · cases projected
  · split at projected
    · split at projected
      · obtain rfl := Except.ok.inj projected
        exact .none grows.supply_eq grows.issued_le rows
      · cases projected
    · obtain rfl := Except.ok.inj projected
      obtain ⟨kind, classified⟩ := normalized_queued normalized
      refine .one _ grows.supply_eq ⟨rfl, rfl, ⟨facts, kind, classified⟩, second.issued,
        grows.issued_le, Nat.lt_succ_self _, ?_⟩ (congrArg (· ++ _) rows)
      rw [← grows.supply_eq]
      rfl

/-- What every item preserves, a page preserves. -/
theorem persistFetchResult_preserves {holds : Database → Prop} {result : ProviderFetchResult}
    {counts : DownstreamCounts}
    (kept : ∀ before after, Adds deployed.library before after → holds before → holds after)
    (ok : persistFetchResult deployed.rules db context result = .ok (counts, db'))
    (initially : holds db) : holds db' := by
  obtain ⟨-, ok⟩ := check_eq_ok.1 ok
  obtain ⟨⟨last, total⟩, ran, ok⟩ := bind_eq_ok.1 ok
  obtain ⟨-, rfl⟩ := Prod.mk.inj (pure_eq_ok.1 ok)
  let held (state : Database × DownstreamCounts) : Prop := holds state.1
  suffices last : held (last, total) from last
  exact foldlM_preserves
    (fun _ _ _ _ stepped before => kept _ _ (persistItem_adds stepped) before) ran initially

end Adds

/-! ### What is known of the rows -/

/-- A row that has been accepted or refused. -/
def IsOver (row : Projection) : Prop :=
  row.processingStatus = .ready ∨ row.processingStatus = .blocked

/-- What is known of the rows of facts. -/
structure RowsSound (library : StandardLibrary) (maxAttempts : Nat) (db : Database) : Prop where
  rows : ∀ row ∈ db.projections, RowSound library maxAttempts row
  distinct : (db.projections.map Projection.id).Nodup
  given : ∀ row ∈ db.projections, Given db.supply db.issued row.id

/-- What was over is as it was. -/
def KeepsOver (db db' : Database) : Prop :=
  ∀ id row, Table.find Projection.id db.projections id = some row → IsOver row →
    Table.find Projection.id db'.projections id = some row

section Kept

variable {library : StandardLibrary} {maxAttempts : Nat} {db db' : Database}

theorem KeepsOver.trans {db'' : Database} (first : KeepsOver db db') (second : KeepsOver db' db'') :
    KeepsOver db db'' :=
  fun id row found concluded => second id row (first id row found concluded) concluded

theorem RowsSound.adds (sound : RowsSound library maxAttempts db) (adds : Adds library db db') :
    RowsSound library maxAttempts db' ∧ KeepsOver db db' := by
  cases adds with
  | none supply_eq issued_le rows_eq =>
      refine ⟨⟨rows_eq ▸ sound.rows, rows_eq ▸ sound.distinct, ?_⟩, fun _ _ found _ => rows_eq ▸ found⟩
      rw [rows_eq, supply_eq]
      exact fun row member => (sound.given row member).mono issued_le
  | one row supply_eq fresh rows_eq =>
      obtain ⟨n, after, before, named⟩ := fresh.given
      have unused : Table.find Projection.id db.projections row.id = none := by
        refine (Table.find_eq_none _).2 fun other member same => ?_
        obtain ⟨m, below, named'⟩ := sound.given other member
        have := db.supply.injective (named'.trans (same.trans named.symm))
        omega
      refine ⟨⟨?_, ?_, ?_⟩, fun id other found _ => ?_⟩
      · rw [rows_eq]
        intro other member
        obtain old | new := List.mem_append.1 member
        · exact sound.rows other old
        · obtain rfl := List.mem_singleton.1 new
          refine ⟨fresh.unattempted ▸ Nat.zero_le _, ?_⟩
          simp only [fresh.pending]
          exact ⟨fresh.unattempted, fresh.queued⟩
      · rw [rows_eq]
        exact Table.nodup_append _ sound.distinct unused
      · rw [rows_eq, supply_eq]
        intro other member
        obtain old | new := List.mem_append.1 member
        · exact (sound.given other old).mono (by omega)
        · obtain rfl := List.mem_singleton.1 new
          exact ⟨n, before, named⟩
      · rw [rows_eq]
        exact Table.find_append_of_some found

/-- **Writing rows that are not over**, each as a transaction may. -/
theorem RowsSound.rewritten (sound : RowsSound library maxAttempts db)
    {change : Projection → Projection} (keeps : ∀ row, (change row).id = row.id)
    (kept : ∀ row ∈ db.projections, RowSound library maxAttempts (change row))
    (idle : ∀ row ∈ db.projections, IsOver row → change row = row) :
    RowsSound library maxAttempts { db with projections := db.projections.map change } ∧
      KeepsOver db { db with projections := db.projections.map change } := by
  refine ⟨⟨?_, ?_, ?_⟩, fun id row found concluded => ?_⟩
  · intro row member
    obtain ⟨old, present, rfl⟩ := List.mem_map.1 member
    exact kept old present
  · rw [List.map_map, show Projection.id ∘ change = Projection.id from funext keeps]
    exact sound.distinct
  · intro row member
    obtain ⟨old, present, rfl⟩ := List.mem_map.1 member
    rw [keeps]
    exact sound.given old present
  · dsimp only
    rw [Table.find_map keeps, found, Option.map_some,
      idle row (Table.mem_of_find _ found) concluded]

end Kept

/-! ### The transactions -/

section Transactions

variable {deployed : Deployment} {state state' : Validation}

/-- **What is known of the tables and the history.** -/
structure Good (deployed : Deployment) (state : Validation) : Prop where
  sound : RowsSound deployed.library deployed.settings.maxAttempts state.database
  readied : ∀ id, state.readied.count id = 0 ∨
    state.readied.count id = 1 ∧ ∃ row, state.projection id = some row ∧
      row.processingStatus = .ready

/-- A step that keeps what is over, and notes nothing. -/
theorem Good.keep (good : Good deployed state)
    (kept : RowsSound deployed.library deployed.settings.maxAttempts state'.database ∧
      KeepsOver state.database state'.database) (same : state'.readied = state.readied) :
    Good deployed state' := by
  refine ⟨kept.1, fun id => ?_⟩
  rw [same]
  exact (good.readied id).imp_right fun ⟨once, row, found, ready⟩ =>
    ⟨once, row, kept.2 id row found (.inl ready), ready⟩

theorem recoveredRow_id (settings : Settings) (now : Int) (row : Projection) :
    (recoveredRow settings now row).id = row.id := by
  unfold recoveredRow
  split <;> rfl

theorem not_isOver_of_isStale {cutoff : Int} {row : Projection}
    (stale : isStale cutoff row = true) : ¬IsOver row := by
  simp only [isStale, decide_eq_true_eq] at stale
  simp [IsOver, stale.1]

theorem not_isOver_of_isWaiting {now : Int} {row : Projection}
    (waits : isWaiting now row = true) : ¬IsOver row := by
  simp only [isWaiting, decide_eq_true_eq] at waits
  obtain ⟨pending | retried, -⟩ := waits
  · simp [IsOver, pending]
  · simp [IsOver, retried]

/-- **A transaction that takes rows which are not over**, and writes each as it may. -/
theorem RowsSound.taken {db : Database} {library : StandardLibrary} {maxAttempts limit : Nat}
    (sound : RowsSound library maxAttempts db) {wanted : Projection → Bool}
    {order : Projection → Projection → Bool} {locked : List Uuid}
    {change : Projection → Projection} (keeps : ∀ row, (change row).id = row.id)
    (kept : ∀ row, RowSound library maxAttempts row → wanted row = true →
      RowSound library maxAttempts (change row))
    (wants : ∀ row, wanted row = true → ¬IsOver row) :
    let rows := Table.modifyEach Projection.id db.projections
      ((Table.pick Projection.id wanted order limit locked db.projections).map Projection.id) change
    RowsSound library maxAttempts { db with projections := rows } ∧
      KeepsOver db { db with projections := rows } := by
  refine sound.rewritten ?_ ?_ ?_
  · intro row
    split
    · exact keeps row
    · rfl
  · intro row member
    split
    · next taken =>
      exact kept row (sound.rows row member)
        (Table.wanted_of_mem_pick sound.distinct member taken)
    · exact sound.rows row member
  · intro row member concluded
    rw [if_neg]
    intro taken
    exact wants row (Table.wanted_of_mem_pick sound.distinct member taken) concluded

theorem RowsSound.recoverStale {db : Database} {library : StandardLibrary} {settings : Settings}
    (sound : RowsSound library settings.maxAttempts db) (now : Int) (limit : Nat)
    (locked : List Uuid) :
    let rows := (recoverStale settings db.projections now limit locked).2
    RowsSound library settings.maxAttempts { db with projections := rows } ∧
      KeepsOver db { db with projections := rows } :=
  sound.taken (recoveredRow_id settings now) (fun _ sound stale => sound.recovered stale)
    (fun _ stale => not_isOver_of_isStale stale)

theorem RowsSound.claim {db : Database} {library : StandardLibrary} {maxAttempts : Nat}
    (sound : RowsSound library maxAttempts db) (positive : 1 ≤ maxAttempts) (limit : Nat)
    (now : Int) (locked : List Uuid) :
    let rows := (claim db.projections limit now locked).2
    RowsSound library maxAttempts { db with projections := rows } ∧
      KeepsOver db { db with projections := rows } :=
  sound.taken (fun _ => rfl) (fun _ sound waits => sound.claimed positive waits)
    (fun _ waits => not_isOver_of_isWaiting waits)

/-- A transaction that writes one row which is not over. -/
theorem RowsSound.written {db : Database} {library : StandardLibrary} {maxAttempts : Nat}
    (sound : RowsSound library maxAttempts db) {id : Uuid} {row : Projection}
    (found : Table.find Projection.id db.projections id = some row) (open' : ¬IsOver row)
    {change : Projection → Projection} (keeps : ∀ row, (change row).id = row.id)
    (kept : RowSound library maxAttempts (change row)) :
    RowsSound library maxAttempts
        { db with projections := Table.modify Projection.id db.projections id change } ∧
      KeepsOver db
        { db with projections := Table.modify Projection.id db.projections id change } := by
  have only : ∀ other ∈ db.projections, other.id = id → other = row := by
    intro other member same
    have again := Table.find_of_mem _ sound.distinct member
    rw [same] at again
    exact Option.some.inj (again.symm.trans found)
  refine sound.rewritten ?_ ?_ ?_
  · intro other
    split
    · exact keeps other
    · rfl
  · intro other member
    split
    · next same => exact only other member same ▸ kept
    · exact sound.rows other member
  · intro other member concluded
    rw [if_neg]
    intro same
    exact open' (only other member same ▸ concluded)

/-- **Validating a row**: it is over afterwards, and it has become ready if it says so. -/
theorem validateOne_kept {db : Database} {library : StandardLibrary} {maxAttempts : Nat} {id : Uuid}
    {now : Int} {ready : Bool} {rows : List Projection}
    (sound : RowsSound library maxAttempts db)
    (ok : validateOne library db.projections id now = .ok (ready, rows)) :
    (RowsSound library maxAttempts { db with projections := rows } ∧
        KeepsOver db { db with projections := rows }) ∧
      (ready = true → ∃ row row', Table.find Projection.id db.projections id = some row ∧
        row.processingStatus = .validating ∧ Table.find Projection.id rows id = some row' ∧
        row'.processingStatus = .ready) := by
  unfold validateOne at ok
  split at ok
  · obtain ⟨rfl, rfl⟩ := Prod.mk.inj (Except.ok.inj ok)
    exact ⟨⟨sound, fun _ _ found _ => found⟩, fun ready => by cases ready⟩
  · next row found =>
    split at ok
    · obtain ⟨rfl, rfl⟩ := Prod.mk.inj (Except.ok.inj ok)
      exact ⟨⟨sound, fun _ _ found _ => found⟩, fun ready => by cases ready⟩
    · next validating =>
      have status : row.processingStatus = .validating := not_not.1 validating
      have open' : ¬IsOver row := by simp [IsOver, status]
      have known := sound.rows row (Table.mem_of_find _ found)
      simp only [RowSound, status] at known
      split at ok
      · next normalized quality accepted =>
        obtain ⟨rfl, rfl⟩ := Prod.mk.inj (Except.ok.inj ok)
        obtain ⟨rfl, classified, hashed⟩ := contractOf_queued known.2 accepted
        refine ⟨sound.written found open' (fun _ => rfl) ⟨known.1, ?_⟩, fun _ => ?_⟩
        · exact ⟨⟨quality, classified, rfl⟩, hashed, rfl, rfl⟩
        · refine ⟨row, readyRow now row.factualPayload quality row, found, status, ?_, rfl⟩
          exact (Table.find_modify_same (readyRow now row.factualPayload quality) (fun _ => rfl)
            _ _).trans (congrArg (Option.map _) found)
      · next raised _ =>
        split at ok
        · obtain ⟨rfl, rfl⟩ := Prod.mk.inj (Except.ok.inj ok)
          refine ⟨sound.written found open' (fun _ => rfl) ?_,
            fun ready => by cases ready⟩
          exact ⟨known.1, trivial⟩
        · cases ok

/-- **Every move keeps what is known**, and what was over is as it was. -/
theorem good_stepped {phases phases' : Nat → Option Unit}
    {move : Move signature Choice Int Happening} (positive : 1 ≤ deployed.settings.maxAttempts)
    (good : Good deployed state)
    (stepped : (Discipline.free (validations deployed)).Stepped state phases move state' phases') :
    Good deployed state' ∧ KeepsOver state.database state'.database := by
  have idle : Good deployed state ∧ KeepsOver state.database state.database :=
    ⟨good, fun _ _ found _ => found⟩
  cases stepped with
  | work who op choice bound allowed executed =>
      cases op with
      | now =>
          cases choice with
          | proceed =>
              obtain ⟨rfl, rfl⟩ := Prod.mk.inj (Option.some.inj executed)
              exact idle
          | _ => cases executed
      | recoverStale now limit =>
          cases choice with
          | locked locked =>
              obtain ⟨rfl, rfl⟩ := Prod.mk.inj (Option.some.inj executed)
              have kept := good.sound.recoverStale now limit locked
              exact ⟨good.keep kept rfl, kept.2⟩
          | fault =>
              obtain ⟨rfl, rfl⟩ := Prod.mk.inj (Option.some.inj executed)
              exact idle
          | _ => cases executed
      | claim limit now =>
          cases choice with
          | locked locked =>
              obtain ⟨rfl, rfl⟩ := Prod.mk.inj (Option.some.inj executed)
              have kept := good.sound.claim positive limit now locked
              exact ⟨good.keep kept rfl, kept.2⟩
          | fault =>
              obtain ⟨rfl, rfl⟩ := Prod.mk.inj (Option.some.inj executed)
              exact idle
          | _ => cases executed
      | validateOne id now =>
          cases choice with
          | proceed =>
              simp only [validations, exec] at executed
              split at executed
              · next ready rows ok =>
                obtain ⟨rfl, rfl⟩ := Prod.mk.inj (Option.some.inj executed)
                obtain ⟨kept, readies⟩ := validateOne_kept good.sound ok
                refine ⟨⟨kept.1, fun other => ?_⟩, kept.2⟩
                have before := good.readied other
                have still : state.readied.count other = 0 ∨ state.readied.count other = 1 ∧
                    ∃ row, Table.find Projection.id rows other = some row ∧
                      row.processingStatus = .ready := by
                  rcases before with none | ⟨once, row, found, ready⟩
                  · exact .inl none
                  · exact .inr ⟨once, row, kept.2 other row found (.inl ready), ready⟩
                cases ready with
                | false => exact still
                | true =>
                    by_cases same : other = id
                    · subst same
                      obtain ⟨row, row', found, validating, found', ready⟩ := readies rfl
                      obtain none | ⟨-, row'', found'', ready'⟩ := before
                      · exact .inr ⟨by simp [none], row', found', ready⟩
                      · obtain rfl := Option.some.inj (found.symm.trans found'')
                        exact absurd (validating.symm.trans ready') (by decide)
                    · have count : (state.readied ++ [id]).count other = state.readied.count other := by
                        simp [Ne.symm same]
                      simp only [if_true, count]
                      exact still
              · obtain ⟨rfl, rfl⟩ := Prod.mk.inj (Option.some.inj executed)
                exact idle
          | fault =>
              obtain ⟨rfl, rfl⟩ := Prod.mk.inj (Option.some.inj executed)
              exact idle
          | _ => cases executed
  | crash who bound => exact idle
  | start who job free accepted =>
      obtain rfl := Option.some.inj accepted
      exact idle
  | env action acted =>
      cases action with
      | tick elapsed =>
          obtain rfl := Option.some.inj acted
          exact ⟨good.keep ⟨good.sound, fun _ _ found _ => found⟩ rfl, fun _ _ found _ => found⟩
      | persist context result =>
          simp only [validations, happen] at acted
          split at acted
          · next counts db ok =>
            obtain rfl := Option.some.inj acted
            let holds (db : Database) : Prop :=
              RowsSound deployed.library deployed.settings.maxAttempts db ∧
                KeepsOver state.database db
            have initially : holds state.database := ⟨good.sound, fun _ _ found _ => found⟩
            have added (before after : Database) (adds : Adds deployed.library before after)
                (kept : holds before) : holds after :=
              ⟨(kept.1.adds adds).1, kept.2.trans (kept.1.adds adds).2⟩
            have kept : holds db := persistFetchResult_preserves added ok initially
            exact ⟨good.keep kept rfl, kept.2⟩
          · obtain rfl := Option.some.inj acted
            exact idle

end Transactions

/-! ### Histories -/

/-- **The validation of facts**, in every history: a row is tried `maxAttempts` times at most and
becomes ready once at most; a row that is ready is its own normal form, with its hash and its
quality; and what is ready or blocked stays as it is. -/
theorem facts_validated {deployed : Deployment} {state : Validation}
    {world : World signature (Result ProjectionValidationReport) Validation Int}
    (positive : 1 ≤ deployed.settings.maxAttempts)
    (empty : state.database.projections = []) (fresh : state.readied = [])
    (reached : (Discipline.free (validations deployed)).Reaches (Discipline.anyMove _)
      (.initial state) world) :
    (∀ row ∈ world.state.database.projections,
      row.attemptCount ≤ deployed.settings.maxAttempts ∧
        (row.processingStatus = .ready → Validated deployed.library row)) ∧
      (∀ id, world.state.readied.count id ≤ 1) ∧
      ∀ id row later, world.state.projection id = some row →
        row.processingStatus = .ready ∨ row.processingStatus = .blocked →
        (Discipline.free (validations deployed)).Reaches (Discipline.anyMove _) world later →
        later.state.projection id = some row := by
  have start := Discipline.adherent_initial (Discipline.free (validations deployed)) state
  have initially : Good deployed state :=
    ⟨⟨by simp [empty], by simp [empty], by simp [empty]⟩, fun id => .inl (by simp [fresh])⟩
  have good : Good deployed world.state := reached.invariant _
    (fun _ _ _ _ _ stepped _ good => (good_stepped positive good stepped).1) start initially
  refine ⟨fun row member => ?_, fun id => ?_, fun id row later found concluded follows => ?_⟩
  · have known := good.sound.rows row member
    refine ⟨known.1, fun ready => ?_⟩
    simp only [RowSound, ready] at known
    exact known.2
  · obtain none | ⟨once, -⟩ := good.readied id
    · exact none ▸ Nat.zero_le 1
    · exact once.le
  · have still (state state' : Validation) (phases phases' : Nat → Option Unit)
        (move : Move signature Choice Int Happening)
        (stepped : (Discipline.free (validations deployed)).Stepped state phases move state' phases')
        (kept : Good deployed state ∧ state.projection id = some row) :
        Good deployed state' ∧ state'.projection id = some row :=
      ⟨(good_stepped positive kept.1 stepped).1,
        (good_stepped positive kept.1 stepped).2 id row kept.2 concluded⟩
    exact (follows.invariant _
      (fun state phases move state' phases' stepped _ kept =>
        still state state' phases phases' move stepped kept)
      (reached.adherent _ start) ⟨good, found⟩).2

/-- Three attempts, and ten minutes. -/
def newsDeployment : Deployment := ⟨silentLibrary, quoteRules.reader, fun _ => "", ⟨3, 600000000⟩⟩

/-- A page with one item of company news. -/
def onePage : ProviderFetchResult :=
  ⟨⟨[namedItem "company-news:1"], [[]], none, false, [], "finnhub", 2, [], [newsItem "msft"], none,
    [], false⟩, rfl, .inl rfl, .inr rfl⟩

def noFacts : Validation := ⟨quoteTables, 0, []⟩

/-- The page is stored, and a worker validates its item. -/
def oneBatch : List (Event Choice Int Happening) :=
  [.env (.persist newsContext onePage), .start 100, .work 0 .proceed, .work 0 (.locked []),
    .work 0 (.locked []), .work 0 .proceed]

/-- The item is ready, as it was stored. -/
theorem facts_validated_msft : ∃ row : Projection, row.factualPayload = newsItem "MSFT" ∧
    row.processingStatus = .ready ∧ Validated silentLibrary row := by
  have ran : ((World.initial noFacts).run (validations newsDeployment) oneBatch).bind
      (fun world => world.state.database.projections.head?.map fun row =>
        (row.factualPayload == newsItem "MSFT", row.processingStatus)) = some (true, .ready) := by
    decide +kernel
  obtain ⟨world, reached, about⟩ := Option.bind_eq_some_iff.1 ran
  obtain ⟨row, first, told⟩ := Option.map_eq_some_iff.1 about
  obtain ⟨facts, ready⟩ := Prod.mk.inj told
  have reaches : (Discipline.free (validations newsDeployment)).Reaches (Discipline.anyMove _)
      (.initial noFacts) world := .of_run _ (.refl _) reached
  have known := (facts_validated (by decide) rfl rfl reaches).1 row
    (List.mem_of_mem_head? (Option.mem_def.2 first))
  exact ⟨row, by simpa using facts, ready, known.2 ready⟩

end NewsCollect.SafeProjection
