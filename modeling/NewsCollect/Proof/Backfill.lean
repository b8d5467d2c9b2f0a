/-
**What was collected before there were targets is owned, once and for all.**

A run of the service raises and leaves the tables as they were, or gives every account of a source,
and every source without one, the target of its key, and every run and cursor an owner. What had an
owner keeps it, and the targets that were there stay as they are. The targets are built from what a
run does not change, and are compared by what the clock and the supply of identifiers do not say: so
another run finds each of them, and writes what it counted.

* `LegacyDatabase.Valid`: the keys and the foreign keys of the tables.
* `Standing`: the target of a candidate is there, as it would be built.
* `place_cases`, `standing_of_place`, `standing_kept`: what one candidate does.
* `Backfilled`, `run_backfills`: what a run leaves behind.
-/

import NewsCollect.Collection.Phase2Migration
import NewsCollect.Library.Unordered

namespace NewsCollect.Collection

/-! ### Tables -/

/-- The keys of the targets, and the foreign key to their accounts. -/
structure TargetsValid (accounts : List LegacyAccount) (targets : List LegacyTarget) : Prop where
  ids : (targets.map fun target => target.id).Nodup
  keys : (targets.map fun target => target.targetKey).Nodup
  accounts : ∀ target ∈ targets, ∀ accountId, target.sourceAccountId = some accountId →
    ∃ account ∈ accounts, account.id = accountId ∧ account.sourceId = target.sourceId

/-- **The keys and the foreign keys of the tables.** -/
structure LegacyDatabase.Valid (db : LegacyDatabase) : Prop where
  accountIds : (db.accounts.map fun account => account.id).Nodup
  targets : TargetsValid db.accounts db.targets
  runTargets : ∀ run ∈ db.runs, ∀ targetId, run.targetId = some targetId →
    ∃ target ∈ db.targets, target.id = targetId
  cursorTargets : ∀ cursor ∈ db.cursors, ∀ targetId, cursor.targetId = some targetId →
    ∃ target ∈ db.targets, target.id = targetId

/-- The source and one of its accounts, or the source where it has none. -/
def LegacyDatabase.IsPair (db : LegacyDatabase) (source : LegacySource) :
    Option LegacyAccount → Prop
  | some account => source ∈ db.sources ∧ account ∈ db.accounts ∧ account.sourceId = source.id
  | none => source ∈ db.sources ∧ ∀ account ∈ db.accounts, account.sourceId ≠ source.id

theorem mem_accountsOf {accounts : List LegacyAccount} {source : LegacySource}
    {account : Option LegacyAccount} :
    account ∈ accountsOf accounts source ↔
      match account with
      | some account => account ∈ accounts ∧ account.sourceId = source.id
      | none => ∀ account ∈ accounts, account.sourceId ≠ source.id := by
  rw [accountsOf]
  by_cases none : ∀ account ∈ accounts, account.sourceId ≠ source.id
  · rw [if_pos (by simpa using none)]
    cases account with
    | none => simpa using none
    | some account => simpa using none account
  · rw [if_neg (by simpa using none)]
    cases account with
    | none => simpa using none
    | some account => simp

/-- The pairs are every account of a source, and every source without one. -/
theorem mem_pairs {db : LegacyDatabase} {source : LegacySource} {account : Option LegacyAccount} :
    (source, account) ∈ pairs db ↔ db.IsPair source account := by
  simp only [pairs, List.mem_flatMap, List.mem_map, Prod.mk.injEq, List.mem_insertionSort]
  constructor
  · rintro ⟨_, member, held, owned, rfl, rfl⟩
    rw [mem_accountsOf] at owned
    cases held with
    | none => exact ⟨member, by simpa using owned⟩
    | some account => exact ⟨member, by simpa using owned⟩
  · intro pair
    refine ⟨source, ?_, account, ?_, rfl, rfl⟩
    · cases account with
      | none => exact pair.1
      | some account => exact pair.1
    · rw [mem_accountsOf]
      cases account with
      | none => simpa using pair.2
      | some account => simpa using pair.2

/-! ### Candidates -/

/-- The cursors of a candidate are those of its contract, and of an account. -/
structure Candidate.Formed (candidate : Candidate) : Prop where
  contracted : candidate.contract = none → candidate.legacyCursorType = none

/-- A candidate is of its source and its account. -/
theorem candidate_cases {registry : OperationRegistry} {source : LegacySource}
    {account : Option LegacyAccount} {made : Candidate}
    (ok : candidate registry source account = .ok made) :
    made.source = source ∧ made.account = account ∧ made.Formed := by
  unfold candidate at ok
  split at ok
  · obtain rfl := Except.ok.inj ok
    exact ⟨rfl, rfl, ⟨fun _ => rfl⟩⟩
  · split at ok
    · obtain rfl := Except.ok.inj ok
      exact ⟨rfl, rfl, ⟨fun _ => rfl⟩⟩
    · dsimp only at ok
      split at ok
      · obtain rfl := Except.ok.inj ok
        exact ⟨rfl, rfl, ⟨fun none => by cases none⟩⟩
      · split at ok
        · obtain rfl := Except.ok.inj ok
          exact ⟨rfl, rfl, ⟨fun _ => rfl⟩⟩
        · cases ok

/-- The key of the target of a candidate. -/
def Candidate.key (lower : String → String) (candidate : Candidate) : String :=
  targetKey lower candidate.source candidate.account

section Settling

variable {candidates : List Candidate} {targets : List LegacyTarget} {key : String}
  {candidate : Candidate}

/-- A candidate stays what it is, or is blocked. -/
theorem settleIdentity_cases (candidates : List Candidate) (targets : List LegacyTarget)
    (key : String) (candidate : Candidate) :
    settleIdentity candidates targets key candidate = candidate ∨
      settleIdentity candidates targets key candidate =
        { candidate with valid := false, legacyCursorType := none } := by
  unfold settleIdentity
  split
  · split
    · exact .inr rfl
    · exact .inl rfl
  · exact .inl rfl

@[simp] theorem settleIdentity_source :
    (settleIdentity candidates targets key candidate).source = candidate.source := by
  rcases settleIdentity_cases candidates targets key candidate with same | same <;> rw [same]

@[simp] theorem settleIdentity_account :
    (settleIdentity candidates targets key candidate).account = candidate.account := by
  rcases settleIdentity_cases candidates targets key candidate with same | same <;> rw [same]

/-- What a candidate is depends on whether another target has its cursors. -/
theorem settleIdentity_congr {others : List LegacyTarget}
    (same : ∀ account cursorType, candidate.account = some account →
      candidate.legacyCursorType = some cursorType →
      identityCount candidates account.id cursorType = 1 →
      (ownerOf targets account.id cursorType).any (fun owner => owner.targetKey != key) =
        (ownerOf others account.id cursorType).any fun owner => owner.targetKey != key) :
    settleIdentity candidates targets key candidate =
      settleIdentity candidates others key candidate := by
  unfold settleIdentity
  split
  next account cursorType ofAccount ofType =>
    by_cases once : identityCount candidates account.id cursorType = 1
    · rw [same account cursorType ofAccount ofType once]
    · have several : (identityCount candidates account.id cursorType != 1) = true := by
        simpa using once
      rw [several, Bool.true_or, Bool.true_or]
  next => rfl

/-- A candidate that keeps its cursors has them. -/
theorem legacyCursorType_of_settle {cursorType : String}
    (kept : (settleIdentity candidates targets key candidate).legacyCursorType = some cursorType) :
    candidate.legacyCursorType = some cursorType := by
  rcases settleIdentity_cases candidates targets key candidate with same | same
  · rwa [same] at kept
  · rw [same] at kept
    cases kept

theorem Candidate.Formed.settle (formed : candidate.Formed) :
    (settleIdentity candidates targets key candidate).Formed := by
  rcases settleIdentity_cases candidates targets key candidate with same | same
  · rwa [same]
  · rw [same]
    exact ⟨fun _ => rfl⟩

end Settling

/-! ### Targets -/

section Targets

variable {candidate : Candidate} {key : String} {now now' : Int} {id id' : Uuid}
  {actual expected : LegacyTarget}

@[simp] theorem buildTarget_id : (buildTarget candidate key now id).id = id := by
  unfold buildTarget
  split <;> rfl

@[simp] theorem buildTarget_targetKey : (buildTarget candidate key now id).targetKey = key := by
  unfold buildTarget
  split <;> rfl

@[simp] theorem buildTarget_sourceId :
    (buildTarget candidate key now id).sourceId = candidate.source.id := by
  unfold buildTarget
  split <;> rfl

@[simp] theorem buildTarget_sourceAccountId :
    (buildTarget candidate key now id).sourceAccountId =
      candidate.account.map fun account => account.id := by
  unfold buildTarget
  split <;> rfl

theorem buildTarget_legacyCursorType (formed : candidate.Formed) :
    (buildTarget candidate key now id).legacyCursorType = candidate.legacyCursorType := by
  unfold buildTarget
  split
  next none => exact (formed.contracted none).symm
  next => rfl

/-- The clock and the identifier are not compared. -/
theorem isExactTarget_build :
    isExactTarget actual (buildTarget candidate key now id) =
      isExactTarget actual (buildTarget candidate key now' id') := by
  unfold buildTarget
  split <;> rfl

/-- A target is what it was built as. -/
theorem isExactTarget_self
    (stored : isJsonb (buildTarget candidate key now id).operationConfig = true) :
    isExactTarget (buildTarget candidate key now id) (buildTarget candidate key now id) = true := by
  have config := Json.eq_refl _ stored
  unfold buildTarget at config ⊢
  split
  next none =>
    rw [none] at config
    simp [isExactTarget, config]
  next contract some =>
    rw [some] at config
    simp [isExactTarget, config]

/-- A target that is the same has the key, the source and the account. -/
theorem of_isExactTarget (exact : isExactTarget actual expected = true) :
    actual.targetKey = expected.targetKey ∧ actual.sourceId = expected.sourceId ∧
      actual.sourceAccountId = expected.sourceAccountId := by
  simp only [isExactTarget, Bool.and_eq_true, beq_iff_eq] at exact
  exact ⟨by tauto, by tauto, by tauto⟩

end Targets

/-! ### One candidate -/

/-- **The target of a candidate is there**, as it would be built. -/
def Standing (lower : String → String) (candidates : List Candidate) (targets : List LegacyTarget)
    (candidate : Candidate) : Prop :=
  ∃ target, targets.find? (fun target => target.targetKey == candidate.key lower) = some target ∧
    ∀ now id, isExactTarget target (buildTarget
      (settleIdentity candidates targets (candidate.key lower) candidate)
      (candidate.key lower) now id) = true

section Place

variable {service : LegacyTargetPhase2Service} {lower : String → String}
  {candidates : List Candidate} {placed placed' : Placed} {candidate : Candidate}

/-- What placing a candidate does: its target is there and is the same, or it is appended. -/
theorem place_cases (ok : service.place candidates placed candidate = .ok placed') :
    (∃ target,
        placed.targets.find? (fun target => target.targetKey == candidate.key service.lower) =
          some target ∧
        (∀ now id, isExactTarget target (buildTarget
          (settleIdentity candidates placed.targets (candidate.key service.lower) candidate)
          (candidate.key service.lower) now id) = true) ∧
        placed'.targets = placed.targets ∧ placed'.auditLogs = placed.auditLogs) ∨
      ∃ now id,
        let settled :=
          settleIdentity candidates placed.targets (candidate.key service.lower) candidate
        let built := buildTarget settled (candidate.key service.lower) now id
        placed.targets.find? (fun target => target.targetKey == candidate.key service.lower) =
          none ∧
        isJsonb built.operationConfig = true ∧
        (∀ other ∈ placed.targets, targetClashes other built = false) ∧
        placed'.targets = placed.targets ++ [built] ∧
        placed'.auditLogs = placed.auditLogs ++ [createdLog built settled.valid] := by
  unfold LegacyTargetPhase2Service.place at ok
  dsimp only at ok
  split at ok
  next target found =>
    split at ok
    next exact =>
      obtain rfl := Except.ok.inj ok
      refine .inl ⟨target, found, fun now id => ?_, rfl, rfl⟩
      rw [← isExactTarget_build]
      exact exact
    next => cases ok
  next absent =>
    split at ok
    next allowed =>
      obtain rfl := Except.ok.inj ok
      simp only [Bool.and_eq_true, Bool.not_eq_true', List.any_eq_false,
        Bool.not_eq_true] at allowed
      exact .inr ⟨_, _, absent, allowed.1.2, allowed.2, rfl, rfl⟩
    next => cases ok

/-- A candidate whose target is there is placed, and nothing is written. -/
theorem place_of_standing (standing : Standing service.lower candidates placed.targets candidate) :
    ∃ placed', service.place candidates placed candidate = .ok placed' ∧
      placed'.targets = placed.targets ∧ placed'.auditLogs = placed.auditLogs := by
  obtain ⟨target, found, exact⟩ := standing
  rw [Candidate.key] at found exact
  unfold LegacyTargetPhase2Service.place
  dsimp only
  rw [found]
  dsimp only
  rw [if_pos (exact _ _)]
  exact ⟨_, rfl, rfl, rfl⟩

/-- Nothing that is there is changed. -/
theorem placed_isPrefix (ok : service.place candidates placed candidate = .ok placed') :
    placed.targets <+: placed'.targets ∧ placed.auditLogs <+: placed'.auditLogs := by
  rcases place_cases ok with ⟨_, _, _, same, sameLogs⟩ | ⟨now, id, _, _, _, appended, logged⟩
  · rw [same, sameLogs]
    exact ⟨List.prefix_rfl, List.prefix_rfl⟩
  · rw [appended, logged]
    exact ⟨List.prefix_append .., List.prefix_append ..⟩

/-- A target that is created leaves what the other candidates are: the cursors it has are counted
for no other candidate. -/
theorem settleIdentity_append {other : Candidate} {targets : List LegacyTarget} {now : Int}
    {id : Uuid} (formed : other.Formed) (otherMem : other ∈ candidates)
    (member : candidate ∈ candidates) :
    settleIdentity candidates
        (targets ++ [buildTarget (settleIdentity candidates targets (other.key lower) other)
          (other.key lower) now id])
        (candidate.key lower) candidate =
      settleIdentity candidates targets (candidate.key lower) candidate := by
  refine settleIdentity_congr fun account cursorType ofAccount ofType once => ?_
  rw [ownerOf, ownerOf, List.find?_append]
  cases List.find? _ targets with
  | some owner => rfl
  | none =>
      rw [Option.none_or, List.find?_singleton]
      split
      next owns =>
        simp only [buildTarget_sourceAccountId, settleIdentity_account,
          buildTarget_legacyCursorType formed.settle, Bool.and_eq_true, beq_iff_eq] at owns
        have kept := legacyCursorType_of_settle owns.2
        obtain rfl : other = candidate :=
          Unordered.eq_of_countP_eq_one once otherMem member
            (by simp [owns.1, kept]) (by simp [ofAccount, ofType])
        simp
      next => rfl

/-- A target that is there stays as it would be built. -/
theorem standing_kept {other : Candidate} (formed : other.Formed) (otherMem : other ∈ candidates)
    (member : candidate ∈ candidates)
    (ok : service.place candidates placed other = .ok placed')
    (standing : Standing service.lower candidates placed.targets candidate) :
    Standing service.lower candidates placed'.targets candidate := by
  rcases place_cases ok with ⟨_, _, _, same, _⟩ | ⟨now, id, _, _, _, appended, _⟩
  · rwa [same]
  · obtain ⟨target, found, exact⟩ := standing
    rw [appended]
    refine ⟨target, ?_, ?_⟩
    · rw [List.find?_append, found, Option.some_or]
    · rw [settleIdentity_append formed otherMem member]
      exact exact

/-- A candidate that was placed has its target. -/
theorem standing_of_place (formed : candidate.Formed) (member : candidate ∈ candidates)
    (ok : service.place candidates placed candidate = .ok placed') :
    Standing service.lower candidates placed'.targets candidate := by
  rcases place_cases ok with ⟨target, found, exact, same, _⟩ |
    ⟨now, id, absent, stored, _, appended, _⟩
  · rw [same]
    exact ⟨target, found, exact⟩
  · rw [appended]
    refine ⟨_, by rw [List.find?_append, absent, Option.none_or, List.find?_singleton,
      if_pos (by simp)], fun now' id' => ?_⟩
    rw [settleIdentity_append formed member member, ← isExactTarget_build]
    exact isExactTarget_self stored

/-- The account of a candidate is of its source. -/
def Candidate.Owned (accounts : List LegacyAccount) (candidate : Candidate) : Prop :=
  ∀ account, candidate.account = some account →
    account ∈ accounts ∧ account.sourceId = candidate.source.id

/-- A target that is created keeps the keys and the foreign key. -/
theorem TargetsValid.place {accounts : List LegacyAccount}
    (valid : TargetsValid accounts placed.targets) (owned : candidate.Owned accounts)
    (ok : service.place candidates placed candidate = .ok placed') :
    TargetsValid accounts placed'.targets := by
  rcases place_cases ok with ⟨_, _, _, same, _⟩ | ⟨now, id, _, _, apart, appended, _⟩
  · rwa [same]
  · rw [appended]
    simp only [targetClashes, Bool.or_eq_false_iff, beq_eq_false_iff_ne] at apart
    refine ⟨?_, ?_, ?_⟩
    · exact Table.nodup_append _ valid.ids
        ((Table.find_eq_none _).2 fun other member => (apart other member).1.1)
    · exact Table.nodup_append _ valid.keys
        ((Table.find_eq_none _).2 fun other member => (apart other member).1.2)
    · intro target member accountId ofAccount
      rcases List.mem_append.1 member with old | new
      · exact valid.accounts target old accountId ofAccount
      · obtain rfl := List.mem_singleton.1 new
        rw [buildTarget_sourceAccountId, settleIdentity_account, Option.map_eq_some_iff] at ofAccount
        obtain ⟨account, same, rfl⟩ := ofAccount
        refine ⟨account, (owned account same).1, rfl, ?_⟩
        rw [buildTarget_sourceId, settleIdentity_source]
        exact (owned account same).2

end Place

/-! ### All candidates -/

section Loop

variable {service : LegacyTargetPhase2Service} {candidates items : List Candidate}
  {placed placed' : Placed}

theorem loop_isPrefix (ran : items.foldlM (service.place candidates) placed = .ok placed') :
    placed.targets <+: placed'.targets ∧ placed.auditLogs <+: placed'.auditLogs := by
  refine @foldlM_preserves _ _ _ _ (fun state => placed.targets <+: state.targets ∧
    placed.auditLogs <+: state.auditLogs) _ ?_ _ _ ran ⟨List.prefix_rfl, List.prefix_rfl⟩
  rintro state candidate _ next ok ⟨targets, logs⟩
  obtain ⟨more, moreLogs⟩ := placed_isPrefix ok
  exact ⟨targets.trans more, logs.trans moreLogs⟩

theorem TargetsValid.loop {accounts : List LegacyAccount}
    (valid : TargetsValid accounts placed.targets)
    (owned : ∀ candidate ∈ items, candidate.Owned accounts)
    (ran : items.foldlM (service.place candidates) placed = .ok placed') :
    TargetsValid accounts placed'.targets := by
  refine @foldlM_preserves _ _ _ _ (fun state => TargetsValid accounts state.targets) _ ?_ _ _ ran
    valid
  intro state candidate member next ok valid
  exact valid.place (owned candidate member) ok

/-- **After the loop every candidate has its target.** -/
theorem standing_of_loop (formed : ∀ candidate ∈ candidates, candidate.Formed)
    (inside : ∀ candidate ∈ items, candidate ∈ candidates)
    (ran : items.foldlM (service.place candidates) placed = .ok placed') :
    ∀ candidate ∈ items, Standing service.lower candidates placed'.targets candidate := by
  induction items generalizing placed with
  | nil => simp
  | cons first items ih =>
      obtain ⟨next, stepped, rest⟩ := bind_eq_ok.1 ran
      have here := inside first List.mem_cons_self
      intro candidate member
      rcases List.mem_cons.1 member with rfl | later
      · refine @foldlM_preserves _ _ _ _
          (fun state => Standing service.lower candidates state.targets candidate) _ ?_ _ _ rest
          (standing_of_place (formed candidate here) here stepped)
        intro state other otherMem next ok standing
        have present := inside other (.tail _ otherMem)
        exact standing_kept (formed other present) present here ok standing
      · exact ih (fun other member => inside other (.tail _ member)) rest candidate later

/-- A loop through candidates that have their targets writes nothing. -/
theorem loop_of_standing (service : LegacyTargetPhase2Service) (placed : Placed)
    (standing : ∀ candidate ∈ items, Standing service.lower candidates placed.targets candidate) :
    ∃ placed', items.foldlM (service.place candidates) placed = .ok placed' ∧
      placed'.targets = placed.targets ∧ placed'.auditLogs = placed.auditLogs := by
  induction items generalizing placed with
  | nil => exact ⟨placed, rfl, rfl, rfl⟩
  | cons first items ih =>
      obtain ⟨next, stepped, targets, logs⟩ := place_of_standing (standing first List.mem_cons_self)
      obtain ⟨last, ran, sameTargets, sameLogs⟩ := ih next fun candidate member => by
        rw [targets]
        exact standing candidate (.tail _ member)
      exact ⟨last, bind_eq_ok.2 ⟨next, stepped, ran⟩, sameTargets.trans targets,
        sameLogs.trans logs⟩

end Loop

/-! ### Rows -/

section Rows

variable {targets : List LegacyTarget} {run : Run} {cursor : Cursor} {runs : List Run}
  {cursors : List Cursor}

/-- What adopting a run does: nothing, or a run without a target gets one it belongs to. -/
theorem adoptRun_cases (targets : List LegacyTarget) (run : Run) :
    adoptRun targets run = run ∨
      run.targetId = none ∧ ∃ target ∈ targets, runBelongs run target = true ∧
        adoptRun targets run = { run with targetId := some target.id } := by
  unfold adoptRun
  split
  next target free found =>
    exact .inr ⟨free, target, List.mem_of_find?_eq_some found, List.find?_some found, rfl⟩
  next => exact .inl rfl

theorem adoptCursor_cases (targets : List LegacyTarget) (cursor : Cursor) :
    adoptCursor targets cursor = cursor ∨
      cursor.targetId = none ∧ ∃ target ∈ targets, cursorBelongs cursor target = true ∧
        adoptCursor targets cursor = { cursor with targetId := some target.id } := by
  unfold adoptCursor
  split
  next target free found =>
    exact .inr ⟨free, target, List.mem_of_find?_eq_some found, List.find?_some found, rfl⟩
  next => exact .inl rfl

theorem adoptRun_of_isSome (owned : run.targetId.isSome = true) : adoptRun targets run = run := by
  rcases adoptRun_cases targets run with same | ⟨free, _⟩
  · exact same
  · rw [free] at owned
    cases owned

theorem adoptCursor_of_isSome (owned : cursor.targetId.isSome = true) :
    adoptCursor targets cursor = cursor := by
  rcases adoptCursor_cases targets cursor with same | ⟨free, _⟩
  · exact same
  · rw [free] at owned
    cases owned

@[simp] theorem adoptRun_id : (adoptRun targets run).id = run.id := by
  rcases adoptRun_cases targets run with same | ⟨_, _, _, _, same⟩ <;> rw [same]

@[simp] theorem adoptRun_sourceId : (adoptRun targets run).sourceId = run.sourceId := by
  rcases adoptRun_cases targets run with same | ⟨_, _, _, _, same⟩ <;> rw [same]

@[simp] theorem adoptRun_sourceAccountId :
    (adoptRun targets run).sourceAccountId = run.sourceAccountId := by
  rcases adoptRun_cases targets run with same | ⟨_, _, _, _, same⟩ <;> rw [same]

@[simp] theorem adoptCursor_sourceAccountId :
    (adoptCursor targets cursor).sourceAccountId = cursor.sourceAccountId := by
  rcases adoptCursor_cases targets cursor with
    same | ⟨_, _, _, _, same⟩ <;> rw [same]

theorem unmappedRuns_eq_zero :
    unmappedRuns runs = 0 ↔ ∀ run ∈ runs, run.targetId.isSome = true := by
  simp [unmappedRuns, List.countP_eq_zero, Option.isSome_iff_ne_none]

theorem unmappedCursors_eq_zero :
    unmappedCursors cursors = 0 ↔ ∀ cursor ∈ cursors, cursor.targetId.isSome = true := by
  simp [unmappedCursors, List.countP_eq_zero, Option.isSome_iff_ne_none]

/-- Nothing is owned by a target of another source or account. -/
theorem targetOwnedMismatchCount_eq_zero :
    targetOwnedMismatchCount targets runs cursors = 0 ↔
      (∀ run ∈ runs, ∀ target ∈ targets, run.targetId = some target.id →
        run.sourceId = target.sourceId ∧ run.sourceAccountId = target.sourceAccountId) ∧
      ∀ cursor ∈ cursors, ∀ target ∈ targets, cursor.targetId = some target.id →
        target.sourceAccountId = some cursor.sourceAccountId := by
  simp only [targetOwnedMismatchCount, Nat.add_eq_zero_iff, List.countP_eq_zero,
    Bool.not_eq_true, List.any_eq_false, runStrays, cursorStrays]
  refine and_congr ?_ ?_
  · refine forall₂_congr fun run _ => forall₂_congr fun target _ => ?_
    by_cases owner : run.targetId = some target.id <;> simp [owner]
  · refine forall₂_congr fun cursor _ => forall₂_congr fun target _ => ?_
    by_cases owner : cursor.targetId = some target.id
    · simpa [owner] using eq_comm
    · simp [owner]

end Rows

/-! ### The transaction -/

section Transaction

variable {service : LegacyTargetPhase2Service} {db db' : LegacyDatabase}
  {candidates : List Candidate} {placed : Placed} {report : Phase2Report}

@[simp] theorem assure_eq_ok {condition : Bool} {code : String} {u : Unit} :
    assure condition code = .ok u ↔ condition = true := by
  cases condition <;> simp [assure]

/-- The tables after the rows without a target got theirs. -/
def LegacyDatabase.backfilled (db : LegacyDatabase) (placed : Placed) (report : Phase2Report) :
    LegacyDatabase :=
  { db with
    targets := placed.targets
    runs := db.runs.map (adoptRun placed.targets)
    cursors := db.cursors.map (adoptCursor placed.targets)
    auditLogs := placed.auditLogs ++ [reconciliationLog report] }

/-- What the rows got is what the tables hold, and nothing was left. -/
theorem backfill_cases (ok : service.backfill db candidates placed = .ok (report, db')) :
    db' = db.backfilled placed report ∧
      (∀ run ∈ db'.runs, run.targetId.isSome = true) ∧
      (∀ cursor ∈ db'.cursors, cursor.targetId.isSome = true) ∧
      targetOwnedMismatchCount db'.targets db'.runs db'.cursors = 0 := by
  unfold LegacyTargetPhase2Service.backfill at ok
  obtain ⟨-, ok⟩ := check_eq_ok.1 ok
  dsimp only at ok
  split at ok
  next => cases ok
  next =>
    obtain ⟨counted, ok⟩ := check_eq_ok.1 ok
    obtain ⟨rfl, rfl⟩ := Prod.mk.inj (pure_eq_ok.1 ok)
    simp only [assure_eq_ok, Bool.and_eq_true, beq_iff_eq] at counted
    obtain ⟨⟨⟨_, runsLeft⟩, cursorsLeft⟩, mismatched⟩ := counted
    exact ⟨rfl, unmappedRuns_eq_zero.1 runsLeft, unmappedCursors_eq_zero.1 cursorsLeft, mismatched⟩

/-- Where every row has its target, nothing but the count is written. -/
theorem backfill_of_owned (service : LegacyTargetPhase2Service) (db : LegacyDatabase)
    (candidates : List Candidate) (placed : Placed)
    (runs : ∀ run ∈ db.runs, run.targetId.isSome = true)
    (cursors : ∀ cursor ∈ db.cursors, cursor.targetId.isSome = true)
    (matched : targetOwnedMismatchCount placed.targets db.runs db.cursors = 0) :
    ∃ report, service.backfill db candidates placed =
      .ok (report, { db with
        targets := placed.targets
        auditLogs := placed.auditLogs ++ [reconciliationLog report] }) := by
  have sameRuns : db.runs.map (adoptRun placed.targets) = db.runs :=
    (List.map_congr_left fun run member => adoptRun_of_isSome (runs run member)).trans
      (List.map_id _)
  have sameCursors : db.cursors.map (adoptCursor placed.targets) = db.cursors :=
    (List.map_congr_left fun cursor member => adoptCursor_of_isSome (cursors cursor member)).trans
      (List.map_id _)
  have noRun : db.runs.any (changesRun placed.targets) = false := by
    rw [List.any_eq_false]
    intro run member
    simp [changesRun, Option.isSome_iff_ne_none.1 (runs run member)]
  have noCursor : db.cursors.any (changesCursor placed.targets) = false := by
    rw [List.any_eq_false]
    intro cursor member
    simp [changesCursor, Option.isSome_iff_ne_none.1 (cursors cursor member)]
  have exact : assertExactBackfillCandidates placed.targets db.runs db.cursors = .ok () := by
    rw [assertExactBackfillCandidates, assure_eq_ok, Bool.and_eq_true, List.all_eq_true,
      List.all_eq_true]
    exact ⟨fun run member => by rw [runs run member, Bool.true_or],
      fun cursor member => by rw [cursors cursor member, Bool.true_or]⟩
  have countRuns : db.runs.countP (changesRun placed.targets) = 0 := by
    simpa [List.countP_eq_zero] using noRun
  have countCursors : db.cursors.countP (changesCursor placed.targets) = 0 := by
    simpa [List.countP_eq_zero] using noCursor
  unfold LegacyTargetPhase2Service.backfill
  rw [exact]
  dsimp only [Bind.bind, Except.bind]
  rw [sameRuns, sameCursors, noRun, noCursor, matched, countRuns, countCursors,
    unmappedRuns_eq_zero.2 runs, unmappedCursors_eq_zero.2 cursors]
  exact ⟨_, rfl⟩

/-- What the checks before the transaction read is not changed by it. -/
theorem preflight_backfilled (ok : preflight db = .ok ())
    (matched : targetOwnedMismatchCount (db.backfilled placed report).targets
      (db.backfilled placed report).runs (db.backfilled placed report).cursors = 0) :
    preflight (db.backfilled placed report) = .ok () := by
  have raw : (db.backfilled placed report).rawRunMismatch = db.rawRunMismatch := by
    simp [LegacyDatabase.rawRunMismatch, LegacyDatabase.backfilled, List.any_map,
      Function.comp_def]
  have runs : (db.backfilled placed report).runSourceMismatch = db.runSourceMismatch := by
    simp [LegacyDatabase.runSourceMismatch, LegacyDatabase.isAccountOf, LegacyDatabase.backfilled,
      List.any_map, Function.comp_def]
  have cursors : (db.backfilled placed report).cursorAccountMissing = db.cursorAccountMissing := by
    simp [LegacyDatabase.cursorAccountMissing, LegacyDatabase.backfilled, List.any_map,
      Function.comp_def]
  unfold preflight at ok ⊢
  rw [raw, runs, cursors, matched]
  obtain ⟨first, ok⟩ := check_eq_ok.1 ok
  obtain ⟨second, ok⟩ := check_eq_ok.1 ok
  obtain ⟨third, ok⟩ := check_eq_ok.1 ok
  obtain ⟨fourth, ok⟩ := check_eq_ok.1 ok
  obtain ⟨fifth, _⟩ := check_eq_ok.1 ok
  exact check_eq_ok.2 ⟨first, check_eq_ok.2 ⟨second, check_eq_ok.2 ⟨third,
    check_eq_ok.2 ⟨fourth, check_eq_ok.2 ⟨fifth, rfl⟩⟩⟩⟩⟩

/-- A transaction that does not fail has done all its steps. -/
theorem transaction_eq_ok :
    service.transaction db = .ok (report, db') ↔
      preflight db = .ok () ∧ ∃ candidates, listCandidates service.registry db = .ok candidates ∧
        ∃ placed,
          candidates.foldlM (service.place candidates) ⟨db.targets, db.auditLogs, 0, 0, 0⟩ =
            .ok placed ∧
          service.backfill db candidates placed = .ok (report, db') := by
  rw [LegacyTargetPhase2Service.transaction, check_eq_ok, bind_eq_ok]
  simp only [bind_eq_ok]

/-- The candidates are made of the pairs. -/
theorem listCandidates_eq_ok {registry : OperationRegistry} :
    listCandidates registry db = .ok candidates ↔
      ((pairs db).mapM fun pair => candidate registry pair.1 pair.2) = .ok candidates := by
  unfold listCandidates
  split
  next listed => rw [listed, Except.ok.injEq, Except.ok.injEq]
  next failed => simp [failed]

/-- A candidate is of a pair, and of each pair there is one. -/
theorem candidate_of_list {registry : OperationRegistry}
    (listed : listCandidates registry db = .ok candidates) {candidate : Candidate}
    (member : candidate ∈ candidates) :
    candidate.Formed ∧ db.IsPair candidate.source candidate.account := by
  obtain ⟨pair, inside, made⟩ := Unordered.exists_of_mapM_ok (listCandidates_eq_ok.1 listed) member
  obtain ⟨source, account, formed⟩ := candidate_cases made
  refine ⟨formed, mem_pairs.1 ?_⟩
  rw [source, account]
  exact inside

theorem candidate_of_pair {registry : OperationRegistry}
    (listed : listCandidates registry db = .ok candidates) {source : LegacySource}
    {account : Option LegacyAccount} (pair : db.IsPair source account) :
    ∃ candidate ∈ candidates, candidate.source = source ∧ candidate.account = account := by
  obtain ⟨made, member, ok⟩ :=
    Unordered.mapM_ok_mem (listCandidates_eq_ok.1 listed) (mem_pairs.2 pair)
  obtain ⟨source, account, _⟩ := candidate_cases ok
  exact ⟨made, member, source, account⟩

end Transaction

/-! ### What a run leaves behind -/

/-- A run has one target, of its source and of its account. -/
def RunOwned (targets : List LegacyTarget) (run : Run) : Prop :=
  ∃ owner ∈ targets, run.targetId = some owner.id ∧ owner.sourceId = run.sourceId ∧
    owner.sourceAccountId = run.sourceAccountId ∧
    ∀ other ∈ targets, run.targetId = some other.id → other = owner

/-- A cursor has one target, of its account and of the source of it. -/
def CursorOwned (accounts : List LegacyAccount) (targets : List LegacyTarget)
    (cursor : Cursor) : Prop :=
  ∃ owner ∈ targets, cursor.targetId = some owner.id ∧
    owner.sourceAccountId = some cursor.sourceAccountId ∧
    (∃ account ∈ accounts, account.id = cursor.sourceAccountId ∧
      account.sourceId = owner.sourceId) ∧
    ∀ other ∈ targets, cursor.targetId = some other.id → other = owner

/-- A run that had a target keeps it, and nothing else of a run changes. -/
def RunKept (before after : Run) : Prop :=
  ∃ owner, after = { before with targetId := some owner } ∧
    (before.targetId = some owner ∨ before.targetId = none)

/-- A cursor that had a target keeps it, and one without gets the target with its type. -/
def CursorKept (targets : List LegacyTarget) (before after : Cursor) : Prop :=
  ∃ owner, after = { before with targetId := some owner } ∧
    (before.targetId = some owner ∨ before.targetId = none ∧
      ∃ target ∈ targets, target.id = owner ∧
        target.sourceAccountId = some before.sourceAccountId ∧
        target.legacyCursorType = some before.cursorType)

/-- **The tables after a run of the service.** -/
structure Backfilled (lower : String → String) (db db' : LegacyDatabase) : Prop where
  sources : db'.sources = db.sources
  accounts : db'.accounts = db.accounts
  rawItems : db'.rawItems = db.rawItems
  contentItems : db'.contentItems = db.contentItems
  evidenceItems : db'.evidenceItems = db.evidenceItems
  targets : db.targets <+: db'.targets
  auditLogs : db.auditLogs <+: db'.auditLogs
  runs : List.Forall₂ RunKept db.runs db'.runs
  cursors : List.Forall₂ (CursorKept db'.targets) db.cursors db'.cursors
  runOwners : ∀ run ∈ db'.runs, RunOwned db'.targets run
  cursorOwners : ∀ cursor ∈ db'.cursors, CursorOwned db'.accounts db'.targets cursor
  legacyTargets : ∀ source account, db.IsPair source account →
    ∃ target ∈ db'.targets, target.targetKey = targetKey lower source account ∧
      target.sourceId = source.id ∧
      target.sourceAccountId = (account.map fun account => account.id) ∧
      ∀ other ∈ db'.targets, other.targetKey = targetKey lower source account → other = target
  valid : db'.Valid

section Outcome

variable {service : LegacyTargetPhase2Service} {db db' : LegacyDatabase}
  {targets : List LegacyTarget} {run : Run} {cursor : Cursor} {report : Phase2Report}

theorem runKept_of_adopt (owned : (adoptRun targets run).targetId.isSome = true) :
    RunKept run (adoptRun targets run) := by
  rcases adoptRun_cases targets run with same | ⟨free, target, _, _, adopted⟩
  · rw [same] at owned ⊢
    obtain ⟨owner, held⟩ := Option.isSome_iff_exists.1 owned
    exact ⟨owner, by rw [← held], .inl held⟩
  · rw [adopted]
    exact ⟨target.id, rfl, .inr free⟩

theorem cursorKept_of_adopt (owned : (adoptCursor targets cursor).targetId.isSome = true) :
    CursorKept targets cursor (adoptCursor targets cursor) := by
  rcases adoptCursor_cases targets cursor with same | ⟨free, target, member, belongs, adopted⟩
  · rw [same] at owned ⊢
    obtain ⟨owner, held⟩ := Option.isSome_iff_exists.1 owned
    exact ⟨owner, by rw [← held], .inl held⟩
  · rw [adopted]
    simp only [cursorBelongs, Bool.and_eq_true, beq_iff_eq] at belongs
    exact ⟨target.id, rfl, .inr ⟨free, target, member, rfl, belongs⟩⟩

/-- The target of a run is there after the update, where it was before. -/
theorem target_of_adoptRun
    (before : ∀ targetId, run.targetId = some targetId → ∃ target ∈ targets, target.id = targetId)
    {targetId : Uuid} (held : (adoptRun targets run).targetId = some targetId) :
    ∃ target ∈ targets, target.id = targetId := by
  rcases adoptRun_cases targets run with same | ⟨_, target, member, _, adopted⟩
  · rw [same] at held
    exact before targetId held
  · rw [adopted] at held
    exact ⟨target, member, Option.some.inj held⟩

theorem target_of_adoptCursor
    (before : ∀ targetId, cursor.targetId = some targetId →
      ∃ target ∈ targets, target.id = targetId)
    {targetId : Uuid} (held : (adoptCursor targets cursor).targetId = some targetId) :
    ∃ target ∈ targets, target.id = targetId := by
  rcases adoptCursor_cases targets cursor with same | ⟨_, target, member, _, adopted⟩
  · rw [same] at held
    exact before targetId held
  · rw [adopted] at held
    exact ⟨target, member, Option.some.inj held⟩

/-- A target is known by its identifier. -/
theorem TargetsValid.eq_of_id {accounts : List LegacyAccount} (valid : TargetsValid accounts targets)
    {first second : LegacyTarget} (firstMem : first ∈ targets) (secondMem : second ∈ targets)
    (same : first.id = second.id) : first = second :=
  List.inj_on_of_nodup_map valid.ids firstMem secondMem same

theorem TargetsValid.eq_of_targetKey {accounts : List LegacyAccount}
    (valid : TargetsValid accounts targets) {first second : LegacyTarget} (firstMem : first ∈ targets)
    (secondMem : second ∈ targets) (same : first.targetKey = second.targetKey) : first = second :=
  List.inj_on_of_nodup_map valid.keys firstMem secondMem same

/-- A candidate that stands has the one target of its key. -/
theorem target_of_standing {lower : String → String} {accounts : List LegacyAccount}
    {candidates : List Candidate} {candidate : Candidate} (valid : TargetsValid accounts targets)
    (standing : Standing lower candidates targets candidate) :
    ∃ target ∈ targets, target.targetKey = candidate.key lower ∧
      target.sourceId = candidate.source.id ∧
      target.sourceAccountId = (candidate.account.map fun account => account.id) ∧
      ∀ other ∈ targets, other.targetKey = candidate.key lower → other = target := by
  obtain ⟨target, found, exact⟩ := standing
  have member := List.mem_of_find?_eq_some found
  obtain ⟨key, source, account⟩ := of_isExactTarget (exact 0 0)
  rw [buildTarget_targetKey] at key
  rw [buildTarget_sourceId, settleIdentity_source] at source
  rw [buildTarget_sourceAccountId, settleIdentity_account] at account
  exact ⟨target, member, key, source, account, fun other otherMem same =>
    valid.eq_of_targetKey otherMem member (same.trans key.symm)⟩

/-- The keys and the foreign keys hold after a run. -/
theorem LegacyDatabase.Valid.backfilled {placed : Placed} (valid : db.Valid)
    (grown : db.targets <+: placed.targets) (targets : TargetsValid db.accounts placed.targets) :
    (db.backfilled placed report).Valid where
  accountIds := valid.accountIds
  targets := targets
  runTargets := by
    intro run member targetId held
    obtain ⟨before, inside, rfl⟩ := List.mem_map.1 member
    refine target_of_adoptRun (fun targetId held => ?_) held
    obtain ⟨target, present, same⟩ := valid.runTargets before inside targetId held
    exact ⟨target, grown.subset present, same⟩
  cursorTargets := by
    intro cursor member targetId held
    obtain ⟨before, inside, rfl⟩ := List.mem_map.1 member
    refine target_of_adoptCursor (fun targetId held => ?_) held
    obtain ⟨target, present, same⟩ := valid.cursorTargets before inside targetId held
    exact ⟨target, grown.subset present, same⟩

/-- Where nothing is left and nothing strays, every run has its one target. -/
theorem LegacyDatabase.Valid.runOwned (valid : db.Valid)
    (matched : targetOwnedMismatchCount db.targets db.runs db.cursors = 0) {run : Run}
    (member : run ∈ db.runs) (owned : run.targetId.isSome = true) : RunOwned db.targets run := by
  obtain ⟨targetId, held⟩ := Option.isSome_iff_exists.1 owned
  obtain ⟨owner, present, rfl⟩ := valid.runTargets run member targetId held
  obtain ⟨source, account⟩ :=
    (targetOwnedMismatchCount_eq_zero.1 matched).1 run member owner present held
  refine ⟨owner, present, held, source.symm, account.symm, fun other otherMem same => ?_⟩
  exact valid.targets.eq_of_id otherMem present (Option.some.inj (same.symm.trans held))

theorem LegacyDatabase.Valid.cursorOwned (valid : db.Valid)
    (matched : targetOwnedMismatchCount db.targets db.runs db.cursors = 0) {cursor : Cursor}
    (member : cursor ∈ db.cursors) (owned : cursor.targetId.isSome = true) :
    CursorOwned db.accounts db.targets cursor := by
  obtain ⟨targetId, held⟩ := Option.isSome_iff_exists.1 owned
  obtain ⟨owner, present, rfl⟩ := valid.cursorTargets cursor member targetId held
  have account := (targetOwnedMismatchCount_eq_zero.1 matched).2 cursor member owner present held
  refine ⟨owner, present, held, account, valid.targets.accounts owner present _ account,
    fun other otherMem same => ?_⟩
  exact valid.targets.eq_of_id otherMem present (Option.some.inj (same.symm.trans held))

/-- **What a transaction that does not fail leaves behind.** -/
theorem backfilled_of_transaction (valid : db.Valid)
    (ok : service.transaction db = .ok (report, db')) : Backfilled service.lower db db' := by
  obtain ⟨-, candidates, listed, placed, ran, ok⟩ := transaction_eq_ok.1 ok
  obtain ⟨rfl, runs, cursors, matched⟩ := backfill_cases ok
  have made := fun candidate (member : candidate ∈ candidates) => candidate_of_list listed member
  have owned : ∀ candidate ∈ candidates, candidate.Owned db.accounts := by
    intro candidate member account same
    have pair := (made candidate member).2
    rw [same] at pair
    exact pair.2
  obtain ⟨grown, logged⟩ := loop_isPrefix ran
  have targets : TargetsValid db.accounts placed.targets := valid.targets.loop owned ran
  have after : (db.backfilled placed report).Valid := valid.backfilled grown targets
  exact {
    sources := rfl
    accounts := rfl
    rawItems := rfl
    contentItems := rfl
    evidenceItems := rfl
    targets := grown
    auditLogs := logged.trans (List.prefix_append ..)
    runs := List.forall₂_map_right_iff.2 (List.forall₂_same.2 fun run member =>
      runKept_of_adopt (runs _ (List.mem_map_of_mem member)))
    cursors := List.forall₂_map_right_iff.2 (List.forall₂_same.2 fun cursor member =>
      cursorKept_of_adopt (cursors _ (List.mem_map_of_mem member)))
    runOwners := fun run member => after.runOwned matched member (runs run member)
    cursorOwners := fun cursor member => after.cursorOwned matched member (cursors cursor member)
    legacyTargets := by
      intro source account pair
      obtain ⟨candidate, member, rfl, rfl⟩ := candidate_of_pair listed pair
      exact target_of_standing targets (standing_of_loop (fun other inside => (made other inside).1)
        (fun _ inside => inside) ran candidate member)
    valid := after }

/-- **Another run counts, and writes what it counted.** -/
theorem transaction_again {again : LegacyTargetPhase2Service}
    (registry : again.registry = service.registry) (lower : again.lower = service.lower)
    (ok : service.transaction db = .ok (report, db')) :
    ∃ counted, again.transaction db' = .ok (counted,
      { db' with auditLogs := db'.auditLogs ++ [reconciliationLog counted] }) := by
  obtain ⟨checked, candidates, listed, placed, ran, ok⟩ := transaction_eq_ok.1 ok
  obtain ⟨rfl, runs, cursors, matched⟩ := backfill_cases ok
  have standing : ∀ candidate ∈ candidates,
      Standing again.lower candidates placed.targets candidate := by
    rw [lower]
    exact standing_of_loop (fun candidate member => (candidate_of_list listed member).1)
      (fun _ member => member) ran
  obtain ⟨next, ranAgain, targets, logs⟩ := loop_of_standing again
    ⟨placed.targets, (db.backfilled placed report).auditLogs, 0, 0, 0⟩ standing
  obtain ⟨counted, filled⟩ := backfill_of_owned again (db.backfilled placed report) candidates next
    runs cursors (targets ▸ matched)
  refine ⟨counted, transaction_eq_ok.2 ⟨preflight_backfilled checked matched, candidates,
    registry ▸ listed, next, ranAgain, ?_⟩⟩
  rw [filled, targets, logs]
  rfl

end Outcome

/-- **The backfill is exact and can be repeated.** -/
theorem run_backfills (service : LegacyTargetPhase2Service) {db : LegacyDatabase}
    (valid : db.Valid) :
    (∃ failure, service.run db = (.error failure, db)) ∨
      ∃ report db', service.run db = (.ok report, db') ∧ Backfilled service.lower db db' ∧
        ∀ again : LegacyTargetPhase2Service, again.registry = service.registry →
          again.lower = service.lower → ∃ counted, again.run db' = (.ok counted,
            { db' with auditLogs := db'.auditLogs ++ [reconciliationLog counted] }) := by
  cases ok : service.transaction db with
  | error failure => exact .inl ⟨failure, by rw [LegacyTargetPhase2Service.run, ok]⟩
  | ok outcome =>
      obtain ⟨report, db'⟩ := outcome
      refine .inr ⟨report, db', by rw [LegacyTargetPhase2Service.run, ok],
        backfilled_of_transaction valid ok, fun again registry lower => ?_⟩
      obtain ⟨counted, ranAgain⟩ := transaction_again registry lower ok
      exact ⟨counted, by rw [LegacyTargetPhase2Service.run, ranAgain]⟩

/-! ### A source of news with one account -/

def legacySource : LegacySource where
  id := 1
  accessMethod := "marketaux"
  enabled := true
  authorizationStatus := .implemented
  consecutiveFailures := 0
  retentionClass := "standard"
  scheduleSeconds := none

def legacyAccount : LegacyAccount where
  id := 2
  sourceId := 1
  enabled := true
  identityStatus := .verified
  collectionOptions := [("query", .str "grain")]

/-- A run of the account that has ended. -/
def legacyRun (targetId : Option Uuid) : Run where
  id := 3
  sourceId := 1
  sourceAccountId := some 2
  targetId := targetId
  runMode := .normal
  dispatchIdentity := none
  startedAt := 0
  finishedAt := some 1
  status := .succeeded
  fetchedCount := 0
  requestCount := 1
  pageCount := 1
  resolvedWindow := none
  operationConfigHash := none
  newCount := 0
  duplicateCount := 0
  errorCount := 0
  errorCode := none
  errorMessageRedacted := none
  retryCount := 0

def legacyCursor (id : Uuid) (targetId : Option Uuid) (cursorType : String) : Cursor where
  id := id
  sourceAccountId := 2
  targetId := targetId
  cursorType := cursorType
  cursorVersion := 1
  runMode := .normal
  cursorValue := none
  continuation := none
  continuationRunId := none
  watermarkAt := none
  lastPublishedAt := none

/-- The source and its account, with these targets, runs and cursors. -/
def legacyDatabase (targets : List LegacyTarget) (runs : List Run) (cursors : List Cursor) :
    LegacyDatabase :=
  ⟨[legacySource], [legacyAccount], targets, runs, cursors, [], [], [], []⟩

/-- The service, with a database that refuses nothing. -/
def legacyService : LegacyTargetPhase2Service where
  registry := buildOperationRegistry
  lower := fun text => String.ofList (text.toList.map lower)
  now := fun _ => 0
  ids := fun count => 10 + count
  guards := ⟨fun _ => true, fun _ _ => true, fun _ _ => true⟩

/-- A run and a cursor without a target, and none that has one. -/
def unownedDatabase : LegacyDatabase :=
  legacyDatabase [] [legacyRun none] [legacyCursor 4 none "provider_cursor_v1"]

theorem unownedDatabase_valid : unownedDatabase.Valid where
  accountIds := by decide
  targets := ⟨by decide, by decide, by simp [unownedDatabase, legacyDatabase]⟩
  runTargets := by simp [unownedDatabase, legacyDatabase, legacyRun]
  cursorTargets := by simp [unownedDatabase, legacyDatabase, legacyCursor]

/-- The run of the service creates the target, and it is found by the next. -/
theorem run_backfills_unowned :
    ∃ report db', legacyService.run unownedDatabase = (.ok report, db') ∧
      Backfilled legacyService.lower unownedDatabase db' ∧
      ∃ counted, legacyService.run db' = (.ok counted,
        { db' with auditLogs := db'.auditLogs ++ [reconciliationLog counted] }) := by
  rcases run_backfills legacyService unownedDatabase_valid with
    ⟨failure, failed⟩ | ⟨report, db', ran, backfilled, again⟩
  · have succeeds : (legacyService.run unownedDatabase).1.isOk = true := by decide
    rw [failed] at succeeds
    cases succeeds
  · exact ⟨report, db', ran, backfilled, again legacyService rfl rfl⟩

/-- A target of the account that is not for its old cursors. -/
def grainTarget : LegacyTarget :=
  { buildTarget ⟨legacySource, some legacyAccount, none, [], true, none⟩ "news.grain" 0 5 with
    operationKey := "news_all"
    operationConfig := [("query", .str "grain")]
    status := .paused
    healthStatus := .healthy
    rateLimitGroup := "marketaux:default"
    lastErrorCode := none }

/-- The same account, with a target that has a cursor of its own. -/
def ownedDatabase : LegacyDatabase :=
  legacyDatabase [grainTarget] [legacyRun (some 5)] [legacyCursor 4 (some 5) "news_all"]

theorem ownedDatabase_valid : ownedDatabase.Valid where
  accountIds := by decide
  targets := ⟨by decide, by decide, by decide⟩
  runTargets := by simp [ownedDatabase, legacyDatabase, legacyRun, grainTarget]
  cursorTargets := by simp [ownedDatabase, legacyDatabase, legacyCursor, grainTarget]

/-- **A cursor that has a target keeps it**, also where the target is for no old cursors. -/
theorem owned_cursor_type_differs :
    ownedDatabase.Valid ∧ ∃ report db', legacyService.run ownedDatabase = (.ok report, db') ∧
      ∃ cursor ∈ db'.cursors, ∀ target ∈ db'.targets, cursor.targetId = some target.id →
        target.legacyCursorType ≠ some cursor.cursorType := by
  refine ⟨ownedDatabase_valid, ?_⟩
  have succeeds : (legacyService.run ownedDatabase).1.isOk = true := by decide
  have held : ∃ cursor ∈ (legacyService.run ownedDatabase).2.cursors,
      cursor.targetId = some 5 ∧ cursor.cursorType = "news_all" := by decide
  have types : ∀ target ∈ (legacyService.run ownedDatabase).2.targets, some 5 = some target.id →
      target.legacyCursorType ≠ some "news_all" := by decide
  cases ran : legacyService.run ownedDatabase with
  | mk outcome db' =>
      rw [ran] at succeeds held types
      cases outcome with
      | error failure => cases succeeds
      | ok report =>
          obtain ⟨cursor, member, owner, cursorType⟩ := held
          refine ⟨report, db', rfl, cursor, member, fun target present same => ?_⟩
          rw [cursorType]
          exact types target present (owner.symm.trans same)

end NewsCollect.Collection
