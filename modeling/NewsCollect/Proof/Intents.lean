/-
**Intents are made once, and behind the watermark.**

Any number of passes of the reconciler run among each other and among other writers, statement by
statement, and may be lost at any point. A pass takes the recoveries and the items that nobody else has
locked, and resolves or marks no others.

* `Pass`, `passProtocol`: what a pass knows, and the statements it may make.
* `Founded`: an intent of an item behind the watermark, that the policy is about.
* `Sound`: every intent of a pass is founded, a recovery is resolved once, and an item is marked once.
* `reconcilers_sound`: **this holds in every state that is reached**, and the watermark stays what it is.
-/

import NewsCollect.Notifications.Intents

namespace NewsCollect.Notifications

open Drafting Interleaving SafeProjection
open Collection (Uuid uuidText Source)
open NotificationIntentReconciler Store

/-! ### The policy -/

section Policy

variable {library : StandardLibrary} {content : ContentRow} {source : Source}
  {judged : ContentRow × String}

/-- **What the policy accepts.** -/
theorem judge_eq_some (judges : judge library content source = .ok (some judged)) :
    judged = (content, source.accessMethod) ∧ usable source = true ∧
      content.contentKind ∈ policyKinds source.accessMethod ∧
      (source.accessMethod = "finnhub" → isCompanyNews content = true) := by
  unfold judge at judges
  dsimp only at judges
  split at judges
  · cases judges
  · next passes =>
    simp only [Bool.or_eq_true, not_or, Bool.not_eq_true, Bool.not_eq_false', Bool.and_eq_false_iff,
      List.contains_iff_mem, beq_eq_false_iff_ne] at passes
    obtain ⟨⟨⟨⟨⟨-, uses⟩, kind⟩, news⟩, -⟩, -⟩ := passes
    cases addresses : safeUrl library content.canonicalUrl with
    | error raised =>
        rw [addresses] at judges
        cases judges
    | ok safe =>
        rw [addresses] at judges
        cases safe with
        | false => cases judges
        | true =>
            obtain rfl := Option.some.inj (Except.ok.inj judges)
            exact ⟨rfl, uses, kind, fun named => news.resolve_left fun other => other named⟩

end Policy

/-! ### What a pass knows -/

/-- **What a pass knows**: the recoveries and the items it has taken and has not been through, the
item it has read last, and the watermark. -/
structure Pass where
  recoveries : List AuditLog
  ids : List Uuid
  read : Option (Uuid × ContentRow × Source)
  cutover : Option IntentWatermark

namespace Pass

def fresh : Pass := ⟨[], [], none, none⟩

/-- It has read that the item is behind the watermark, and one of the policy. -/
def Entitled (library : StandardLibrary) (pass : Pass) (id : Uuid) (provider : String) : Prop :=
  ∃ content source watermark, pass.read = some (id, content, source) ∧
    pass.cutover = some watermark ∧ watermark.before content.position = true ∧
    judge library content source = .ok (some (content, provider))

/-- The statements it may make. -/
def Allowed (library : StandardLibrary) (pass : Pass) : Statement → Prop
  | .recoveries _ => pass.recoveries = []
  | .scan _ _ => pass.ids = []
  | .insertIntent _ id provider => pass.Entitled library id provider
  | .add entry =>
      (∃ recovery ∈ pass.recoveries, ∃ status, entry = resolutionEntry recovery status) ∨
        ∃ id ∈ pass.ids, entry = scannedEntry id
  | _ => True

/-- It has been through the recovery, or the item, that an entry is about. -/
def without (pass : Pass) (entry : AuditEntry) : Pass :=
  if entry.action = resolvedAction then
    { pass with recoveries := pass.recoveries.eraseP fun row => entry.actorId == some row.key }
  else { pass with ids := pass.ids.eraseP fun id => entry.targetId == some id }

theorem scanAction_ne : scanAction ≠ resolvedAction := by decide

theorem without_resolution {pass : Pass} {recovery : AuditLog} {status : String} :
    pass.without (resolutionEntry recovery status) =
      { pass with
        recoveries := pass.recoveries.eraseP fun row => some recovery.key == some row.key } :=
  if_pos rfl

theorem without_scanned {pass : Pass} {id : Uuid} :
    pass.without (scannedEntry id) =
      { pass with ids := pass.ids.eraseP fun other => some id == some other } :=
  if_neg scanAction_ne

/-- What it knows after an answer. -/
def answered (pass : Pass) : (statement : Statement) → statement.Reply → Pass
  | .watermark, value =>
      { pass with cutover := value.bind fun text => (IntentWatermark.decode text).toOption }
  | .candidate id, found => { pass with read := found.map fun read => (id, read.1, read.2) }
  | .recoveries _, rows => { pass with recoveries := rows }
  | .scan _ _, ids => { pass with ids := ids }
  | .add entry, _ => pass.without entry
  | .commit, _ => fresh
  | .rollback, _ => fresh
  | _, _ => pass

/-- An exception ends the transaction. -/
def next (pass : Pass) (statement : Statement) : Result statement.Reply → Pass
  | .ok value => pass.answered statement value
  | .error _ => fresh

end Pass

/-- The statements of a pass, by what it knows. -/
def passProtocol (library : StandardLibrary) : Protocol statements Pass where
  allowed := Pass.Allowed library
  next := Pass.next

section Follows

variable {library : StandardLibrary} {pass : Pass} {α : Type}


/-- If the program returns, this holds of what is known and of the value. -/
def Returns (holds : Pass → α → Prop) : Pass → Except PyError α → Prop
  | pass, .ok value => holds pass value
  | _, .error _ => True

/-- The first of some that are left is gone. -/
theorem sublist_eraseP {first : α} {rest rows : List α} {chosen : α → Bool}
    (left : (first :: rest).Sublist rows) (own : chosen first = true) :
    rest.Sublist (rows.eraseP chosen) := by
  have erased : ((first :: rest).eraseP chosen).Sublist (rows.eraseP chosen) := left.eraseP
  rwa [List.eraseP_cons_of_pos own] at erased

/-- What a pass is going through stays the same. -/
def SameLists (pass pass' : Pass) : Prop :=
  pass'.recoveries = pass.recoveries ∧ pass'.ids = pass.ids

/-- The second program is run on what the first one returns. -/
theorem returns_bind {β : Type} {first : Transaction α} {after : α → Transaction β}
    {holds : Pass → α → Prop} {post : Pass → β → Prop}
    (follows : (passProtocol library).FollowsE pass first (Returns holds))
    (goes : ∀ pass' value, holds pass' value →
      (passProtocol library).FollowsE pass' (after value) (Returns post)) :
    (passProtocol library).FollowsE pass (first >>= after) (Returns post) := by
  refine Protocol.followsE_bind (Protocol.followsE_mono follows ?_)
  rintro pass' (raised | value) held
  · trivial
  · exact goes pass' value held

/-- One statement, and what comes after its answer. -/
theorem query_bind {statement : Statement} {β : Type}
    {after : statement.Reply → Transaction β} {post : Pass → β → Prop}
    (allowed : pass.Allowed library statement)
    (goes : ∀ value, (passProtocol library).FollowsE (pass.answered statement value) (after value)
      (Returns post)) :
    (passProtocol library).FollowsE pass (query statement >>= after) (Returns post) :=
  Protocol.followsE_request_bind allowed goes fun _ => trivial

theorem query_follows {statement : Statement} {post : Pass → statement.Reply → Prop}
    (allowed : pass.Allowed library statement)
    (holds : ∀ value, post (pass.answered statement value) value) :
    (passProtocol library).FollowsE pass (query statement) (Returns post) := by
  refine Protocol.followsE_request allowed ?_
  rintro (raised | value)
  · trivial
  · exact holds value

theorem loadCutoverWatermark_follows :
    (passProtocol library).FollowsE pass loadCutoverWatermark
      (Returns fun pass' found => pass' = { pass with cutover := found }) := by
  refine query_bind trivial fun value => ?_
  cases value with
  | none => exact Protocol.followsE_pure rfl
  | some text =>
      refine Protocol.followsE_bind (Protocol.followsE_compute ?_)
      cases decoded : IntentWatermark.decode text with
      | error raised => trivial
      | ok watermark =>
          refine Protocol.followsE_pure ?_
          change Pass.answered pass .watermark (some text) = _
          rw [Pass.answered, Option.bind_some, decoded]
          rfl

/-- A candidate has been read, and is behind the watermark. -/
theorem candidate_follows {id : Uuid} :
    (passProtocol library).FollowsE pass (candidate library id)
      (Returns fun pass' found => SameLists pass pass' ∧
        ∀ judged, found = some judged → pass'.Entitled library id judged.2) := by
  refine query_bind trivial fun found => ?_
  cases found with
  | none => exact Protocol.followsE_pure ⟨⟨rfl, rfl⟩, fun _ none => by cases none⟩
  | some read =>
      obtain ⟨content, source⟩ := read
      refine returns_bind loadCutoverWatermark_follows ?_
      rintro pass' cutover rfl
      cases cutover with
      | none => exact Protocol.followsE_pure ⟨⟨rfl, rfl⟩, fun _ none => by cases none⟩
      | some watermark =>
          by_cases behind : watermark.before content.position = true
          · simp only [behind, if_true]
            refine Protocol.followsE_compute ?_
            cases judges : judge library content source with
            | error raised => trivial
            | ok judged =>
                refine ⟨⟨rfl, rfl⟩, ?_⟩
                rintro ⟨row, provider⟩ rfl
                obtain rfl : row = content := congrArg Prod.fst (judge_eq_some judges).1
                exact ⟨row, source, watermark, rfl, rfl, behind, judges⟩
          · simp only [behind]
            exact Protocol.followsE_pure ⟨⟨rfl, rfl⟩, fun _ none => by cases none⟩

theorem createIntent_follows {id : Uuid} :
    (passProtocol library).FollowsE pass (createIntent library id)
      (Returns fun pass' _ => SameLists pass pass') := by
  refine returns_bind candidate_follows ?_
  rintro pass' found ⟨same, entitled⟩
  cases found with
  | none => exact Protocol.followsE_pure same
  | some judged =>
      refine query_bind trivial fun now => ?_
      exact query_follows (entitled judged rfl) fun _ => same

/-- A recovery that is resolved has been gone through. -/
theorem resolve_follows {recovery : AuditLog} {rest : List AuditLog} {status : String}
    (taken : (recovery :: rest).Sublist pass.recoveries) :
    (passProtocol library).FollowsE pass (query (.add (resolutionEntry recovery status)))
      (Returns fun pass' _ => rest.Sublist pass'.recoveries ∧ pass'.ids = pass.ids) := by
  have member := taken.subset List.mem_cons_self
  refine query_follows (.inl ⟨recovery, member, status, rfl⟩) fun _ => ⟨?_, ?_⟩
  · change rest.Sublist (pass.without (resolutionEntry recovery status)).recoveries
    rw [Pass.without_resolution]
    exact sublist_eraseP taken (beq_self_eq_true _)
  · change (pass.without (resolutionEntry recovery status)).ids = pass.ids
    rw [Pass.without_resolution]

theorem recover_follows {recovery : AuditLog} {rest : List AuditLog}
    (taken : (recovery :: rest).Sublist pass.recoveries) :
    (passProtocol library).FollowsE pass (recover library recovery)
      (Returns fun pass' _ => rest.Sublist pass'.recoveries ∧ pass'.ids = pass.ids) := by
  unfold recover
  cases recovery.targetId with
  | none => exact resolve_follows taken
  | some id =>
      refine returns_bind candidate_follows ?_
      rintro pass' found ⟨⟨same, ids⟩, -⟩
      rw [← same] at taken
      rw [← ids]
      cases found with
      | none => exact resolve_follows taken
      | some judged =>
          refine returns_bind createIntent_follows ?_
          rintro pass'' made ⟨again, ids'⟩
          rw [← again] at taken
          rw [← ids']
          exact resolve_follows taken

theorem recoverEach_follows {rows : List AuditLog} {report : ReconcileReport}
    (taken : rows.Sublist pass.recoveries) :
    (passProtocol library).FollowsE pass (recoverEach library report rows)
      (Returns fun pass' _ => pass'.ids = pass.ids) := by
  induction rows generalizing pass report with
  | nil => exact Protocol.followsE_pure rfl
  | cons recovery rows ih =>
      refine returns_bind (recover_follows taken) ?_
      rintro pass' ⟨⟩ ⟨left, ids⟩
      rw [← ids]
      exact ih left

theorem scanEach_follows {ids : List Uuid} {report : ReconcileReport} (taken : ids.Sublist pass.ids) :
    (passProtocol library).FollowsE pass (scanEach library report ids) (Returns fun _ _ => True) := by
  induction ids generalizing pass report with
  | nil => exact Protocol.followsE_pure trivial
  | cons id ids ih =>
      refine returns_bind createIntent_follows ?_
      rintro pass' made ⟨-, same⟩
      rw [← same] at taken
      cases made with
      | some intent => exact ih ((List.sublist_cons_self id ids).trans taken)
      | none =>
          have member := taken.subset List.mem_cons_self
          refine query_bind (.inr ⟨id, member, rfl⟩) fun _ => ih ?_
          change ids.Sublist (pass'.without (scannedEntry id)).ids
          rw [Pass.without_scanned]
          exact sublist_eraseP taken (beq_self_eq_true _)

theorem pass_follows {limit : Nat} :
    (passProtocol library).FollowsE .fresh (NotificationIntentReconciler.pass library limit)
      (Returns fun _ _ => True) := by
  refine returns_bind loadCutoverWatermark_follows ?_
  rintro pass' cutover rfl
  cases cutover with
  | none => exact Protocol.followsE_pure trivial
  | some cutover =>
      refine query_bind rfl fun recoveries => ?_
      refine returns_bind (recoverEach_follows (List.Sublist.refl recoveries)) ?_
      intro pass'' report ids
      by_cases spent : limit - report.scanned = 0
      · simp only [spent, if_true]
        exact Protocol.followsE_pure trivial
      · simp only [spent, if_false]
        refine query_bind ids fun taken => ?_
        exact scanEach_follows (List.Sublist.refl taken)

theorem reconcile_follows {limit : Int} :
    (passProtocol library).FollowsE .fresh (reconcile library limit) fun _ _ => True := by
  refine Protocol.followsE_bind (Protocol.followsE_compute ?_)
  cases require (1 ≤ limit && limit ≤ 500) .valueError "notification_reconcile_limit_invalid" with
  | error raised => trivial
  | ok passed =>
      refine Protocol.followsE_bind (Protocol.followsE_attempt
        (Protocol.followsE_mono pass_follows ?_))
      rintro pass' (raised | report) -
      · exact Protocol.followsE_request_bind trivial (fun _ => Protocol.followsE_throw trivial)
          fun _ => trivial
      · exact Protocol.followsE_request_bind trivial (fun _ => Protocol.followsE_pure trivial)
          fun _ => trivial

end Follows

/-- **The discipline of the passes.** -/
def passDiscipline (library : StandardLibrary) : Discipline (reconcilers library) Pass where
  toProtocol := passProtocol library
  initial _ := .fresh
  finished _ _ := True
  adheres _ := reconcile_follows

/-! ### What holds of the tables -/

/-- An entry that resolves the recovery of this key. -/
def resolves (key : String) (row : AuditLog) : Bool :=
  row.action == resolvedAction && row.actorId == some key

/-- An entry that marks this item. -/
def marks (id : Uuid) (row : AuditLog) : Bool :=
  row.action == scanAction && row.targetId == some id

/-- **An intent of an item behind the watermark**, under its key, of a provider that the policy is
about. -/
def Founded (store : Store) (row : Notification) : Prop :=
  ∃ content ∈ store.contents, ∃ provider text watermark,
    row.contentItemId = some content.id ∧ row.dedupKey = dedupKey provider content.id ∧
      policyKinds provider ≠ [] ∧ store.metadata = some text ∧
      IntentWatermark.decode text = .ok watermark ∧ watermark.before content.position = true

/-- **The tables are in order**: what the passes have inserted is founded, a recovery is resolved once,
and an item is marked once. -/
structure Sound (store : Store) : Prop where
  intents : ∀ draft ∈ store.notifications.all, draft.author ≠ none → Founded store draft.row
  resolved : ∀ key, store.audit.all.countP (fun draft => resolves key draft.row) ≤ 1
  marked : ∀ id, store.audit.all.countP (fun draft => marks id draft.row) ≤ 1

/-- **What a pass has taken is its own**: it has locked it, and nobody has resolved or marked it. What
it has read of an item is when it was created. -/
structure Holding (store : Store) (who : Nat) (pass : Pass) : Prop where
  distinct : (pass.recoveries.map AuditLog.key).Nodup
  recoveries : ∀ row ∈ pass.recoveries, (who, row.key) ∈ store.auditLocks ∧
    ∀ draft ∈ store.audit.all, resolves row.key draft.row = false
  single : pass.ids.Nodup
  ids : ∀ id ∈ pass.ids, (who, id) ∈ store.contentLocks ∧
    ∀ draft ∈ store.audit.all, marks id draft.row = false
  read : ∀ id content source, pass.read = some (id, content, source) →
    content.id = id ∧ ∃ row ∈ store.contents, row.position = content.position
  cutover : ∀ watermark, pass.cutover = some watermark →
    ∃ text, store.metadata = some text ∧ IntentWatermark.decode text = .ok watermark

/-- **The tables among the passes.** Nothing is locked twice, and an entry in progress is about
something that its author has locked. -/
structure InOrder (store : Store) (passes : Nat → Option Pass) : Prop where
  sound : Sound store
  auditApart : ∀ first second key, (first, key) ∈ store.auditLocks →
    (second, key) ∈ store.auditLocks → first = second
  contentApart : ∀ first second id, (first, id) ∈ store.contentLocks →
    (second, id) ∈ store.contentLocks → first = second
  open' : ∀ draft ∈ store.audit.all, draft.committed = false → ∃ who, draft.author = some who ∧
    (∀ key, resolves key draft.row = true → (who, key) ∈ store.auditLocks) ∧
      ∀ id, marks id draft.row = true → (who, id) ∈ store.contentLocks
  kept : ∀ entry ∈ store.kept, ∃ row ∈ store.contents, row.position = entry.2.1.position
  holding : ∀ who pass, passes who = some pass → Holding store who pass

section Frames

variable {store store' : Store} {passes : Nat → Option Pass} {who other : Nat} {pass : Pass}
  {row : Notification}

/-- The items and the watermark stay what they are. -/
structure Grows (store store' : Store) : Prop where
  contents : ∀ row ∈ store.contents, ∃ row' ∈ store'.contents, row'.position = row.position
  metadata : ∀ text, store.metadata = some text → store'.metadata = some text

theorem Grows.of_eq (contents : store'.contents = store.contents)
    (metadata : store'.metadata = store.metadata) : Grows store store' :=
  ⟨fun row member => ⟨row, contents ▸ member, rfl⟩, fun _ same => metadata.trans same⟩

theorem Founded.grows (founded : Founded store row) (grows : Grows store store') :
    Founded store' row := by
  obtain ⟨content, member, provider, text, watermark, item, key, kinds, persisted, decoded, behind⟩ :=
    founded
  obtain ⟨content', member', same⟩ := grows.contents content member
  have named : content'.id = content.id := congrArg IntentWatermark.contentItemId same
  refine ⟨content', member', provider, text, watermark, ?_, ?_, kinds,
    grows.metadata text persisted, decoded, ?_⟩
  · rw [named, item]
  · rw [named, key]
  · rw [same, behind]

/-- **What a step leaves to a pass**: its locks, and no new entry about what it has locked. -/
structure Leaves (store store' : Store) (who : Nat) : Prop where
  grows : Grows store store'
  auditLocks : ∀ key, (who, key) ∈ store.auditLocks → (who, key) ∈ store'.auditLocks
  contentLocks : ∀ id, (who, id) ∈ store.contentLocks → (who, id) ∈ store'.contentLocks
  audit : ∀ draft ∈ store'.audit.all, (∃ old ∈ store.audit.all, old.row = draft.row) ∨
    (∀ key, (who, key) ∈ store.auditLocks → resolves key draft.row = false) ∧
      ∀ id, (who, id) ∈ store.contentLocks → marks id draft.row = false

theorem Holding.leaves (holding : Holding store who pass) (leaves : Leaves store store' who) :
    Holding store' who pass where
  distinct := holding.distinct
  recoveries row member := by
    obtain ⟨locked, free⟩ := holding.recoveries row member
    refine ⟨leaves.auditLocks _ locked, fun draft drafted => ?_⟩
    rcases leaves.audit draft drafted with ⟨old, before, same⟩ | ⟨foreign, -⟩
    · rw [← same]
      exact free old before
    · exact foreign _ locked
  single := holding.single
  ids id member := by
    obtain ⟨locked, free⟩ := holding.ids id member
    refine ⟨leaves.contentLocks _ locked, fun draft drafted => ?_⟩
    rcases leaves.audit draft drafted with ⟨old, before, same⟩ | ⟨-, foreign⟩
    · rw [← same]
      exact free old before
    · exact foreign _ locked
  read id content source found := by
    obtain ⟨named, row, member, same⟩ := holding.read id content source found
    obtain ⟨row', member', same'⟩ := leaves.grows.contents row member
    exact ⟨named, row', member', same'.trans same⟩
  cutover watermark known := by
    obtain ⟨text, persisted, decoded⟩ := holding.cutover watermark known
    exact ⟨text, leaves.grows.metadata text persisted, decoded⟩

/-- A pass that has taken nothing. -/
theorem holding_fresh : Holding store who .fresh where
  distinct := List.nodup_nil
  recoveries _ member := absurd member List.not_mem_nil
  single := List.nodup_nil
  ids _ member := absurd member List.not_mem_nil
  read _ _ _ found := by cases found
  cutover _ known := by cases known

/-- **One pass goes on**, and leaves to the others what is theirs. -/
theorem InOrder.holding_update (order : InOrder store passes)
    (leaves : ∀ other, other ≠ who → Leaves store store' other) (holding : Holding store' who pass) :
    ∀ other pass', Function.update passes who (some pass) other = some pass' →
      Holding store' other pass' := by
  intro other pass' told
  by_cases same : other = who
  · subst same
    rw [Function.update_self] at told
    exact Option.some.inj told ▸ holding
  · rw [Function.update_of_ne same] at told
    exact (order.holding other pass' told).leaves (leaves other same)

theorem Leaves.refl : Leaves store store who where
  grows := .of_eq rfl rfl
  auditLocks _ locked := locked
  contentLocks _ locked := locked
  audit draft member := .inl ⟨draft, member, rfl⟩

/-- A pass has only learned something. -/
theorem InOrder.learns (order : InOrder store passes) (holding : Holding store who pass) :
    InOrder store (Function.update passes who (some pass)) :=
  { order with holding := order.holding_update (fun _ _ => .refl) holding }

/-! ### The end of a transaction -/

/-- What is left of the tables when a transaction is over: its locks are gone, and no entry in progress
is its own. -/
structure Ended (store store' : Store) (who : Nat) : Prop where
  contents : store'.contents = store.contents
  metadata : store'.metadata = store.metadata
  notifications : ∀ draft ∈ store'.notifications.all,
    ∃ old ∈ store.notifications.all, old.row = draft.row ∧ old.author = draft.author
  audit : (store'.audit.all.map Draft.row).Sublist (store.audit.all.map Draft.row)
  open' : ∀ draft ∈ store'.audit.all, draft.committed = false →
    draft ∈ store.audit.all ∧ draft.author ≠ some who
  auditLocks : store'.auditLocks = store.auditLocks.filter fun lock => lock.1 ≠ who
  contentLocks : store'.contentLocks = store.contentLocks.filter fun lock => lock.1 ≠ who
  kept : ∀ entry ∈ store'.kept, entry ∈ store.kept

theorem ended_committed : Ended store (store.committed who) who where
  contents := rfl
  metadata := rfl
  notifications draft member := by
    obtain ⟨old, before, rfl⟩ := Drafts.mem_commit.1 member
    exact ⟨old, before, (Drafts.settle_row who).symm, Drafts.settle_author.symm⟩
  audit := by
    change ((store.audit.commit who).all.map Draft.row).Sublist _
    rw [Drafts.rows_commit]
  open' draft member opened := by
    obtain ⟨old, before, rfl⟩ := Drafts.mem_commit.1 member
    obtain ⟨same, foreign⟩ := Drafts.of_settle_open opened
    rw [same]
    exact ⟨before, foreign⟩
  auditLocks := rfl
  contentLocks := rfl
  kept _ member := List.mem_of_mem_filter member

theorem ended_undone : Ended store (store.undone who) who where
  contents := rfl
  metadata := rfl
  notifications draft member := ⟨draft, (Drafts.mem_rollback.1 member).1, rfl, rfl⟩
  audit := Drafts.rows_rollback
  open' draft member opened := by
    obtain ⟨before, settled | foreign⟩ := Drafts.mem_rollback.1 member
    · rw [settled] at opened
      cases opened
    · exact ⟨before, foreign⟩
  auditLocks := rfl
  contentLocks := rfl
  kept _ member := List.mem_of_mem_filter member

namespace Ended

variable (ended : Ended store store' who)

include ended

theorem countP_le (chosen : AuditLog → Bool) :
    store'.audit.all.countP (fun draft => chosen draft.row) ≤
      store.audit.all.countP fun draft => chosen draft.row := by
  have fewer := ended.audit.countP_le (p := chosen)
  rwa [List.countP_map, List.countP_map] at fewer

theorem mem_auditLocks {lock : Nat × String} :
    lock ∈ store'.auditLocks ↔ lock ∈ store.auditLocks ∧ lock.1 ≠ who := by
  rw [ended.auditLocks, List.mem_filter, decide_eq_true_eq]

theorem mem_contentLocks {lock : Nat × Uuid} :
    lock ∈ store'.contentLocks ↔ lock ∈ store.contentLocks ∧ lock.1 ≠ who := by
  rw [ended.contentLocks, List.mem_filter, decide_eq_true_eq]

theorem leaves (different : other ≠ who) : Leaves store store' other where
  grows := .of_eq ended.contents ended.metadata
  auditLocks _ locked := ended.mem_auditLocks.2 ⟨locked, different⟩
  contentLocks _ locked := ended.mem_contentLocks.2 ⟨locked, different⟩
  audit draft member := by
    obtain ⟨old, before, same⟩ :=
      List.mem_map.1 (ended.audit.subset (List.mem_map_of_mem (f := Draft.row) member))
    exact .inl ⟨old, before, same⟩

/-- **A transaction that is over** leaves the tables in order. -/
theorem inOrder (order : InOrder store passes) {after : Option Pass}
    (nothing : ∀ pass, after = some pass → pass = .fresh) :
    InOrder store' (Function.update passes who after) where
  sound := by
    refine ⟨fun draft member authored => ?_, fun key => ?_, fun id => ?_⟩
    · obtain ⟨old, before, row, author⟩ := ended.notifications draft member
      rw [← author] at authored
      rw [← row]
      exact (order.sound.intents old before authored).grows (.of_eq ended.contents ended.metadata)
    · exact (ended.countP_le (resolves key)).trans (order.sound.resolved key)
    · exact (ended.countP_le (marks id)).trans (order.sound.marked id)
  auditApart first second key one two :=
    order.auditApart first second key (ended.mem_auditLocks.1 one).1 (ended.mem_auditLocks.1 two).1
  contentApart first second id one two :=
    order.contentApart first second id (ended.mem_contentLocks.1 one).1
      (ended.mem_contentLocks.1 two).1
  open' draft member opened := by
    obtain ⟨before, foreign⟩ := ended.open' draft member opened
    obtain ⟨author, authored, resolution, mark⟩ := order.open' draft before opened
    have different : author ≠ who := fun same => foreign (authored.trans (congrArg some same))
    exact ⟨author, authored, fun key about => ended.mem_auditLocks.2 ⟨resolution key about, different⟩,
      fun id about => ended.mem_contentLocks.2 ⟨mark id about, different⟩⟩
  kept entry member := by
    rw [ended.contents]
    exact order.kept entry (ended.kept entry member)
  holding other pass told := by
    by_cases same : other = who
    · subst same
      rw [Function.update_self] at told
      obtain rfl := nothing pass told
      exact holding_fresh
    · rw [Function.update_of_ne same] at told
      exact (order.holding other pass told).leaves (ended.leaves same)

end Ended

/-! ### What is taken -/

/-- What is not locked by another is locked by nobody, or by the transaction itself. -/
theorem not_locked {K : Type} {locks : List (Nat × K)} {key : K} (free : key ∉ lockedBy who locks)
    (locked : (other, key) ∈ locks) : other = who := by
  by_contra different
  refine free (List.mem_map.2 ⟨(other, key), List.mem_filter.2 ⟨locked, ?_⟩, rfl⟩)
  exact decide_eq_true different

/-- New locks on what nobody else has locked. -/
theorem locks_apart (who : Nat) {K : Type} {locks taken : List (Nat × K)}
    (apart : ∀ first second key, (first, key) ∈ locks → (second, key) ∈ locks → first = second)
    (own : ∀ lock ∈ taken, lock.1 = who)
    (free : ∀ lock ∈ taken, lock.2 ∉ lockedBy who locks) (first second : Nat) (key : K)
    (one : (first, key) ∈ locks ++ taken) (two : (second, key) ∈ locks ++ taken) :
    first = second := by
  rcases List.mem_append.1 one with old | new
  · rcases List.mem_append.1 two with old' | new'
    · exact apart first second key old old'
    · exact (not_locked (free _ new') old).trans (own _ new').symm
  · rcases List.mem_append.1 two with old' | new'
    · exact (own _ new).trans (not_locked (free _ new) old').symm
    · exact (own _ new).trans (own _ new').symm

/-- What no entry that is seen says, of something that only the transaction has locked, no entry says
at all. -/
theorem InOrder.unseen (order : InOrder store passes) (who : Nat) {about : AuditLog → Bool}
    (seen : ∀ row ∈ store.audit.seen who, about row = false)
    (foreign : ∀ draft ∈ store.audit.all, draft.committed = false → ∀ author,
      draft.author = some author → about draft.row = true → author = who) :
    ∀ draft ∈ store.audit.all, about draft.row = false := by
  intro draft member
  by_cases sees : Drafts.visible (some who) draft = true
  · exact seen draft.row (Drafts.mem_seen.2 ⟨draft, member, sees, rfl⟩)
  · rw [Drafts.visible, Bool.or_eq_true, not_or, Bool.not_eq_true, beq_iff_eq] at sees
    obtain ⟨author, authored, -⟩ := order.open' draft member sees.1
    rw [← Bool.not_eq_true]
    intro tells
    have own := foreign draft member sees.1 author authored tells
    exact sees.2 (authored.trans (congrArg some own))

section Taken

variable {limit : Nat} {cutover : IntentWatermark}

theorem seen_keys_nodup : ((store.audit.seen who).map AuditLog.key).Nodup := by
  have rows : ((store.audit.seen who).map AuditLog.key).Sublist
      (store.audit.all.map fun draft => draft.row.key) := by
    rw [Drafts.seen, List.map_map]
    exact List.filter_sublist.map _
  exact store.audit.distinct.sublist rows

/-- **A recovery that is taken** is locked by nobody else, and nobody has resolved it. -/
theorem InOrder.taken_recovery (order : InOrder store passes) {row : AuditLog}
    (taken : row ∈ store.takenRecoveries who limit) :
    row.key ∉ lockedBy who store.auditLocks ∧
      ∀ draft ∈ store.audit.all, resolves row.key draft.row = false := by
  have free : row.key ∉ lockedBy who store.auditLocks := by
    have passed := (List.mem_filter.1 (List.mem_of_mem_take taken)).2
    exact of_decide_eq_true passed
  obtain ⟨-, wanted⟩ := Table.mem_pick taken
  refine ⟨free, order.unseen who (fun other seen => ?_)
    fun draft member opened author authored tells => ?_⟩
  · rw [unresolved, Bool.and_eq_true, Bool.not_eq_true', List.any_eq_false] at wanted
    exact Bool.eq_false_iff.2 (wanted.2 other seen)
  · obtain ⟨author', authored', resolution, -⟩ := order.open' draft member opened
    rw [authored] at authored'
    obtain rfl := Option.some.inj authored'
    exact not_locked free (resolution row.key tells)

/-- **An item that is taken** is locked by nobody else, and nobody has marked it. -/
theorem InOrder.taken_content (order : InOrder store passes) {content : ContentRow}
    (taken : content ∈ store.takenContents who cutover limit) :
    content.id ∉ lockedBy who store.contentLocks ∧
      ∀ draft ∈ store.audit.all, marks content.id draft.row = false := by
  have free : content.id ∉ lockedBy who store.contentLocks := by
    have passed := (List.mem_filter.1 (List.mem_of_mem_take taken)).2
    exact fun locked => of_decide_eq_true passed (List.mem_append_left _ locked)
  obtain ⟨-, wanted⟩ := Table.mem_pick taken
  refine ⟨free, order.unseen who (fun other seen => ?_)
    fun draft member opened author authored tells => ?_⟩
  · rw [waiting, Bool.and_eq_true, Bool.and_eq_true, Bool.not_eq_true', marked,
      List.any_eq_false] at wanted
    exact Bool.eq_false_iff.2 (wanted.1.2 other seen)
  · obtain ⟨author', authored', -, mark⟩ := order.open' draft member opened
    rw [authored] at authored'
    obtain rfl := Option.some.inj authored'
    exact not_locked free (mark content.id tells)

theorem InOrder.takes_recoveries (order : InOrder store passes) (told : passes who = some pass) :
    InOrder { store with
        auditLocks := store.auditLocks ++
          (store.takenRecoveries who limit).map fun row => (who, row.key) }
      (Function.update passes who
        (some { pass with recoveries := store.takenRecoveries who limit })) := by
  have held := order.holding who pass told
  refine ⟨⟨order.sound.intents, order.sound.resolved, order.sound.marked⟩,
    locks_apart who order.auditApart ?_ ?_, order.contentApart, fun draft member opened => ?_, order.kept,
    order.holding_update (fun other different => ?_) ?_⟩
  · intro lock member
    obtain ⟨row, -, rfl⟩ := List.mem_map.1 member
    rfl
  · intro lock member
    obtain ⟨row, taken, rfl⟩ := List.mem_map.1 member
    exact (order.taken_recovery taken).1
  · obtain ⟨author, authored, resolution, mark⟩ := order.open' draft member opened
    exact ⟨author, authored, fun key tells => List.mem_append_left _ (resolution key tells), mark⟩
  · exact ⟨.of_eq rfl rfl, fun _ locked => List.mem_append_left _ locked, fun _ locked => locked,
      fun draft member => .inl ⟨draft, member, rfl⟩⟩
  · refine ⟨Table.pick_nodup seen_keys_nodup, fun row taken => ⟨?_, (order.taken_recovery taken).2⟩,
      held.single, held.ids, held.read, held.cutover⟩
    exact List.mem_append_right _ (List.mem_map_of_mem (f := fun row => (who, AuditLog.key row)) taken)

theorem InOrder.takes_contents (order : InOrder store passes) (told : passes who = some pass) :
    InOrder { store with
        contentLocks := store.contentLocks ++
          ((store.takenContents who cutover limit).map fun content => content.id).map
            fun id => (who, id) }
      (Function.update passes who
        (some { pass with
          ids := (store.takenContents who cutover limit).map fun content => content.id })) := by
  have held := order.holding who pass told
  refine ⟨⟨order.sound.intents, order.sound.resolved, order.sound.marked⟩, order.auditApart,
    locks_apart who order.contentApart ?_ ?_, fun draft member opened => ?_, order.kept,
    order.holding_update (fun other different => ?_) ?_⟩
  · intro lock member
    obtain ⟨id, -, rfl⟩ := List.mem_map.1 member
    rfl
  · intro lock member
    obtain ⟨id, named, rfl⟩ := List.mem_map.1 member
    obtain ⟨content, taken, rfl⟩ := List.mem_map.1 named
    exact (order.taken_content taken).1
  · obtain ⟨author, authored, resolution, mark⟩ := order.open' draft member opened
    exact ⟨author, authored, resolution, fun id tells => List.mem_append_left _ (mark id tells)⟩
  · exact ⟨.of_eq rfl rfl, fun _ locked => locked, fun _ locked => List.mem_append_left _ locked,
      fun draft member => .inl ⟨draft, member, rfl⟩⟩
  · refine ⟨held.distinct, held.recoveries, Table.pick_nodup store.distinct, fun id named => ?_,
      held.read, held.cutover⟩
    obtain ⟨content, taken, rfl⟩ := List.mem_map.1 named
    refine ⟨?_, (order.taken_content taken).2⟩
    exact List.mem_append_right _ (List.mem_map_of_mem (f := fun id => (who, id)) named)

end Taken

/-! ### What is read -/

/-- What is read of an item, now or before, is when it was created. -/
theorem InOrder.reads (order : InOrder store passes) {id : Uuid} {content source : Bool}
    {read : ContentRow × Source} (found : (store.readCandidate who id content source).1 = some read) :
    read.1.id = id ∧ ∃ row ∈ store.contents, row.position = read.1.position := by
  unfold readCandidate at found
  cases joins : store.joined id with
  | none =>
      rw [joins] at found
      cases found
  | some current =>
      rw [joins] at found
      obtain rfl := Option.some.inj found
      obtain ⟨row, here, joined⟩ := Option.bind_eq_some_iff.1 joins
      obtain ⟨origin, -, rfl⟩ := Option.map_eq_some_iff.1 joined
      have member := Table.mem_of_find _ here
      have named : row.id = id := Table.key_of_find (fun content : ContentRow => content.id) here
      have itself : row.id = id ∧ ∃ other ∈ store.contents, other.position = row.position :=
        ⟨named, row, member, rfl⟩
      cases content with
      | false => exact itself
      | true =>
          cases keeps : store.keptContent who id with
          | none =>
              simp only [if_true, Option.getD_none]
              exact itself
          | some old =>
              simp only [if_true, Option.getD_some]
              obtain ⟨entry, held, rfl⟩ := Option.map_eq_some_iff.1 keeps
              have own := List.find?_some held
              rw [Bool.and_eq_true, beq_iff_eq, beq_iff_eq] at own
              exact ⟨own.2, order.kept entry (List.mem_of_find?_eq_some held)⟩

theorem readCandidate_snd {id : Uuid} {content source : Bool} :
    (store.readCandidate who id content source).2 = store ∨
      ∃ read, (store.readCandidate who id content source).1 = some read ∧
        (store.readCandidate who id content source).2 =
          { store with kept := (who, read) :: store.kept } := by
  unfold readCandidate
  cases store.joined id with
  | none => exact .inl rfl
  | some current => exact .inr ⟨_, rfl, rfl⟩

/-- A pass has read an item. -/
theorem InOrder.reads_candidate (order : InOrder store passes) (told : passes who = some pass)
    {id : Uuid} {content source : Bool} :
    InOrder (store.readCandidate who id content source).2
      (Function.update passes who (some (pass.answered (.candidate id)
        (store.readCandidate who id content source).1))) := by
  have held := order.holding who pass told
  have knows : ∀ read, (store.readCandidate who id content source).1 = some read →
      read.1.id = id ∧ ∃ row ∈ store.contents, row.position = read.1.position :=
    fun read found => order.reads found
  have holding : Holding store who (pass.answered (.candidate id)
      (store.readCandidate who id content source).1) := by
    refine ⟨held.distinct, held.recoveries, held.single, held.ids, ?_, held.cutover⟩
    intro named row origin found
    obtain ⟨read, here, same⟩ := Option.map_eq_some_iff.1 found
    obtain ⟨rfl, rfl, rfl⟩ : id = named ∧ read.1 = row ∧ read.2 = origin := by
      simpa only [Prod.mk.injEq] using same
    exact knows read here
  rcases readCandidate_snd with same | ⟨read, found, after⟩
  · rw [same]
    exact order.learns holding
  · rw [after]
    refine ⟨⟨order.sound.intents, order.sound.resolved, order.sound.marked⟩, order.auditApart,
      order.contentApart, order.open', fun entry member => ?_,
      order.holding_update (fun other _ => ⟨.of_eq rfl rfl, fun _ locked => locked,
        fun _ locked => locked, fun draft member => .inl ⟨draft, member, rfl⟩⟩) ?_⟩
    · rcases List.mem_cons.1 member with rfl | old
      · exact (knows read found).2
      · exact order.kept entry old
    · exact ⟨holding.distinct, holding.recoveries, holding.single, holding.ids, holding.read,
        holding.cutover⟩

/-! ### What is inserted -/

/-- **A pass that may insert an intent** inserts one that is founded. -/
theorem Holding.founded {library : StandardLibrary} {id : Uuid} {provider : String} {now : Int}
    {fresh : Uuid} (holding : Holding store who pass) (entitled : pass.Entitled library id provider) :
    Founded store (pendingRow now fresh id provider) := by
  obtain ⟨content, source, watermark, read, known, behind, judges⟩ := entitled
  obtain ⟨rfl, row, member, same⟩ := holding.read id content source read
  obtain ⟨text, persisted, decoded⟩ := holding.cutover watermark known
  obtain ⟨judged, -, kind, -⟩ := judge_eq_some judges
  obtain rfl : provider = source.accessMethod := congrArg Prod.snd judged
  have named : row.id = content.id := congrArg IntentWatermark.contentItemId same
  refine ⟨row, member, source.accessMethod, text, watermark, ?_, ?_, List.ne_nil_of_mem kind,
    persisted, decoded, ?_⟩
  · exact congrArg some named.symm
  · rw [named]
    rfl
  · rw [same, behind]

/-- More notifications, those of the passes among them founded. -/
theorem InOrder.notifies (order : InOrder store passes) {notifications : Drafts Notification.dedupKey}
    {drawn : Nat}
    (founded : ∀ draft ∈ notifications.all, draft.author ≠ none → Founded store draft.row) :
    InOrder { store with notifications := notifications, drawn := drawn } passes := by
  have leaves : ∀ other, Leaves store
      { store with notifications := notifications, drawn := drawn } other := fun other =>
    ⟨.of_eq rfl rfl, fun _ locked => locked, fun _ locked => locked,
      fun draft member => .inl ⟨draft, member, rfl⟩⟩
  refine ⟨⟨?_, order.sound.resolved, order.sound.marked⟩, order.auditApart, order.contentApart,
    order.open', order.kept, ?_⟩
  · intro draft member authored
    exact (founded draft member authored).grows (leaves 0).grows
  · exact fun other pass told => (order.holding other pass told).leaves (leaves other)

/-- The entries of the audit that have been counted, and one more. -/
theorem countP_concat {rows : List (Draft AuditLog)} {draft : Draft AuditLog}
    {about : AuditLog → Bool} (before : rows.countP (fun draft => about draft.row) ≤ 1)
    (once : about draft.row = true → ∀ other ∈ rows, about other.row = false) :
    (rows ++ [draft]).countP (fun draft => about draft.row) ≤ 1 := by
  rw [List.countP_append, List.countP_singleton]
  by_cases tells : about draft.row = true
  · rw [if_pos tells, List.countP_eq_zero.2 fun other member => by
      rw [once tells other member]
      exact Bool.false_ne_true]
  · rw [if_neg tells]
    exact before

theorem resolves_iff {key : String} {row : AuditLog} :
    resolves key row = true ↔ row.action = resolvedAction ∧ row.actorId = some key := by
  rw [resolves, Bool.and_eq_true, beq_iff_eq, beq_iff_eq]

theorem marks_iff {id : Uuid} {row : AuditLog} :
    marks id row = true ↔ row.action = scanAction ∧ row.targetId = some id := by
  rw [marks, Bool.and_eq_true, beq_iff_eq, beq_iff_eq]

/-- **An entry about what nobody has resolved or marked, and only its author has locked.** -/
theorem InOrder.adds (order : InOrder store passes) {audit : Drafts AuditLog.key} {drawn : Nat}
    {draft : Draft AuditLog} (grown : audit.all = store.audit.all ++ [draft])
    (own : draft.author = some who) (holding : Holding { store with audit := audit, drawn := drawn } who
      pass)
    (resolution : ∀ key, resolves key draft.row = true → (who, key) ∈ store.auditLocks ∧
      ∀ other ∈ store.audit.all, resolves key other.row = false)
    (mark : ∀ id, marks id draft.row = true → (who, id) ∈ store.contentLocks ∧
      ∀ other ∈ store.audit.all, marks id other.row = false) :
    InOrder { store with audit := audit, drawn := drawn }
      (Function.update passes who (some pass)) := by
  refine ⟨⟨fun row member authored => ?_, fun key => ?_, fun id => ?_⟩, order.auditApart,
    order.contentApart, fun row member opened => ?_, order.kept,
    order.holding_update (fun other different => ?_) holding⟩
  · exact (order.sound.intents row member authored).grows (.of_eq rfl rfl)
  · change audit.all.countP _ ≤ 1
    rw [grown]
    exact countP_concat (order.sound.resolved key) fun tells => (resolution key tells).2
  · change audit.all.countP _ ≤ 1
    rw [grown]
    exact countP_concat (order.sound.marked id) fun tells => (mark id tells).2
  · change row ∈ audit.all at member
    rw [grown] at member
    rcases List.mem_append.1 member with old | new
    · exact order.open' row old opened
    · obtain rfl := List.mem_singleton.1 new
      exact ⟨who, own, fun key tells => (resolution key tells).1, fun id tells => (mark id tells).1⟩
  · refine ⟨.of_eq rfl rfl, fun _ locked => locked, fun _ locked => locked, fun row member => ?_⟩
    change row ∈ audit.all at member
    rw [grown] at member
    rcases List.mem_append.1 member with old | new
    · exact .inl ⟨row, old, rfl⟩
    · obtain rfl := List.mem_singleton.1 new
      refine .inr ⟨fun key locked => ?_, fun id locked => ?_⟩
      · rw [← Bool.not_eq_true]
        exact fun tells => different (order.auditApart _ _ key locked (resolution key tells).1)
      · rw [← Bool.not_eq_true]
        exact fun tells => different (order.contentApart _ _ id locked (mark id tells).1)

/-- Where no key occurs twice, what is left has another key. -/
theorem ne_of_mem_eraseP {Row K : Type} (key : Row → K) (k : K) {chosen : Row → Bool}
    (chooses : ∀ row, chosen row = true ↔ k = key row) {rows : List Row}
    (distinct : (rows.map key).Nodup) {row : Row} (left : row ∈ rows.eraseP chosen) : k ≠ key row := by
  induction rows with
  | nil => exact absurd left List.not_mem_nil
  | cons first rows ih =>
      rw [List.map_cons, List.nodup_cons] at distinct
      by_cases here : chosen first = true
      · rw [List.eraseP_cons_of_pos here] at left
        rintro rfl
        exact distinct.1 ((chooses first).1 here ▸ List.mem_map_of_mem left)
      · rw [List.eraseP_cons_of_neg here] at left
        rcases List.mem_cons.1 left with rfl | later
        · exact fun same => here ((chooses _).2 same)
        · exact ih distinct.2 later

/-- A pass goes on to what it has taken and has not been through. -/
theorem Holding.rest {audit : Drafts AuditLog.key} {drawn : Nat} {draft : Draft AuditLog}
    {pass' : Pass} (holding : Holding store who pass) (grown : audit.all = store.audit.all ++ [draft])
    (recoveries : pass'.recoveries.Sublist pass.recoveries) (ids : pass'.ids.Sublist pass.ids)
    (read : pass'.read = pass.read) (cutover : pass'.cutover = pass.cutover)
    (resolution : ∀ row ∈ pass'.recoveries, resolves row.key draft.row = false)
    (mark : ∀ id ∈ pass'.ids, marks id draft.row = false) :
    Holding { store with audit := audit, drawn := drawn } who pass' := by
  have drafts : ∀ {about : AuditLog → Bool}, (∀ draft ∈ store.audit.all, about draft.row = false) →
      about draft.row = false → ∀ draft ∈ audit.all, about draft.row = false := by
    intro about before new other member
    rw [grown] at member
    rcases List.mem_append.1 member with old | last
    · exact before other old
    · exact List.mem_singleton.1 last ▸ new
  refine ⟨holding.distinct.sublist (recoveries.map _), fun row member => ?_,
    holding.single.sublist ids, fun id member => ?_, ?_, ?_⟩
  · obtain ⟨locked, free⟩ := holding.recoveries row (recoveries.subset member)
    exact ⟨locked, drafts free (resolution row member)⟩
  · obtain ⟨locked, free⟩ := holding.ids id (ids.subset member)
    exact ⟨locked, drafts free (mark id member)⟩
  · rw [read]
    exact holding.read
  · rw [cutover]
    exact holding.cutover

/-- **A recovery is resolved** by the pass that has taken it. -/
theorem InOrder.adds_resolution (order : InOrder store passes) (told : passes who = some pass)
    {recovery : AuditLog} (taken : recovery ∈ pass.recoveries) {status : String}
    {audit : Drafts AuditLog.key} {drawn : Nat} {fresh : Uuid} {now : Int}
    (grown : audit.all =
      store.audit.all ++ [⟨⟨resolutionEntry recovery status, fresh, now⟩, some who, false⟩]) :
    InOrder { store with audit := audit, drawn := drawn }
      (Function.update passes who (some (pass.without (resolutionEntry recovery status)))) := by
  have held := order.holding who pass told
  obtain ⟨locked, free⟩ := held.recoveries recovery taken
  have unmarking : ∀ id, marks id ⟨resolutionEntry recovery status, fresh, now⟩ = false :=
    fun id => Bool.eq_false_iff.2 fun tells => Pass.scanAction_ne (marks_iff.1 tells).1.symm
  rw [Pass.without_resolution]
  refine order.adds grown rfl (held.rest grown List.eraseP_sublist (List.Sublist.refl _) rfl rfl
    (fun row left => ?_) fun id _ => unmarking id) (fun key tells => ?_) fun id tells => ?_
  · have other := ne_of_mem_eraseP AuditLog.key recovery.key (fun row => by simp) held.distinct left
    exact Bool.eq_false_iff.2 fun tells => other (Option.some.inj (resolves_iff.1 tells).2)
  · obtain rfl : recovery.key = key := Option.some.inj (resolves_iff.1 tells).2
    exact ⟨locked, free⟩
  · rw [unmarking id] at tells
    cases tells

/-- **An item is marked** by the pass that has taken it. -/
theorem InOrder.adds_mark (order : InOrder store passes) (told : passes who = some pass)
    {id : Uuid} (taken : id ∈ pass.ids) {audit : Drafts AuditLog.key} {drawn : Nat} {fresh : Uuid}
    {now : Int}
    (grown : audit.all = store.audit.all ++ [⟨⟨scannedEntry id, fresh, now⟩, some who, false⟩]) :
    InOrder { store with audit := audit, drawn := drawn }
      (Function.update passes who (some (pass.without (scannedEntry id)))) := by
  have held := order.holding who pass told
  obtain ⟨locked, free⟩ := held.ids id taken
  have unresolving : ∀ key, resolves key ⟨scannedEntry id, fresh, now⟩ = false :=
    fun key => Bool.eq_false_iff.2 fun tells => Pass.scanAction_ne (resolves_iff.1 tells).1
  have single : (pass.ids.map fun id => id).Nodup := by
    rw [List.map_id']
    exact held.single
  rw [Pass.without_scanned]
  refine order.adds grown rfl (held.rest grown (List.Sublist.refl _) List.eraseP_sublist rfl rfl
    (fun row _ => unresolving row.key) fun other left => ?_) (fun key tells => ?_)
    fun other tells => ?_
  · have apart := ne_of_mem_eraseP (fun id : Uuid => id) id (fun other => by simp) single left
    exact Bool.eq_false_iff.2 fun tells => apart (Option.some.inj (marks_iff.1 tells).2)
  · rw [unresolving key] at tells
    cases tells
  · obtain rfl : id = other := Option.some.inj (marks_iff.1 tells).2
    exact ⟨locked, free⟩

end Frames

/-! ### One step -/

section Steps

variable {library : StandardLibrary} {store store' : Store} {passes : Nat → Option Pass} {who : Nat}
  {pass : Pass}

theorem InOrder.inserted (order : InOrder store passes) (told : passes who = some pass) {now : Int}
    {id : Uuid} {provider : String} (entitled : pass.Entitled library id provider)
    {reply : Result (Option Uuid)}
    (made : store.insertIntent who now id provider = some (reply, store')) :
    InOrder store' (Function.update passes who
      (some (pass.next (.insertIntent now id provider) reply))) := by
  have held := order.holding who pass told
  unfold insertIntent at made
  dsimp only at made
  split at made
  · cases made
  · obtain ⟨rfl, rfl⟩ := Prod.ext_iff.1 (Option.some.inj made)
    exact order.learns held
  · next notifications inserts =>
    split at made
    · obtain ⟨rfl, rfl⟩ := Prod.ext_iff.1 (Option.some.inj made)
      exact ended_undone.inOrder order fun _ same => (Option.some.inj same).symm
    · split at made
      · cases made
      · obtain ⟨rfl, rfl⟩ := Prod.ext_iff.1 (Option.some.inj made)
        have grown : InOrder { store with notifications := notifications, drawn := store.drawn + 1 }
            passes := by
          refine order.notifies fun draft member authored => ?_
          rcases Drafts.insert_cases inserts with ⟨-, -, grown⟩ | ⟨none, -⟩
          · rw [grown] at member
            rcases List.mem_append.1 member with old | new
            · exact order.sound.intents draft old authored
            · obtain rfl := List.mem_singleton.1 new
              exact held.founded entitled
          · cases none
        exact grown.learns (grown.holding who pass told)

theorem InOrder.added (order : InOrder store passes) (told : passes who = some pass)
    {entry : AuditEntry} (allowed : pass.Allowed library (.add entry)) {now : Int}
    {reply : Result Unit} (made : store.addEntry who now entry = some (reply, store')) :
    InOrder store' (Function.update passes who (some (pass.next (.add entry) reply))) := by
  unfold addEntry at made
  split at made
  · cases made
  · obtain ⟨rfl, rfl⟩ := Prod.ext_iff.1 (Option.some.inj made)
    exact ended_undone.inOrder order fun _ same => (Option.some.inj same).symm
  · next audit inserts =>
    obtain ⟨rfl, rfl⟩ := Prod.ext_iff.1 (Option.some.inj made)
    rcases Drafts.insert_cases inserts with ⟨-, -, grown⟩ | ⟨none, -⟩
    · rcases allowed with ⟨recovery, taken, status, rfl⟩ | ⟨id, taken, rfl⟩
      · exact order.adds_resolution told taken grown
      · exact order.adds_mark told taken grown
    · cases none

/-- **A statement leaves the tables in order.** -/
theorem InOrder.executed (order : InOrder store passes) (told : passes who = some pass)
    {statement : Statement} (allowed : pass.Allowed library statement) {turn : Turn}
    {reply : Result statement.Reply}
    (made : execute store who statement turn = some (reply, store')) :
    InOrder store' (Function.update passes who (some (pass.next statement reply))) := by
  have held := order.holding who pass told
  have ending : ∀ pass' : Pass, some Pass.fresh = some pass' → pass' = .fresh :=
    fun _ same => (Option.some.inj same).symm
  cases turn with
  | fault =>
      obtain ⟨rfl, rfl⟩ := Prod.ext_iff.1 (Option.some.inj made)
      exact ended_undone.inOrder order ending
  | lost =>
      cases statement with
      | commit =>
          obtain ⟨rfl, rfl⟩ := Prod.ext_iff.1 (Option.some.inj made)
          exact ended_committed.inOrder order ending
      | _ => cases made
  | proceed now content source =>
      cases statement with
      | now =>
          obtain ⟨rfl, rfl⟩ := Prod.ext_iff.1 (Option.some.inj made)
          exact order.learns held
      | watermark =>
          obtain ⟨rfl, rfl⟩ := Prod.ext_iff.1 (Option.some.inj made)
          refine order.learns ⟨held.distinct, held.recoveries, held.single, held.ids, held.read, ?_⟩
          intro watermark known
          obtain ⟨text, persisted, decodes⟩ := Option.bind_eq_some_iff.1 known
          cases decoded : IntentWatermark.decode text with
          | error raised =>
              rw [decoded] at decodes
              cases decodes
          | ok other =>
              rw [decoded] at decodes
              obtain rfl := Option.some.inj decodes
              exact ⟨text, persisted, decoded⟩
      | recoveries limit =>
          obtain ⟨rfl, rfl⟩ := Prod.ext_iff.1 (Option.some.inj made)
          exact order.takes_recoveries told
      | candidate id =>
          obtain ⟨rfl, rfl⟩ := Prod.ext_iff.1 (Option.some.inj made)
          exact order.reads_candidate told
      | scan cutover limit =>
          obtain ⟨rfl, rfl⟩ := Prod.ext_iff.1 (Option.some.inj made)
          exact order.takes_contents told
      | insertIntent current id provider => exact order.inserted told allowed made
      | add entry => exact order.added told allowed made
      | commit =>
          obtain ⟨rfl, rfl⟩ := Prod.ext_iff.1 (Option.some.inj made)
          exact ended_committed.inOrder order ending
      | rollback =>
          obtain ⟨rfl, rfl⟩ := Prod.ext_iff.1 (Option.some.inj made)
          exact ended_undone.inOrder order ending

/-- More items, and perhaps a watermark. -/
theorem InOrder.grows (order : InOrder store passes) (grows : Grows store store')
    (notifications : store'.notifications = store.notifications) (audit : store'.audit = store.audit)
    (auditLocks : store'.auditLocks = store.auditLocks)
    (contentLocks : store'.contentLocks = store.contentLocks) (kept : store'.kept = store.kept) :
    InOrder store' passes := by
  have leaves : ∀ who, Leaves store store' who := fun who =>
    ⟨grows, fun _ locked => auditLocks ▸ locked, fun _ locked => contentLocks ▸ locked,
      fun draft member => .inl ⟨draft, audit ▸ member, rfl⟩⟩
  refine ⟨⟨?_, ?_, ?_⟩, ?_, ?_, ?_, ?_, fun who pass told =>
    (order.holding who pass told).leaves (leaves who)⟩
  · rw [notifications]
    exact fun draft member authored => (order.sound.intents draft member authored).grows grows
  · rw [audit]
    exact order.sound.resolved
  · rw [audit]
    exact order.sound.marked
  · rw [auditLocks]
    exact order.auditApart
  · rw [contentLocks]
    exact order.contentApart
  · rw [audit, auditLocks, contentLocks]
    exact order.open'
  · rw [kept]
    intro entry member
    obtain ⟨row, present, same⟩ := order.kept entry member
    obtain ⟨row', present', same'⟩ := grows.contents row present
    exact ⟨row', present', same'.trans same⟩

theorem recoveryAction_ne : recoveryAction ≠ resolvedAction ∧ recoveryAction ≠ scanAction := by
  decide

/-- An entry that asks for a recovery resolves nothing, and marks nothing. -/
theorem InOrder.asks (order : InOrder store passes) {audit : Drafts AuditLog.key} {drawn : Nat}
    {id fresh : Uuid} {now : Int}
    (grown : audit.all = store.audit.all ++ [⟨⟨recoveryEntry id, fresh, now⟩, none, true⟩]) :
    InOrder { store with audit := audit, drawn := drawn } passes := by
  have resolution : ∀ key, resolves key ⟨recoveryEntry id, fresh, now⟩ = false := fun key =>
    Bool.eq_false_iff.2 fun tells => recoveryAction_ne.1 (resolves_iff.1 tells).1
  have mark : ∀ other, marks other ⟨recoveryEntry id, fresh, now⟩ = false := fun other =>
    Bool.eq_false_iff.2 fun tells => recoveryAction_ne.2 (marks_iff.1 tells).1
  refine ⟨⟨fun row member authored => ?_, fun key => ?_, fun other => ?_⟩, order.auditApart,
    order.contentApart, fun row member opened => ?_, order.kept, fun who pass told => ?_⟩
  · exact (order.sound.intents row member authored).grows (.of_eq rfl rfl)
  · change audit.all.countP _ ≤ 1
    rw [grown]
    refine countP_concat (order.sound.resolved key) fun tells => ?_
    rw [resolution key] at tells
    cases tells
  · change audit.all.countP _ ≤ 1
    rw [grown]
    refine countP_concat (order.sound.marked other) fun tells => ?_
    rw [mark other] at tells
    cases tells
  · change row ∈ audit.all at member
    rw [grown] at member
    rcases List.mem_append.1 member with old | new
    · exact order.open' row old opened
    · obtain rfl := List.mem_singleton.1 new
      cases opened
  · exact (order.holding who pass told).rest grown (List.Sublist.refl _) (List.Sublist.refl _) rfl rfl
      (fun row _ => resolution row.key) fun other _ => mark other

theorem Founded.delivered {id : Uuid} {status : NotificationStatus} {scheduledAt sentAt : Option Int}
    {failureCode : Option String} {retryCount : Nat} {row : Notification}
    (founded : Founded store row) :
    Founded store (deliveredRow id status scheduledAt sentAt failureCode retryCount row) := by
  unfold deliveredRow
  split
  · exact founded
  · exact founded

/-- **What others write leaves the tables in order.** -/
theorem InOrder.written (order : InOrder store passes) {writing : Writing}
    (made : write store writing = some store') : InOrder store' passes := by
  cases writing with
  | content row =>
      simp only [write] at made
      split at made
      · obtain rfl := Option.some.inj made
        exact order.grows ⟨fun old member => ⟨old, List.mem_append_left _ member, rfl⟩,
          fun _ same => same⟩ rfl rfl rfl rfl rfl
      · cases made
  | edit row =>
      simp only [write] at made
      split at made
      · cases made
      · obtain rfl := Option.some.inj made
        refine order.grows ⟨fun old member => ?_, fun _ same => same⟩ rfl rfl rfl rfl rfl
        refine ⟨_, Table.mem_modify.2 ⟨old, member, rfl⟩, ?_⟩
        split
        · rfl
        · rfl
  | sources rows =>
      obtain rfl := Option.some.inj made
      exact order.grows (.of_eq rfl rfl) rfl rfl rfl rfl rfl
  | watermark watermark =>
      obtain rfl := Option.some.inj made
      cases unset : store.metadata with
      | some text =>
          rw [persistCutoverWatermark, unset]
          exact order
      | none =>
          rw [persistCutoverWatermark, unset]
          refine order.grows ⟨fun old member => ⟨old, member, rfl⟩, fun text same => ?_⟩ rfl rfl rfl rfl
            rfl
          rw [unset] at same
          cases same
  | recovery now id =>
      simp only [write] at made
      split at made
      · next audit inserts =>
        obtain rfl := Option.some.inj made
        rcases Drafts.insert_cases inserts with ⟨-, -, grown⟩ | ⟨none, -⟩
        · exact order.asks grown
        · cases none
      · cases made
  | notification status now provider id =>
      simp only [write] at made
      split at made
      · cases made
      · split at made
        · next made' notifications inserts =>
          obtain rfl := Option.some.inj made
          refine order.notifies fun draft member authored => ?_
          rcases Drafts.insert_cases inserts with ⟨-, -, grown⟩ | ⟨-, rfl, -⟩
          · rw [grown] at member
            rcases List.mem_append.1 member with old | new
            · exact order.sound.intents draft old authored
            · obtain rfl := List.mem_singleton.1 new
              exact absurd rfl authored
          · exact order.sound.intents draft member authored
        · cases made
  | delivery id status scheduledAt sentAt failureCode retryCount =>
      obtain rfl := Option.some.inj made
      refine order.notifies fun draft member authored => ?_
      obtain ⟨old, before, rfl⟩ := List.mem_map.1 member
      by_cases settled : old.committed = true
      · rw [if_pos settled] at authored ⊢
        exact (order.sound.intents old before authored).delivered
      · rw [if_neg settled] at authored ⊢
        exact order.sound.intents old before authored

/-- The items stay, and the watermark is persisted once. -/
theorem grows_written {writing : Writing} (made : write store writing = some store') :
    Grows store store' := by
  have kept : ∀ {after : Store}, some after = some store' → after.contents = store.contents →
      after.metadata = store.metadata → Grows store store' := by
    intro after same contents metadata
    obtain rfl := Option.some.inj same
    exact .of_eq contents metadata
  cases writing with
  | watermark watermark =>
      obtain rfl := Option.some.inj made
      refine ⟨fun row member => ⟨row, ?_, rfl⟩, fun text persisted => ?_⟩
      · unfold persistCutoverWatermark
        split
        · exact member
        · exact member
      · rw [persistCutoverWatermark, persisted]
        exact persisted
  | content row =>
      simp only [write] at made
      split at made
      · obtain rfl := Option.some.inj made
        exact ⟨fun old member => ⟨old, List.mem_append_left _ member, rfl⟩, fun _ same => same⟩
      · cases made
  | edit row =>
      simp only [write] at made
      split at made
      · cases made
      · obtain rfl := Option.some.inj made
        refine ⟨fun old member => ⟨_, Table.mem_modify.2 ⟨old, member, rfl⟩, ?_⟩, fun _ same => same⟩
        split
        · rfl
        · rfl
  | sources rows => exact kept made rfl rfl
  | delivery id status scheduledAt sentAt failureCode retryCount => exact kept made rfl rfl
  | recovery now id =>
      simp only [write] at made
      split at made
      · exact kept made rfl rfl
      · cases made
  | notification status now provider id =>
      simp only [write] at made
      split at made
      · cases made
      · split at made
        · exact kept made rfl rfl
        · cases made

/-- A statement of a pass leaves the items and the watermark as they are. -/
theorem grows_executed {statement : Statement} {turn : Turn} {reply : Result statement.Reply}
    (made : execute store who statement turn = some (reply, store')) : Grows store store' := by
  have kept : ∀ {after : Store} {answer : Result statement.Reply},
      some (answer, after) = some (reply, store') → after.contents = store.contents →
        after.metadata = store.metadata → Grows store store' := by
    intro after answer same contents metadata
    obtain ⟨-, rfl⟩ := Prod.ext_iff.1 (Option.some.inj same)
    exact .of_eq contents metadata
  cases turn with
  | fault => exact kept made rfl rfl
  | lost =>
      cases statement with
      | commit => exact kept made rfl rfl
      | _ => cases made
  | proceed now content source =>
      cases statement with
      | candidate id =>
          obtain ⟨-, rfl⟩ := Prod.ext_iff.1 (Option.some.inj made)
          change Grows store (store.readCandidate who id content source).2
          rcases readCandidate_snd with left | ⟨read, -, left⟩
          · rw [left]
            exact .of_eq rfl rfl
          · rw [left]
            exact .of_eq rfl rfl
      | insertIntent current id provider =>
          simp only [execute, insertIntent] at made
          split at made
          · cases made
          · exact kept made rfl rfl
          · split at made
            · exact kept made rfl rfl
            · split at made
              · cases made
              · exact kept made rfl rfl
      | add entry =>
          simp only [execute, addEntry] at made
          split at made
          · cases made
          · exact kept made rfl rfl
          · exact kept made rfl rfl
      | _ => exact kept made rfl rfl

end Steps

/-! ### Runs -/

/-- Nothing is in progress. -/
structure Quiet (store : Store) : Prop where
  notifications : store.notifications.Calm
  audit : store.audit.Calm
  auditLocks : store.auditLocks = []
  contentLocks : store.contentLocks = []
  kept : store.kept = []

section Runs

variable {library : StandardLibrary} {first : Store}

theorem inOrder_initial (quiet : Quiet first) (sound : Sound first) :
    InOrder first fun _ => none where
  sound := sound
  auditApart _ _ _ locked := absurd (quiet.auditLocks ▸ locked) List.not_mem_nil
  contentApart _ _ _ locked := absurd (quiet.contentLocks ▸ locked) List.not_mem_nil
  open' draft member opened := by
    rw [quiet.audit draft member] at opened
    cases opened
  kept _ member := absurd (quiet.kept ▸ member) List.not_mem_nil
  holding _ _ told := by cases told

theorem Grows.trans {middle last : Store} (one : Grows first middle) (two : Grows middle last) :
    Grows first last where
  contents row member := by
    obtain ⟨row', member', same⟩ := one.contents row member
    obtain ⟨row'', member'', same'⟩ := two.contents row' member'
    exact ⟨row'', member'', same'.trans same⟩
  metadata text persisted := two.metadata text (one.metadata text persisted)

/-- What every step keeps: the tables are in order, and the items and the watermark are still there. -/
theorem inOrder_preserved :
    (passDiscipline library).Preserves (passDiscipline library).anyMove fun store passes =>
      InOrder store passes ∧ Grows first store := by
  intro store passes move store' passes' stepped _ ⟨order, grown⟩
  cases stepped with
  | work who statement turn told allowed made =>
      exact ⟨order.executed told allowed made, grown.trans (grows_executed made)⟩
  | crash who told =>
      exact ⟨ended_undone.inOrder order fun _ none => (by cases none), grown.trans (.of_eq rfl rfl)⟩
  | start who limit free accepted =>
      obtain rfl := Option.some.inj accepted
      exact ⟨order.learns holding_fresh, grown⟩
  | env writing made => exact ⟨order.written made, grown.trans (grows_written made)⟩

/-- **Intents are made once, and behind the watermark.** However many passes run, statement by statement
among each other and among other writers, and whichever of them are lost: what they have inserted is
founded, each recovery is resolved once and each item is marked once, and a watermark that has been
persisted stays, as do the items. -/
theorem reconcilers_sound {events : List (Event Turn Int Writing)}
    {world : World statements (Result ReconcileReport) Store Int} (quiet : Quiet first)
    (sound : Sound first)
    (ran : World.run (reconcilers library) (.initial first) events = some world) :
    Sound world.state ∧ Grows first world.state := by
  have reached := Discipline.Reaches.of_run (passDiscipline library) (.refl _) ran
  have kept := reached.invariant (passDiscipline library) inOrder_preserved
    ((passDiscipline library).adherent_initial first)
    ⟨inOrder_initial quiet sound, .of_eq rfl rfl⟩
  exact ⟨kept.1.sound, kept.2⟩

end Runs

/-! ### A pass that makes an intent -/

/-- A library whose functions are not looked at. -/
def quietLibrary : StandardLibrary where
  sha256 _ := ""
  urlsplit _ := .ok ⟨"", "", "", "", none, none, none, .ok none⟩
  floatText _ _ := ""
  parseQsl _ := .ok []
  urlencode _ := .ok ""
  urlunsplit _ _ _ _ _ := ""
  toFloat _ := none
  lower text := text
  str _ := ""

/-- An article about oil, created at this time. -/
def oilItem (id : Uuid) (createdAt : Int) : ContentRow where
  id := id
  rawItemId := id
  sourceId := 1
  sourceAccountId := none
  contentKind := .article
  externalId := none
  title := some "Oil"
  sourceSummary := none
  body := none
  bodyAvailability := .unavailable
  author := none
  language := none
  originalUrl := none
  canonicalUrl := none
  sourcePublishedAt := some 0
  sourceUpdatedAt := none
  firstSeenAt := 0
  contentHash := none
  replyToExternalId := none
  quoteExternalId := none
  repostExternalId := none
  deletedStatus := .unknown
  metadata := []
  createdAt := createdAt

/-- Two articles, the first of them at the watermark. -/
def oilStore : Store where
  contents := [oilItem 1 0, oilItem 2 1]
  sources := [⟨1, "marketaux", true, .authorized, 0, "licensed"⟩]
  metadata := some (IntentWatermark.encode ⟨0, 1⟩)
  notifications := ⟨[], List.nodup_nil⟩
  audit := ⟨[], List.nodup_nil⟩
  auditLocks := []
  contentLocks := []
  kept := []
  draws n := n + 1
  drawn := 0
  distinct := by decide

theorem oilStore_quiet : Quiet oilStore :=
  ⟨fun _ member => absurd member List.not_mem_nil, fun _ member => absurd member List.not_mem_nil,
    rfl, rfl, rfl⟩

/-- So many statements of a pass, with nothing to fail. -/
def statementsOf (who count : Nat) : List (Event Turn Int Writing) :=
  List.replicate count (.work who (.proceed 5 false false))

/-- Two passes over them: while the first one has locked the other article, the second one runs, and
finds none. -/
def oilEvents : List (Event Turn Int Writing) :=
  .start 10 :: .start 10 :: statementsOf 0 3 ++ statementsOf 1 4 ++ statementsOf 0 5

theorem reconcilers_sound_oil : ∃ world,
    World.run (reconcilers quietLibrary) (.initial oilStore) oilEvents = some world ∧
      world.state.notifications.all.length = 1 ∧ Sound world.state := by
  have goes : ((World.run (reconcilers quietLibrary) (.initial oilStore) oilEvents).any
      fun world => world.state.notifications.all.length == 1) = true := by
    decide +kernel
  obtain ⟨world, ran, one⟩ := (Option.any_eq_true _ _).1 goes
  refine ⟨world, ran, eq_of_beq one, (reconcilers_sound oilStore_quiet ?_ ran).1⟩
  exact ⟨fun _ member => absurd member List.not_mem_nil, fun _ => Nat.zero_le 1,
    fun _ => Nat.zero_le 1⟩

end NewsCollect.Notifications
