/-
**The backlog of intents is worked off.**

The recoveries that are not resolved and the items that wait for an intent are the backlog. A pass that
runs alone takes the oldest of them, and what it has taken is gone from the backlog when it is
committed. A pass that raises has done nothing; if it raises for one of the items it takes, it does so
again and again.

* `Under`, `Course`: a pass in progress, and what it has come to.
* `Passed.backlog_le`: what a pass has scanned is gone, and nothing is left if it has met its end.
* `reconcile_complete`: **passes that are long enough together leave nothing**, and every candidate has
  its intent.
* `reconcile_stuck`: **an address that cannot be split stops every pass**, and what waits behind it.
-/

import NewsCollect.Library.Among
import NewsCollect.Proof.Intents

namespace NewsCollect.Notifications

open Drafting Interleaving SafeProjection
open Collection (Uuid uuidText Source)
open NotificationIntentReconciler Store

/-! ### A pass alone -/

/-- The tables among which nobody else writes. -/
def lonely (who : Nat) : Setting statements Store where
  others before after := before = after
  performs before statement reply after := ∃ turn, execute before who statement turn = some (reply, after)

/-- The notifications, and the entries of the audit. -/
def Store.notes (store : Store) : List Notification := store.notifications.all.map Draft.row

def Store.entries (store : Store) : List AuditLog := store.audit.all.map Draft.row

/-- **A pass in progress**: a rollback leaves the tables it has begun with. -/
structure Under (first : Store) (who : Nat) (store : Store) : Prop where
  contents : store.contents = first.contents
  sources : store.sources = first.sources
  metadata : store.metadata = first.metadata
  notifications : store.notifications.rollback who = first.notifications
  audit : store.audit.rollback who = first.audit
  auditLocks : ∀ lock ∈ store.auditLocks, lock.1 = who
  contentLocks : ∀ lock ∈ store.contentLocks, lock.1 = who
  kept : ∀ entry ∈ store.kept, entry.1 = who ∧ first.joined entry.2.1.id = some entry.2

/-- No notification and no entry is new. -/
def Same (store store' : Store) : Prop :=
  store'.notifications = store.notifications ∧ store'.audit = store.audit

/-- The watermark of the tables. -/
def cutoverOf (store : Store) : Result (Option IntentWatermark) :=
  match store.metadata with
  | none => .ok none
  | some text => (IntentWatermark.decode text).map some

/-- An item, judged if it is behind the watermark. -/
def judgedBehind (library : StandardLibrary) (content : ContentRow) (source : Source) :
    Option IntentWatermark → Result (Option (ContentRow × String))
  | none => .ok none
  | some watermark =>
      if watermark.before content.position then judge library content source else .ok none

/-- **What a pass finds of an item**: whether it is a candidate, and of which provider. -/
def judgement (library : StandardLibrary) (store : Store) (id : Uuid) :
    Result (Option (ContentRow × String)) :=
  match store.joined id with
  | none => .ok none
  | some (content, source) => cutoverOf store >>= judgedBehind library content source

/-- A pending notification of a candidate. -/
def Intent (library : StandardLibrary) (first : Store) (row : Notification) : Prop :=
  ∃ now fresh id content provider, judgement library first id = .ok (some (content, provider)) ∧
    row = pendingRow now fresh id provider

/-- More notifications, all of candidates, and more entries, none of which asks for a recovery. -/
structure Extends (library : StandardLibrary) (first store store' : Store) : Prop where
  notes : ∃ added, store'.notes = store.notes ++ added ∧ ∀ row ∈ added, Intent library first row
  entries : ∃ added, store'.entries = store.entries ++ added ∧
    ∀ row ∈ added, row.action ≠ recoveryAction

section Under

variable {first store store' : Store} {who : Nat}

theorem Under.start (quiet : Quiet first) : Under first who first where
  contents := rfl
  sources := rfl
  metadata := rfl
  notifications := quiet.notifications.rollback
  audit := quiet.audit.rollback
  auditLocks _ member := absurd (quiet.auditLocks ▸ member) List.not_mem_nil
  contentLocks _ member := absurd (quiet.contentLocks ▸ member) List.not_mem_nil
  kept _ member := absurd (quiet.kept ▸ member) List.not_mem_nil

/-- What is in a table is committed, or is the pass's own. -/
theorem visible_of_rollback {Row K : Type} {key : Row → K} {table before : Drafts key}
    (calm : before.Calm) (rolls : table.rollback who = before) {draft : Draft Row}
    (member : draft ∈ table.all) : draft.committed = true ∨ draft.author = some who := by
  by_contra neither
  rw [not_or] at neither
  have kept : draft ∈ (table.rollback who).all :=
    Drafts.mem_rollback.2 ⟨member, .inr neither.2⟩
  rw [rolls] at kept
  exact neither.1 (calm draft kept)

/-- It sees all that there is. -/
theorem seen_of_rollback {Row K : Type} {key : Row → K} {table before : Drafts key}
    (calm : before.Calm) (rolls : table.rollback who = before) :
    table.seen who = table.all.map Draft.row := by
  refine congrArg (List.map Draft.row) (List.filter_eq_self.2 fun draft member => ?_)
  rw [Drafts.visible, Bool.or_eq_true, beq_iff_eq]
  exact visible_of_rollback calm rolls member

section Extends

variable {library : StandardLibrary}

theorem Extends.refl : Extends library first store store :=
  ⟨⟨[], (List.append_nil _).symm, fun _ member => absurd member List.not_mem_nil⟩,
    [], (List.append_nil _).symm, fun _ member => absurd member List.not_mem_nil⟩

theorem Extends.trans {last : Store} (one : Extends library first store store')
    (two : Extends library first store' last) : Extends library first store last := by
  obtain ⟨notes, noted, intents⟩ := one.notes
  obtain ⟨notes', noted', intents'⟩ := two.notes
  obtain ⟨added, grown, others⟩ := one.entries
  obtain ⟨added', grown', others'⟩ := two.entries
  refine ⟨⟨notes ++ notes', ?_, fun row member => ?_⟩, added ++ added', ?_, fun row member => ?_⟩
  · rw [noted', noted, List.append_assoc]
  · exact (List.mem_append.1 member).elim (intents row) (intents' row)
  · rw [grown', grown, List.append_assoc]
  · exact (List.mem_append.1 member).elim (others row) (others' row)

theorem Same.notes (same : Same store store') : store'.notes = store.notes :=
  congrArg (fun table => table.all.map Draft.row) same.1

theorem Same.entries (same : Same store store') : store'.entries = store.entries :=
  congrArg (fun table => table.all.map Draft.row) same.2

theorem Same.grows (same : Same store store') : Extends library first store store' := by
  refine ⟨⟨[], ?_, fun _ member => absurd member List.not_mem_nil⟩,
    [], ?_, fun _ member => absurd member List.not_mem_nil⟩
  · rw [same.notes, List.append_nil]
  · rw [same.entries, List.append_nil]

theorem Extends.mem_notes (grows : Extends library first store store') {row : Notification}
    (member : row ∈ store.notes) : row ∈ store'.notes := by
  obtain ⟨added, grown, -⟩ := grows.notes
  rw [grown]
  exact List.mem_append_left _ member

theorem Extends.mem_entries (grows : Extends library first store store') {row : AuditLog}
    (member : row ∈ store.entries) : row ∈ store'.entries := by
  obtain ⟨added, grown, -⟩ := grows.entries
  rw [grown]
  exact List.mem_append_left _ member

end Extends

theorem rollback_rollback {Row K : Type} {key : Row → K} {table : Drafts key} :
    (table.rollback who).rollback who = table.rollback who := by
  refine Drafts.ext (List.filter_eq_self.2 fun draft member => ?_)
  exact (List.mem_filter.1 member).2

theorem Under.undone (under : Under first who store) : Under first who (store.undone who) where
  contents := under.contents
  sources := under.sources
  metadata := under.metadata
  notifications := rollback_rollback.trans under.notifications
  audit := rollback_rollback.trans under.audit
  auditLocks lock member := under.auditLocks lock (List.mem_of_mem_filter member)
  contentLocks lock member := under.contentLocks lock (List.mem_of_mem_filter member)
  kept entry member := under.kept entry (List.mem_of_mem_filter member)

/-- Nothing but its own locks is locked. -/
theorem lockedBy_nil {K : Type} {locks : List (Nat × K)} (own : ∀ lock ∈ locks, lock.1 = who) :
    lockedBy who locks = [] := by
  have none : locks.filter (fun lock => lock.1 ≠ who) = [] :=
    List.filter_eq_nil_iff.2 fun lock member => by simp [own lock member]
  exact congrArg (List.map Prod.snd) none

theorem Under.referred (quiet : Quiet first) (under : Under first who store) :
    store.referred who = [] := by
  refine List.filterMap_eq_nil_iff.2 fun draft member => ?_
  rw [if_pos]
  rw [Drafts.visible, Bool.or_eq_true, beq_iff_eq]
  exact visible_of_rollback quiet.notifications under.notifications member

/-- What the session has kept of an item and of its source is what they are. -/
theorem Under.reads (under : Under first who store) (id : Uuid) (content source : Bool) :
    (store.readCandidate who id content source).1 = first.joined id := by
  have same : store.joined id = first.joined id := by
    unfold joined
    rw [under.contents, under.sources]
  unfold readCandidate
  rw [same]
  cases joins : first.joined id with
  | none => rfl
  | some current =>
      obtain ⟨row, here, joined⟩ := Option.bind_eq_some_iff.1 joins
      obtain ⟨origin, there, rfl⟩ := Option.map_eq_some_iff.1 joined
      have item : ∀ other, store.keptContent who id = some other → other = row := by
        intro other keeps
        obtain ⟨entry, held, rfl⟩ := Option.map_eq_some_iff.1 keeps
        have own := List.find?_some held
        rw [Bool.and_eq_true, beq_iff_eq, beq_iff_eq] at own
        have joined := (under.kept entry (List.mem_of_find?_eq_some held)).2
        rw [own.2, joins] at joined
        exact congrArg Prod.fst (Option.some.inj joined).symm
      have publisher : ∀ other, store.keptSource who origin.id = some other → other = origin := by
        intro other keeps
        obtain ⟨entry, held, rfl⟩ := Option.map_eq_some_iff.1 keeps
        have own := List.find?_some held
        rw [Bool.and_eq_true, beq_iff_eq, beq_iff_eq] at own
        have joined := (under.kept entry (List.mem_of_find?_eq_some held)).2
        obtain ⟨row', -, joined'⟩ := Option.bind_eq_some_iff.1 joined
        obtain ⟨origin', there', same'⟩ := Option.map_eq_some_iff.1 joined'
        rw [← same'] at own ⊢
        have one : origin.id = row.sourceId := Table.key_of_find Source.id there
        have two : origin'.id = row'.sourceId := Table.key_of_find Source.id there'
        rw [← two, own.2, one, there] at there'
        exact (Option.some.inj there').symm
      refine congrArg some (Prod.ext ?_ ?_)
      · cases content with
        | false => rfl
        | true =>
            cases keeps : store.keptContent who id with
            | none => simp only [if_true, Option.getD_none]
            | some other => simp only [if_true, Option.getD_some, item other keeps]
      · cases source with
        | false => rfl
        | true =>
            cases keeps : store.keptSource who origin.id with
            | none => simp only [if_true, Option.getD_none]
            | some other => simp only [if_true, Option.getD_some, publisher other keeps]

/-- What a statement comes to, if it is answered: a new notification, or a new entry, or none. -/
def Answers (store store' : Store) : (statement : Statement) → statement.Reply → Prop
  | .insertIntent now id provider, made =>
      Same store store' ∧ made = none ∧
          (∃ row ∈ store.notes, row.dedupKey = dedupKey provider id) ∨
        store'.audit = store.audit ∧ made = some store.fresh ∧
          store'.notes = store.notes ++ [pendingRow now store.fresh id provider]
  | .add entry, _ =>
      store'.notifications = store.notifications ∧
        ∃ now, store'.entries = store.entries ++ [⟨entry, store.fresh, now⟩]
  | _, _ => Same store store'

theorem Under.inserts (under : Under first who store) {now : Int} {id : Uuid}
    {provider : String} {reply : Result (Option Uuid)}
    (made : store.insertIntent who now id provider = some (reply, store')) :
    Under first who store' ∧
      ∀ value, reply = .ok value → Answers store store' (.insertIntent now id provider) value := by
  unfold insertIntent at made
  dsimp only at made
  split at made
  · cases made
  · next inserts =>
    obtain ⟨rfl, rfl⟩ := Prod.ext_iff.1 (Option.some.inj made)
    refine ⟨under, fun value same => ?_⟩
    obtain rfl := Except.ok.inj same
    rcases Drafts.insert_cases inserts with ⟨none, -⟩ | ⟨-, -, other, member, held, -⟩
    · cases none
    · exact .inl ⟨⟨rfl, rfl⟩, rfl, other.row, List.mem_map_of_mem member, held⟩
  · next notifications inserts =>
    split at made
    · obtain ⟨rfl, rfl⟩ := Prod.ext_iff.1 (Option.some.inj made)
      exact ⟨under.undone, fun value same => by cases same⟩
    · split at made
      · cases made
      · obtain ⟨rfl, rfl⟩ := Prod.ext_iff.1 (Option.some.inj made)
        refine ⟨{ under with
          notifications := (Drafts.rollback_insert rfl rfl inserts).trans under.notifications },
          fun value same => ?_⟩
        obtain rfl := Except.ok.inj same
        rcases Drafts.insert_cases inserts with ⟨-, -, grown⟩ | ⟨none, -⟩
        · refine .inr ⟨rfl, rfl, ?_⟩
          change notifications.all.map Draft.row = _
          rw [grown, List.map_append]
          rfl
        · cases none

theorem Under.adds (under : Under first who store) {now : Int} {entry : AuditEntry}
    {reply : Result Unit} (made : store.addEntry who now entry = some (reply, store')) :
    Under first who store' ∧
      ∀ value, reply = .ok value → Answers store store' (.add entry) value := by
  unfold addEntry at made
  split at made
  · cases made
  · obtain ⟨rfl, rfl⟩ := Prod.ext_iff.1 (Option.some.inj made)
    exact ⟨under.undone, fun value same => by cases same⟩
  · next audit inserts =>
    obtain ⟨rfl, rfl⟩ := Prod.ext_iff.1 (Option.some.inj made)
    refine ⟨{ under with audit := (Drafts.rollback_insert rfl rfl inserts).trans under.audit },
      fun value _ => ⟨rfl, now, ?_⟩⟩
    rcases Drafts.insert_cases inserts with ⟨-, -, grown⟩ | ⟨none, -⟩
    · change audit.all.map Draft.row = _
      rw [grown, List.map_append]
      rfl
    · cases none

/-- What is read. -/
def Reads (first store : Store) (who : Nat) : (statement : Statement) → statement.Reply → Prop
  | .watermark, value => value = first.metadata
  | .recoveries limit, rows => rows = store.takenRecoveries who limit
  | .candidate id, found => found = first.joined id
  | .scan cutover limit, ids =>
      ids = (store.takenContents who cutover limit).map fun content => content.id
  | _, _ => True

theorem same_read {id : Uuid} {content source : Bool} :
    Same store (store.readCandidate who id content source).2 := by
  rcases readCandidate_snd with left | ⟨read, -, left⟩
  · rw [left]
    exact ⟨rfl, rfl⟩
  · rw [left]
    exact ⟨rfl, rfl⟩

theorem Under.read (under : Under first who store) {id : Uuid} {content source : Bool} :
    Under first who (store.readCandidate who id content source).2 := by
  rcases readCandidate_snd with left | ⟨read, found, left⟩
  · rw [left]
    exact under
  · rw [left]
    refine { under with kept := fun entry member => ?_ }
    rcases List.mem_cons.1 member with rfl | old
    · rw [under.reads] at found
      obtain ⟨row, here, joined⟩ := Option.bind_eq_some_iff.1 found
      obtain ⟨origin, -, rfl⟩ := Option.map_eq_some_iff.1 joined
      have named : row.id = id := Table.key_of_find (fun content : ContentRow => content.id) here
      exact ⟨rfl, by rwa [named]⟩
    · exact under.kept entry old

/-- **One statement of a pass alone**, but for its end. -/
theorem Under.executed (under : Under first who store) {statement : Statement} {turn : Turn}
    {reply : Result statement.Reply} (goes : statement ≠ .commit) (stays : statement ≠ .rollback)
    (made : execute store who statement turn = some (reply, store')) :
    Under first who store' ∧ ∀ value, reply = .ok value →
      Answers store store' statement value ∧ Reads first store who statement value := by
  cases turn with
  | fault =>
      obtain ⟨rfl, rfl⟩ := Prod.ext_iff.1 (Option.some.inj made)
      exact ⟨under.undone, fun value same => by cases same⟩
  | lost =>
      cases statement with
      | commit => exact absurd rfl goes
      | _ => cases made
  | proceed now content source =>
      cases statement with
      | now =>
          obtain ⟨rfl, rfl⟩ := Prod.ext_iff.1 (Option.some.inj made)
          exact ⟨under, fun value _ => ⟨⟨rfl, rfl⟩, trivial⟩⟩
      | watermark =>
          obtain ⟨rfl, rfl⟩ := Prod.ext_iff.1 (Option.some.inj made)
          refine ⟨under, fun value same => ⟨⟨rfl, rfl⟩, ?_⟩⟩
          exact (Except.ok.inj same).symm.trans under.metadata
      | recoveries limit =>
          obtain ⟨rfl, rfl⟩ := Prod.ext_iff.1 (Option.some.inj made)
          refine ⟨{ under with auditLocks := fun lock member => ?_ },
            fun value same => ⟨⟨rfl, rfl⟩, (Except.ok.inj same).symm⟩⟩
          rcases List.mem_append.1 member with old | new
          · exact under.auditLocks lock old
          · obtain ⟨row, -, rfl⟩ := List.mem_map.1 new
            rfl
      | candidate id =>
          obtain ⟨rfl, rfl⟩ := Prod.ext_iff.1 (Option.some.inj made)
          refine ⟨under.read, fun value same => ⟨same_read, ?_⟩⟩
          exact (Except.ok.inj same).symm.trans (under.reads id content source)
      | scan cutover limit =>
          obtain ⟨rfl, rfl⟩ := Prod.ext_iff.1 (Option.some.inj made)
          refine ⟨{ under with contentLocks := fun lock member => ?_ },
            fun value same => ⟨⟨rfl, rfl⟩, (Except.ok.inj same).symm⟩⟩
          rcases List.mem_append.1 member with old | new
          · exact under.contentLocks lock old
          · obtain ⟨id, -, rfl⟩ := List.mem_map.1 new
            rfl
      | insertIntent current id provider =>
          obtain ⟨after, answers⟩ := under.inserts made
          exact ⟨after, fun value same => ⟨answers value same, trivial⟩⟩
      | add entry =>
          obtain ⟨after, answers⟩ := under.adds made
          exact ⟨after, fun value same => ⟨answers value same, trivial⟩⟩
      | commit => exact absurd rfl goes
      | rollback => exact absurd rfl stays

end Under

/-! ### Courses -/

/-- **What the runs of a program come to**: they go on under what the pass has begun with, and if they
return, this holds of the tables before and after and of the value. -/
def Course {α : Type} (library : StandardLibrary) (first : Store) (who : Nat)
    (program : Transaction α) (post : Store → Store → α → Prop) : Prop :=
  ∀ store, Under first who store → (lonely who).EnsuresE store program fun _ last result =>
    Under first who last ∧ ∀ value, result = .ok value →
      Extends library first store last ∧ post store last value

section Courses

variable {library : StandardLibrary} {first : Store} {who : Nat} {α β : Type}

theorem course_pure {value : α} {post : Store → Store → α → Prop}
    (holds : ∀ store, post store store value) : Course library first who (pure value) post := by
  intro store under
  refine Setting.ensuresE_pure ⟨under, fun other same => ?_⟩
  obtain rfl := Except.ok.inj same
  exact ⟨.refl, holds store⟩

theorem course_compute {result : Result α} {post : Store → Store → α → Prop}
    (holds : ∀ value, result = .ok value → ∀ store, post store store value) :
    Course library first who (compute result) post := by
  intro store under
  exact Setting.ensures_done ⟨under, fun value same => ⟨.refl, holds value same store⟩⟩

theorem course_mono {program : Transaction α} {post weaker : Store → Store → α → Prop}
    (course : Course library first who program post)
    (implies : ∀ store last value, Extends library first store last → post store last value →
      weaker store last value) : Course library first who program weaker := by
  intro store under
  refine Setting.ensuresE_mono (course store under) ?_
  rintro - last result ⟨after, returns⟩
  refine ⟨after, fun value same => ?_⟩
  obtain ⟨grown, held⟩ := returns value same
  exact ⟨grown, implies _ _ _ grown held⟩

/-- The second program is run on the tables and the value of the first one. -/
theorem course_bind {program : Transaction α} {next : α → Transaction β}
    {middle : Store → Store → α → Prop} {post : Store → Store → β → Prop}
    (one : Course library first who program middle)
    (two : ∀ value, (∃ store between, middle store between value) →
      Course library first who (next value) fun between last result =>
        ∀ store, Extends library first store between → middle store between value →
          post store last result) :
    Course library first who (program >>= next) post := by
  intro store under
  refine Setting.ensuresE_bind (Setting.ensuresE_mono (one store under) ?_)
  rintro - between (raised | value) ⟨after, returns⟩
  · exact ⟨after, fun other same => by cases same⟩
  · obtain ⟨grown, held⟩ := returns value rfl
    refine Setting.ensuresE_mono (two value ⟨store, between, held⟩ between after) ?_
    rintro - last result ⟨ended, returns'⟩
    refine ⟨ended, fun other same => ?_⟩
    obtain ⟨grown', held'⟩ := returns' other same
    exact ⟨grown.trans grown', held' store grown held⟩

/-- A program that raises does not return. -/
theorem course_raises {raised : PyError} {next : α → Transaction β}
    {post : Store → Store → β → Prop} :
    Course library first who (compute (.error raised) >>= next) post := by
  intro store under
  exact Setting.ensures_done ⟨under, fun value same => by cases same⟩

/-- A statement that only reads. -/
def Statement.IsRead : Statement → Prop
  | .insertIntent _ _ _ => False
  | .add _ => False
  | .commit => False
  | .rollback => False
  | _ => True

theorem course_read {statement : Statement} (reads : statement.IsRead) :
    Course library first who (query statement) fun store last value =>
      Same store last ∧ Reads first store who statement value := by
  intro store under
  refine Setting.ensuresE_request ?_
  rintro before reply after rfl ⟨turn, made⟩
  have goes : statement ≠ .commit ∧ statement ≠ .rollback := by
    constructor
    · rintro rfl
      exact reads
    · rintro rfl
      exact reads
  obtain ⟨held, answers⟩ := under.executed goes.1 goes.2 made
  refine ⟨held, fun value same => ?_⟩
  obtain ⟨answered, read⟩ := answers value same
  have left : Same store after := by
    cases statement with
    | insertIntent now id provider => exact reads.elim
    | add entry => exact reads.elim
    | _ => exact answered
  exact ⟨left.grows, left, read⟩

theorem course_insert {now : Int} {id : Uuid} {provider : String} {content : ContentRow}
    (candidate : judgement library first id = .ok (some (content, provider))) :
    Course library first who (query (.insertIntent now id provider)) fun store last made =>
      Answers store last (.insertIntent now id provider) made := by
  intro store under
  refine Setting.ensuresE_request ?_
  rintro before reply after rfl ⟨turn, made⟩
  obtain ⟨held, answers⟩ := under.executed (by rintro ⟨⟩) (by rintro ⟨⟩) made
  refine ⟨held, fun value same => ⟨?_, (answers value same).1⟩⟩
  rcases (answers value same).1 with ⟨left, -, -⟩ | ⟨audit, -, notes⟩
  · exact left.grows
  · refine ⟨⟨_, notes, fun row member => ?_⟩, [], ?_, fun _ member => absurd member List.not_mem_nil⟩
    · obtain rfl := List.mem_singleton.1 member
      exact ⟨now, store.fresh, id, content, provider, candidate, rfl⟩
    · rw [entries, audit, List.append_nil]
      rfl

theorem course_add {entry : AuditEntry} (other : entry.action ≠ recoveryAction) :
    Course library first who (query (.add entry)) fun store last _ =>
      Answers store last (.add entry) () := by
  intro store under
  refine Setting.ensuresE_request ?_
  rintro before reply after rfl ⟨turn, made⟩
  obtain ⟨held, answers⟩ := under.executed (by rintro ⟨⟩) (by rintro ⟨⟩) made
  refine ⟨held, fun value same => ⟨?_, (answers value same).1⟩⟩
  obtain ⟨notifications, now, grown⟩ := (answers value same).1
  refine ⟨⟨[], ?_, fun _ member => absurd member List.not_mem_nil⟩, _, grown, fun row member => ?_⟩
  · rw [notes, notifications, List.append_nil]
    rfl
  · obtain rfl := List.mem_singleton.1 member
    exact other

end Courses

/-! ### The courses of a pass -/

/-- Every candidate has a notification of its key. -/
def Intended (library : StandardLibrary) (first : Store) (id : Uuid) (store : Store) : Prop :=
  ∀ content provider, judgement library first id = .ok (some (content, provider)) →
    ∃ row ∈ store.notes, row.dedupKey = dedupKey provider id

/-- An entry has resolved the recovery of this key. -/
def Resolved (key : String) (store : Store) : Prop := ∃ row ∈ store.entries, resolves key row = true

/-- A scan does not look for the item any more. -/
def Handled (id : Uuid) (store : Store) : Prop :=
  notified store.notes id = true ∨ marked store.entries id = true

section PassCourses

variable {library : StandardLibrary} {first store last : Store} {who : Nat} {id : Uuid}

theorem Intended.grows (intended : Intended library first id store)
    (grows : Extends library first store last) : Intended library first id last := by
  intro content provider candidate
  obtain ⟨row, member, same⟩ := intended content provider candidate
  exact ⟨row, grows.mem_notes member, same⟩

theorem Resolved.grows {key : String} (resolved : Resolved key store)
    (grows : Extends library first store last) : Resolved key last := by
  obtain ⟨row, member, tells⟩ := resolved
  exact ⟨row, grows.mem_entries member, tells⟩

theorem Handled.grows (handled : Handled id store) (grows : Extends library first store last) :
    Handled id last := by
  rcases handled with noted | mark
  · obtain ⟨row, member, about⟩ := List.any_eq_true.1 noted
    exact .inl (List.any_eq_true.2 ⟨row, grows.mem_notes member, about⟩)
  · obtain ⟨row, member, about⟩ := List.any_eq_true.1 mark
    exact .inr (List.any_eq_true.2 ⟨row, grows.mem_entries member, about⟩)

theorem loadCutoverWatermark_course :
    Course library first who loadCutoverWatermark fun store last found =>
      Same store last ∧ cutoverOf first = .ok found := by
  refine course_bind (course_read trivial) ?_
  rintro value ⟨before, after, -, read⟩
  change value = first.metadata at read
  unfold cutoverOf
  rw [← read]
  cases value with
  | none =>
      refine course_pure ?_
      rintro between store - ⟨same, -⟩
      exact ⟨same, rfl⟩
  | some text =>
      dsimp only
      cases IntentWatermark.decode text with
      | error raised => exact course_raises
      | ok watermark =>
          change Course library first who (pure (some watermark)) _
          refine course_pure ?_
          rintro between store - ⟨same, -⟩
          exact ⟨same, rfl⟩

/-- Two reads one after the other. -/
theorem Same.trans {last : Store} (one : Same first store) (two : Same store last) :
    Same first last :=
  ⟨two.1.trans one.1, two.2.trans one.2⟩

/-- **A pass judges an item** as the tables have it. -/
theorem candidate_course :
    Course library first who (candidate library id) fun store last found =>
      Same store last ∧ judgement library first id = .ok found := by
  refine course_bind (course_read trivial) ?_
  rintro found ⟨before, after, -, read⟩
  change found = first.joined id at read
  cases found with
  | none =>
      refine course_pure ?_
      rintro between store - ⟨same, -⟩
      refine ⟨same, ?_⟩
      unfold judgement
      rw [← read]
  | some joined =>
      obtain ⟨content, source⟩ := joined
      refine course_bind loadCutoverWatermark_course ?_
      rintro cutover ⟨-, -, -, known⟩
      have judged : ∀ result, judgement library first id = result →
          Course library first who (compute result) fun between last found =>
            ∀ middle, Extends library first middle between →
              Same middle between ∧ cutoverOf first = .ok cutover →
              ∀ store, Extends library first store middle →
                Same store middle ∧ Reads first store who (.candidate id) (some (content, source)) →
                Same store last ∧ judgement library first id = .ok found := by
        intro result judges
        refine course_compute fun found returned between => ?_
        rintro middle - ⟨still, -⟩ store - ⟨same, -⟩
        exact ⟨same.trans still, judges.trans returned⟩
      have judges : judgement library first id = judgedBehind library content source cutover := by
        unfold judgement
        rw [← read]
        dsimp only
        rw [known]
        rfl
      cases cutover with
      | none => exact judged _ judges
      | some watermark =>
          rw [judgedBehind] at judges
          by_cases behind : watermark.before content.position = true
          · rw [if_pos behind] at judges
            simp only [behind, if_true]
            exact judged _ judges
          · rw [if_neg behind] at judges
            simp only [behind]
            exact judged _ judges

/-- **An intent**: the item is a candidate or not, and if it is there is a notification of its key; if
one has been made, no scan looks for the item any more. -/
theorem createIntent_course :
    Course library first who (createIntent library id) fun store last made =>
      last.entries = store.entries ∧ (∃ found, judgement library first id = .ok found) ∧
        Intended library first id last ∧ (made ≠ none → Handled id last) := by
  refine course_bind candidate_course ?_
  rintro found ⟨-, -, -, judged⟩
  cases found with
  | none =>
      refine course_pure ?_
      rintro between store - ⟨same, -⟩
      refine ⟨same.entries, ⟨_, judged⟩, fun content provider candidate => ?_, fun some => ?_⟩
      · rw [judged] at candidate
        cases candidate
      · exact absurd rfl some
  | some candidate =>
      obtain ⟨content, provider⟩ := candidate
      refine course_bind (course_read trivial) fun now _ => ?_
      refine course_mono (course_insert judged) ?_
      rintro middle last made - answers between - ⟨read, -⟩ store - ⟨same, -⟩
      have intends : ∀ row ∈ last.notes, row.dedupKey = dedupKey provider id →
          Intended library first id last := by
        intro row member named content' provider' candidate
        rw [judged] at candidate
        obtain ⟨rfl, rfl⟩ := Prod.ext_iff.1 (Option.some.inj (Except.ok.inj candidate))
        exact ⟨row, member, named⟩
      have before : middle.entries = store.entries := read.entries.trans same.entries
      rcases answers with ⟨still, rfl, row, member, named⟩ | ⟨audit, rfl, grown⟩
      · refine ⟨still.entries.trans before, ⟨_, judged⟩, intends row ?_ named,
          fun made => absurd rfl made⟩
        rw [still.notes]
        exact member
      · have member : pendingRow now middle.fresh id provider ∈ last.notes := by
          rw [grown]
          exact List.mem_append_right _ (List.mem_singleton_self _)
        refine ⟨?_, ⟨_, judged⟩, intends _ member rfl, fun _ => .inl ?_⟩
        · rw [Store.entries, audit]
          exact before
        · exact List.any_eq_true.2 ⟨_, member, by simp [pendingRow]⟩

/-- A recovery that has been gone through. -/
def Recovered (library : StandardLibrary) (first : Store) (recovery : AuditLog) (store : Store) :
    Prop :=
  Resolved recovery.key store ∧ ∀ id, recovery.targetId = some id →
    (∃ found, judgement library first id = .ok found) ∧ Intended library first id store

/-- An item that has been gone through. -/
def Scanned (library : StandardLibrary) (first : Store) (id : Uuid) (store : Store) : Prop :=
  Handled id store ∧ (∃ found, judgement library first id = .ok found) ∧
    Intended library first id store

theorem Recovered.grows {recovery : AuditLog} (recovered : Recovered library first recovery store)
    (grows : Extends library first store last) : Recovered library first recovery last :=
  ⟨recovered.1.grows grows, fun id target =>
    ⟨(recovered.2 id target).1, (recovered.2 id target).2.grows grows⟩⟩

theorem Scanned.grows (scanned : Scanned library first id store)
    (grows : Extends library first store last) : Scanned library first id last :=
  ⟨scanned.1.grows grows, scanned.2.1, scanned.2.2.grows grows⟩

/-- What is marked was marked before, or is one of these. -/
def MarksOnly (ids : List Uuid) (store last : Store) : Prop :=
  ∀ id, marked last.entries id = true → marked store.entries id = true ∨ id ∈ ids

theorem MarksOnly.of_eq (entries : last.entries = store.entries) : MarksOnly [] store last :=
  fun _ mark => .inl (entries ▸ mark)

theorem MarksOnly.trans {ids ids' : List Uuid} {middle : Store} (one : MarksOnly ids store middle)
    (two : MarksOnly ids' middle last) : MarksOnly (ids ++ ids') store last := by
  intro id mark
  rcases two id mark with before | new
  · exact (one id before).imp_right (List.mem_append_left _)
  · exact .inr (List.mem_append_right _ new)

theorem MarksOnly.of_concat {row : AuditLog} {ids : List Uuid}
    (grown : last.entries = store.entries ++ [row])
    (own : ∀ id, marks id row = true → id ∈ ids) : MarksOnly ids store last := by
  intro id mark
  obtain ⟨other, member, tells⟩ := List.any_eq_true.1 mark
  rw [grown] at member
  rcases List.mem_append.1 member with old | new
  · exact .inl (List.any_eq_true.2 ⟨other, old, tells⟩)
  · obtain rfl := List.mem_singleton.1 new
    exact .inr (own id tells)

theorem resolve_course {recovery : AuditLog} {status : String} :
    Course library first who (query (.add (resolutionEntry recovery status))) fun store last _ =>
      Resolved recovery.key last ∧ MarksOnly [] store last := by
  refine course_mono (course_add recoveryAction_ne.1.symm) ?_
  rintro store last ⟨⟩ - ⟨-, now, grown⟩
  refine ⟨⟨⟨resolutionEntry recovery status, store.fresh, now⟩, ?_, resolves_iff.2 ⟨rfl, rfl⟩⟩,
    .of_concat grown fun id tells => absurd (marks_iff.1 tells).1.symm Pass.scanAction_ne⟩
  rw [grown]
  exact List.mem_append_right _ (List.mem_singleton_self _)

theorem recover_course {recovery : AuditLog} :
    Course library first who (recover library recovery) fun store last _ =>
      Recovered library first recovery last ∧ MarksOnly [] store last := by
  unfold recover
  cases target : recovery.targetId with
  | none =>
      refine course_mono resolve_course fun store last done _ resolved =>
        ⟨⟨resolved.1, ?_⟩, resolved.2⟩
      rintro id named
      rw [target] at named
      cases named
  | some id =>
      have named : ∀ other, recovery.targetId = some other → id = other := fun other same =>
        Option.some.inj (target.symm.trans same)
      refine course_bind candidate_course ?_
      rintro found ⟨-, -, -, judged⟩
      cases found with
      | none =>
          refine course_mono resolve_course ?_
          rintro middle last ⟨⟩ _ ⟨resolved, marks⟩ store - ⟨same, -⟩
          refine ⟨⟨resolved, fun other target => ?_⟩, (MarksOnly.of_eq same.entries).trans marks⟩
          obtain rfl := named other target
          refine ⟨⟨none, judged⟩, fun content provider candidate => ?_⟩
          rw [judged] at candidate
          cases candidate
      | some candidate =>
          refine course_bind createIntent_course fun made _ => ?_
          refine course_mono resolve_course ?_
          rintro between last ⟨⟩ grows ⟨resolved, marks⟩ middle - ⟨left, sane, intended, -⟩ store -
            ⟨same, -⟩
          refine ⟨⟨resolved, fun other target => ?_⟩,
            (MarksOnly.of_eq (left.trans same.entries)).trans marks⟩
          obtain rfl := named other target
          exact ⟨sane, intended.grows grows⟩

theorem recoverEach_course {rows : List AuditLog} {report : ReconcileReport} :
    Course library first who (recoverEach library report rows) fun store last result =>
      result.scanned = report.scanned + rows.length ∧ MarksOnly [] store last ∧
        ∀ row ∈ rows, Recovered library first row last := by
  induction rows generalizing report with
  | nil =>
      exact course_pure fun store =>
        ⟨rfl, .of_eq rfl, fun _ member => absurd member List.not_mem_nil⟩
  | cons row rows ih =>
      refine course_bind recover_course fun _ _ => ?_
      refine course_mono ih ?_
      rintro middle last result grows ⟨scanned, marks, each⟩ store - ⟨recovered, marks'⟩
      refine ⟨?_, marks'.trans marks, fun other member => ?_⟩
      · rw [scanned, List.length_cons, ← Nat.add_assoc, Nat.add_right_comm]
      · rcases List.mem_cons.1 member with rfl | later
        · exact recovered.grows grows
        · exact each other later

theorem scanEach_course {ids : List Uuid} {report : ReconcileReport} :
    Course library first who (scanEach library report ids) fun store last result =>
      result.scanned = report.scanned + ids.length ∧ MarksOnly ids store last ∧
        ∀ id ∈ ids, Scanned library first id last := by
  induction ids generalizing report with
  | nil =>
      exact course_pure fun store =>
        ⟨rfl, .of_eq rfl, fun _ member => absurd member List.not_mem_nil⟩
  | cons id ids ih =>
      refine course_bind createIntent_course fun made _ => ?_
      cases made with
      | some intent =>
          refine course_mono ih ?_
          rintro middle last result grows ⟨scanned, marks, each⟩ store -
            ⟨left, sane, intended, handled⟩
          refine ⟨?_, fun other mark => ?_, fun other member => ?_⟩
          · rw [scanned, List.length_cons, ← Nat.add_assoc, Nat.add_right_comm]
          · exact ((MarksOnly.of_eq left).trans marks other mark).imp_right (List.mem_cons_of_mem _)
          · rcases List.mem_cons.1 member with rfl | later
            · exact ⟨(handled (Option.some_ne_none _)).grows grows, sane, intended.grows grows⟩
            · exact each other later
      | none =>
          refine course_bind (course_add recoveryAction_ne.2.symm) fun _ _ => ?_
          refine course_mono ih ?_
          rintro between last result grows ⟨scanned, marks, each⟩ middle added ⟨-, now, grown⟩ store -
            ⟨left, sane, intended, -⟩
          have own : MarksOnly [id] middle between := .of_concat grown fun other tells =>
            List.mem_singleton.2 (Option.some.inj (marks_iff.1 tells).2).symm
          refine ⟨?_, ((MarksOnly.of_eq left).trans own).trans marks, fun other member => ?_⟩
          · rw [scanned, List.length_cons, ← Nat.add_assoc, Nat.add_right_comm]
          · rcases List.mem_cons.1 member with rfl | later
            · have mark : Handled other between := by
                refine .inr (List.any_eq_true.2
                  ⟨⟨scannedEntry other, middle.fresh, now⟩, ?_, marks_iff.2 ⟨rfl, rfl⟩⟩)
                rw [grown]
                exact List.mem_append_right _ (List.mem_singleton_self _)
              exact ⟨mark.grows grows, sane, intended.grows (added.trans grows)⟩
            · exact each other later

end PassCourses

/-! ### The backlog -/

/-- The recoveries that a pass takes, if nobody else has locked any. -/
def pickedRecoveries (store : Store) (limit : Nat) : List AuditLog :=
  Table.pick AuditLog.key (unresolved store.entries) AuditLog.precedes limit [] store.entries

/-- The item waits for an intent. -/
def waits (store : Store) (cutover : IntentWatermark) (content : ContentRow) : Bool :=
  cutover.before content.position && !notified store.notes content.id &&
    !marked store.entries content.id &&
    (Table.find Source.id store.sources content.sourceId).any (scannable content)

/-- The items that a scan takes, if nobody else has locked any. -/
def pickedContents (store : Store) (cutover : IntentWatermark) (limit : Nat) : List ContentRow :=
  Table.pick (fun content => content.id) (waits store cutover) ContentRow.precedes limit []
    store.contents

/-- **The backlog**: the recoveries that are not resolved, and the items that wait. -/
def backlog (store : Store) (cutover : IntentWatermark) : Nat :=
  store.entries.countP (unresolved store.entries) + store.contents.countP (waits store cutover)

section Backlog

variable {library : StandardLibrary} {first store last : Store} {who limit : Nat}
  {cutover : IntentWatermark}

theorem Under.takenRecoveries (quiet : Quiet first) (under : Under first who store) :
    store.takenRecoveries who limit = pickedRecoveries store limit := by
  rw [Store.takenRecoveries, lockedBy_nil under.auditLocks,
    seen_of_rollback quiet.audit under.audit]
  rfl

theorem Under.waiting (quiet : Quiet first) (under : Under first who store) :
    store.waiting who cutover = waits store cutover := by
  funext content
  rw [Store.waiting, seen_of_rollback quiet.audit under.audit,
    seen_of_rollback quiet.notifications under.notifications]
  rfl

theorem Under.takenContents (quiet : Quiet first) (under : Under first who store) :
    store.takenContents who cutover limit = pickedContents store cutover limit := by
  rw [Store.takenContents, lockedBy_nil under.contentLocks, under.referred quiet,
    under.waiting quiet]
  rfl

theorem course_taken (quiet : Quiet first) :
    Course library first who (query (.recoveries limit)) fun store last rows =>
      Same store last ∧ rows = pickedRecoveries store limit := by
  intro store under
  have reads : Course library first who (query (.recoveries limit)) _ := course_read trivial
  refine Setting.ensuresE_mono (reads store under) ?_
  rintro - last result ⟨after, returns⟩
  refine ⟨after, fun rows same => ?_⟩
  obtain ⟨grown, left, read⟩ := returns rows same
  exact ⟨grown, left, read.trans (under.takenRecoveries quiet)⟩

theorem course_scanned (quiet : Quiet first) :
    Course library first who (query (.scan cutover limit)) fun store last ids =>
      Same store last ∧ store.contents = first.contents ∧ store.sources = first.sources ∧
        ids = (pickedContents store cutover limit).map fun content => content.id := by
  intro store under
  have reads : Course library first who (query (.scan cutover limit)) _ := course_read trivial
  refine Setting.ensuresE_mono (reads store under) ?_
  rintro - last result ⟨after, returns⟩
  refine ⟨after, fun ids same => ?_⟩
  obtain ⟨grown, left, read⟩ := returns ids same
  refine ⟨grown, left, under.contents, under.sources, read.trans ?_⟩
  rw [under.takenContents quiet]

theorem picked_same (same : Same store last) :
    pickedRecoveries last limit = pickedRecoveries store limit := by
  rw [pickedRecoveries, pickedRecoveries, same.entries]

/-- **What a pass has worked off**: the recoveries it has taken, and the items, if it has met the end of
the recoveries. -/
structure Worked (library : StandardLibrary) (first : Store) (cutover : IntentWatermark) (limit : Nat)
    (store last : Store) (scanned : Nat) (rows : List AuditLog) (middle : Store) (ids : List Uuid) :
    Prop where
  taken : rows = pickedRecoveries store limit
  recovered : ∀ row ∈ rows, Recovered library first row last
  before : Extends library first store middle
  after : Extends library first middle last
  picked : ids = [] ∧ limit ≤ rows.length ∨ rows.length < limit ∧
    middle.contents = first.contents ∧ middle.sources = first.sources ∧
      ids = (pickedContents middle cutover (limit - rows.length)).map fun content => content.id
  handled : ∀ id ∈ ids, Scanned library first id last
  marks : MarksOnly ids store last
  count : scanned = rows.length + ids.length

theorem pass_course (quiet : Quiet first) :
    Course library first who (NotificationIntentReconciler.pass library limit)
      fun store last report =>
        cutoverOf first = .ok none ∧ Same store last ∧ report = ⟨0, 0, 0⟩ ∨
          ∃ cutover rows middle ids, cutoverOf first = .ok (some cutover) ∧
            Worked library first cutover limit store last report.scanned rows middle ids := by
  refine course_bind loadCutoverWatermark_course ?_
  rintro cutover ⟨-, -, -, known⟩
  cases cutover with
  | none =>
      refine course_pure ?_
      rintro between store - ⟨same, -⟩
      exact .inl ⟨known, same, rfl⟩
  | some cutover =>
      refine course_bind (course_taken quiet) fun rows _ => ?_
      refine course_bind recoverEach_course fun report _ => ?_
      by_cases spent : limit - report.scanned = 0
      · simp only [spent, if_true]
        refine course_pure ?_
        rintro middle between grows ⟨scanned, marks, each⟩ before - ⟨same', taken⟩ store -
          ⟨same, -⟩
        rw [Nat.zero_add] at scanned
        refine .inr ⟨cutover, rows, middle, [], known, ?_, each, ?_, .refl,
          .inl ⟨rfl, Nat.sub_eq_zero_iff_le.1 (scanned ▸ spent)⟩,
          fun _ member => absurd member List.not_mem_nil, ?_, scanned⟩
        · exact taken.trans (picked_same same)
        · exact same.grows.trans (same'.grows.trans grows)
        · exact (MarksOnly.of_eq (same.trans same').entries).trans marks
      · simp only [spent, if_false]
        refine course_bind (course_scanned quiet) fun ids _ => ?_
        refine course_mono scanEach_course ?_
        rintro last' last result after ⟨total, marks, handled⟩ middle - ⟨same'', contents, sources,
          named⟩ between grows ⟨scanned, marks', each⟩ before - ⟨same', taken⟩ store - ⟨same, -⟩
        rw [Nat.zero_add] at scanned
        have onwards := same''.grows.trans after
        refine .inr ⟨cutover, rows, middle, ids, known, ?_, fun row member =>
          (each row member).grows onwards, ?_, onwards, .inr ⟨?_, contents, sources, ?_⟩, handled, ?_, ?_⟩
        · exact taken.trans (picked_same same)
        · exact same.grows.trans (same'.grows.trans grows)
        · omega
        · rw [named, scanned]
        · have first' := MarksOnly.of_eq (same.trans same').entries
          exact ((first'.trans marks').trans (MarksOnly.of_eq same''.entries)).trans marks
        · rw [total, scanned]

theorem entries_keys_nodup : (store.entries.map AuditLog.key).Nodup := by
  rw [entries, List.map_map]
  exact store.audit.distinct

/-- A recovery that was resolved stays resolved. -/
theorem Extends.unresolved (grows : Extends library first store last) {row : AuditLog}
    (left : Store.unresolved last.entries row = true) : Store.unresolved store.entries row = true := by
  rw [Store.unresolved, Bool.and_eq_true, Bool.not_eq_true', List.any_eq_false] at left ⊢
  exact ⟨left.1, fun other member => left.2 other (grows.mem_entries member)⟩

theorem Resolved.not_unresolved {row : AuditLog} (resolved : Resolved row.key store) :
    Store.unresolved store.entries row = false := by
  obtain ⟨other, member, tells⟩ := resolved
  have told : (store.entries.any fun other => other.action == resolvedAction &&
      other.actorId == some (uuidText row.id)) = true := List.any_eq_true.2 ⟨other, member, tells⟩
  rw [Store.unresolved, told]
  exact Bool.and_false _

/-- An item that did not wait does not wait now. -/
theorem Extends.waits (grows : Extends library first store last)
    (sources : last.sources = store.sources) {content : ContentRow}
    (left : waits last cutover content = true) : waits store cutover content = true := by
  simp only [Notifications.waits, Bool.and_eq_true, Bool.not_eq_true'] at left ⊢
  rw [sources] at left
  obtain ⟨⟨⟨behind, unnoted⟩, unmarked⟩, scans⟩ := left
  refine ⟨⟨⟨behind, ?_⟩, ?_⟩, scans⟩
  · rw [← Bool.not_eq_true] at unnoted ⊢
    intro noted
    obtain ⟨row, member, about⟩ := List.any_eq_true.1 noted
    exact unnoted (List.any_eq_true.2 ⟨row, grows.mem_notes member, about⟩)
  · rw [← Bool.not_eq_true] at unmarked ⊢
    intro mark
    obtain ⟨row, member, about⟩ := List.any_eq_true.1 mark
    exact unmarked (List.any_eq_true.2 ⟨row, grows.mem_entries member, about⟩)

theorem Handled.not_waits {content : ContentRow} (handled : Handled content.id store) :
    Notifications.waits store cutover content = false := by
  rw [← Bool.not_eq_true]
  intro waiting
  simp only [Notifications.waits, Bool.and_eq_true, Bool.not_eq_true'] at waiting
  obtain ⟨⟨⟨-, unnoted⟩, unmarked⟩, -⟩ := waiting
  rcases handled with noted | mark
  · rw [noted] at unnoted
    cases unnoted
  · rw [mark] at unmarked
    cases unmarked

/-- What is not resolved in the end was there before. -/
theorem Extends.countP_unresolved (grows : Extends library first store last) :
    last.entries.countP (Store.unresolved last.entries) =
      store.entries.countP (Store.unresolved last.entries) := by
  obtain ⟨added, grown, others⟩ := grows.entries
  have none : added.countP (Store.unresolved last.entries) = 0 := by
    refine List.countP_eq_zero.2 fun row member => ?_
    rw [Store.unresolved, beq_eq_false_iff_ne.2 (others row member)]
    exact Bool.false_ne_true
  calc last.entries.countP (Store.unresolved last.entries)
      = (store.entries ++ added).countP (Store.unresolved last.entries) := by rw [grown]
    _ = store.entries.countP (Store.unresolved last.entries) := by
        rw [List.countP_append, none, Nat.add_zero]

namespace Worked

variable {scanned : Nat} {rows : List AuditLog} {middle : Store} {ids : List Uuid}

/-- **What a pass has taken is gone from the backlog.** -/
theorem progress (worked : Worked library first cutover limit store last scanned rows middle ids)
    (contents : store.contents = first.contents ∧ last.contents = first.contents)
    (sources : store.sources = first.sources ∧ last.sources = first.sources) :
    backlog last cutover + scanned ≤ backlog store cutover := by
  have grows := worked.before.trans worked.after
  have recoveries : store.entries.countP (Store.unresolved last.entries) + rows.length ≤
      store.entries.countP (Store.unresolved store.entries) := by
    refine Table.countP_add_le entries_keys_nodup (List.Sublist.refl _) (fun row _ => grows.unresolved) ?_ ?_
      fun row _ took => (worked.recovered row took).1.not_unresolved
    · rw [worked.taken]
      exact fun row took => Table.mem_pick took
    · rw [worked.taken]
      exact Table.pick_nodup entries_keys_nodup
  have items : first.contents.countP (Notifications.waits last cutover) + ids.length ≤
      first.contents.countP (Notifications.waits store cutover) := by
    have fewer : ∀ content ∈ first.contents, Notifications.waits last cutover content = true →
        Notifications.waits store cutover content = true :=
      fun content _ => grows.waits (sources.2.trans sources.1.symm)
    rcases worked.picked with ⟨rfl, -⟩ | ⟨-, same, origins, rfl⟩
    · exact List.countP_mono_left fewer
    · rw [List.length_map]
      refine Table.countP_add_le first.distinct (List.Sublist.refl _) fewer (fun content took => ?_) ?_
        fun content _ took => (worked.handled content.id (List.mem_map_of_mem took)).1.not_waits
      · obtain ⟨here, waiting⟩ := Table.mem_pick took
        exact ⟨same ▸ here, worked.before.waits (origins.trans sources.1.symm) waiting⟩
      · exact Table.pick_nodup middle.distinct
  have left := grows.countP_unresolved
  have counted := worked.count
  unfold backlog
  rw [contents.1, contents.2]
  omega

/-- **A pass that was not full leaves nothing.** -/
theorem emptied (worked : Worked library first cutover limit store last scanned rows middle ids)
    (contents : last.contents = first.contents) (sources : last.sources = first.sources)
    (short : scanned < limit) : backlog last cutover = 0 := by
  have grows := worked.before.trans worked.after
  have counted := worked.count
  have recoveries : last.entries.countP (Store.unresolved last.entries) = 0 := by
    rw [grows.countP_unresolved]
    refine List.countP_eq_zero.2 fun row member left => ?_
    have taken := worked.taken
    have took : row ∈ rows := by
      rw [taken] at counted ⊢
      exact Table.mem_pick_of_lt (by unfold pickedRecoveries at counted; omega) member
        (grows.unresolved left)
    rw [(worked.recovered row took).1.not_unresolved] at left
    cases left
  have items : last.contents.countP (Notifications.waits last cutover) = 0 := by
    refine List.countP_eq_zero.2 fun content member left => ?_
    rcases worked.picked with ⟨rfl, full⟩ | ⟨-, same, origins, named⟩
    · rw [counted, List.length_nil] at short
      omega
    · have fits : (pickedContents middle cutover (limit - rows.length)).length <
          limit - rows.length := by
        rw [named, List.length_map] at counted
        omega
      have took : content ∈ pickedContents middle cutover (limit - rows.length) := by
        refine Table.mem_pick_of_lt fits ?_ (worked.after.waits (sources.trans origins.symm) left)
        rw [same, ← contents]
        exact member
      have done := worked.handled content.id (named ▸ List.mem_map_of_mem took)
      rw [done.1.not_waits] at left
      cases left
  unfold backlog
  rw [recoveries, items]

/-- An item that waits no more has been gone through, or has got a notification. -/
theorem gone (worked : Worked library first cutover limit store last scanned rows middle ids)
    (sources : last.sources = store.sources) {content : ContentRow}
    (before : Notifications.waits store cutover content = true)
    (after : Notifications.waits last cutover content = false) :
    content.id ∈ ids ∨ ∃ now fresh candidate provider,
      judgement library first content.id = .ok (some (candidate, provider)) ∧
        pendingRow now fresh content.id provider ∈ last.notes := by
  simp only [Notifications.waits, Bool.and_eq_true, Bool.not_eq_true'] at before
  obtain ⟨⟨⟨behind, unnoted⟩, unmarked⟩, scans⟩ := before
  by_cases noted : notified last.notes content.id = true
  · obtain ⟨row, member, about⟩ := List.any_eq_true.1 noted
    obtain ⟨added, grown, intents⟩ := (worked.before.trans worked.after).notes
    have inside := member
    rw [grown] at member
    rcases List.mem_append.1 member with old | new
    · rw [notified, List.any_eq_true.2 ⟨row, old, about⟩] at unnoted
      cases unnoted
    · obtain ⟨now, fresh, id, candidate, provider, judged, rfl⟩ := intents row new
      have named : id = content.id := by
        simp only [pendingRow, Bool.and_eq_true, beq_iff_eq] at about
        exact Option.some.inj about.1.1
      subst named
      exact .inr ⟨now, fresh, candidate, provider, judged, inside⟩
  · have mark : marked last.entries content.id = true := by
      rw [Bool.not_eq_true] at noted
      rw [Notifications.waits, behind, noted, sources, scans] at after
      simpa using after
    rcases worked.marks content.id mark with old | own
    · rw [old] at unmarked
      cases unmarked
    · exact .inl own

/-- **A candidate that waits no more has a notification of its key.** -/
theorem intended (worked : Worked library first cutover limit store last scanned rows middle ids)
    (sources : last.sources = store.sources) {content : ContentRow}
    (before : Notifications.waits store cutover content = true)
    (after : Notifications.waits last cutover content = false) :
    Intended library first content.id last := by
  rcases worked.gone sources before after with
    own | ⟨now, fresh, candidate, provider, judged, noted⟩
  · exact (worked.handled content.id own).2.2
  · intro other provider' judged'
    rw [judged] at judged'
    obtain ⟨rfl, rfl⟩ := Prod.ext_iff.1 (Option.some.inj (Except.ok.inj judged'))
    exact ⟨_, noted, rfl⟩

/-- An item that is picked at first waits no more, or is gone through: a pass judges it. -/
theorem judged (worked : Worked library first cutover limit store last scanned rows middle ids)
    (contents : store.contents = first.contents) (sources : store.sources = first.sources)
    (kept : last.sources = store.sources)
    (distinct : (first.contents.map fun content => content.id).Nodup) {content : ContentRow}
    (taken : content ∈ pickedContents store cutover (limit - rows.length)) :
    ∃ found, judgement library first content.id = .ok found := by
  have waiting := (Table.mem_pick taken).2
  have scans : content.id ∈ ids → ∃ found, judgement library first content.id = .ok found :=
    fun own => (worked.handled content.id own).2.1
  by_cases left : Notifications.waits last cutover content = true
  · rcases worked.picked with ⟨-, full⟩ | ⟨-, items, origins, named⟩
    · rw [Nat.sub_eq_zero_of_le full, pickedContents, Table.pick_free, List.take_zero] at taken
      exact absurd taken List.not_mem_nil
    · refine scans (named ▸ List.mem_map_of_mem ?_)
      rw [pickedContents, items, ← contents]
      refine Table.mem_pick_of_fewer (fun content => content.position.rank) (fun left right => ?_) (fun left here right there same => ?_)
        (fun other _ => worked.before.waits (origins.trans sources.symm)) taken
        (worked.after.waits (kept.trans (sources.trans origins.symm)) left)
      · rw [ContentRow.precedes, Bool.not_eq_true', IntentWatermark.not_before_iff]
      · have ids := congrArg IntentWatermark.contentItemId (IntentWatermark.rank_injective same)
        exact List.inj_on_of_nodup_map distinct (contents ▸ here) (contents ▸ there) ids
  · rcases worked.gone kept waiting (Bool.not_eq_true _ ▸ left) with own | ⟨_, _, _, _, fine, -⟩
    · exact scans own
    · exact ⟨_, fine⟩

end Worked

end Backlog

/-! ### The end of a pass -/

/-- The same notifications and entries. -/
def SameRows (store last : Store) : Prop :=
  last.notes = store.notes ∧ last.entries = store.entries

/-- **What a pass that returns has come to.** -/
structure Passed (library : StandardLibrary) (first : Store) (limit : Int) (last : Store)
    (report : ReconcileReport) : Prop where
  inside : 1 ≤ limit ∧ limit ≤ 500
  quiet : Quiet last
  contents : last.contents = first.contents
  sources : last.sources = first.sources
  metadata : last.metadata = first.metadata
  outcome : cutoverOf first = .ok none ∧ SameRows first last ∧ report = ⟨0, 0, 0⟩ ∨
    ∃ cutover rows middle ids, cutoverOf first = .ok (some cutover) ∧
      Worked library first cutover limit.toNat first last report.scanned rows middle ids

section Ends

variable {library : StandardLibrary} {first store last : Store} {who : Nat} {limit : Int}

theorem SameRows.grows (same : SameRows store last) : Extends library first store last :=
  ⟨⟨[], by rw [same.1, List.append_nil], fun _ member => absurd member List.not_mem_nil⟩,
    [], by rw [same.2, List.append_nil], fun _ member => absurd member List.not_mem_nil⟩

/-- A commit changes no row. -/
theorem sameRows_committed : SameRows store (store.committed who) :=
  ⟨Drafts.rows_commit, Drafts.rows_commit⟩

theorem Worked.same {cutover : IntentWatermark} {limit scanned : Nat} {rows : List AuditLog}
    {middle : Store} {ids : List Uuid} {final : Store}
    (worked : Worked library first cutover limit store last scanned rows middle ids)
    (same : SameRows last final) :
    Worked library first cutover limit store final scanned rows middle ids where
  taken := worked.taken
  recovered row member := (worked.recovered row member).grows same.grows
  before := worked.before
  after := worked.after.trans same.grows
  picked := worked.picked
  handled id member := (worked.handled id member).grows same.grows
  marks id mark := worked.marks id (same.2 ▸ mark)
  count := worked.count

/-- Nothing is in progress behind the commit of the only pass. -/
theorem Under.quiet_committed (quiet : Quiet first) (under : Under first who store) :
    Quiet (store.committed who) where
  notifications draft member := by
    obtain ⟨old, before, rfl⟩ := Drafts.mem_commit.1 member
    unfold Drafts.settle
    split
    · rfl
    · next foreign =>
      exact (visible_of_rollback quiet.notifications under.notifications before).resolve_right foreign
  audit draft member := by
    obtain ⟨old, before, rfl⟩ := Drafts.mem_commit.1 member
    unfold Drafts.settle
    split
    · rfl
    · next foreign =>
      exact (visible_of_rollback quiet.audit under.audit before).resolve_right foreign
  auditLocks := List.filter_eq_nil_iff.2 fun lock member => by simp [under.auditLocks lock member]
  contentLocks :=
    List.filter_eq_nil_iff.2 fun lock member => by simp [under.contentLocks lock member]
  kept := List.filter_eq_nil_iff.2 fun entry member => by simp [(under.kept entry member).1]

/-- Behind the rollback of the only pass the tables are as it has found them. -/
structure Restored (first last : Store) : Prop where
  quiet : Quiet last
  contents : last.contents = first.contents
  sources : last.sources = first.sources
  metadata : last.metadata = first.metadata
  notifications : last.notifications = first.notifications
  audit : last.audit = first.audit

theorem Under.restored (quiet : Quiet first) (under : Under first who store) :
    Restored first (store.undone who) where
  quiet := by
    refine ⟨?_, ?_, ?_, ?_, ?_⟩
    · change (store.notifications.rollback who).Calm
      rw [under.notifications]
      exact quiet.notifications
    · change (store.audit.rollback who).Calm
      rw [under.audit]
      exact quiet.audit
    · exact List.filter_eq_nil_iff.2 fun lock member => by simp [under.auditLocks lock member]
    · exact List.filter_eq_nil_iff.2 fun lock member => by simp [under.contentLocks lock member]
    · exact List.filter_eq_nil_iff.2 fun entry member => by simp [(under.kept entry member).1]
  contents := under.contents
  sources := under.sources
  metadata := under.metadata
  notifications := under.notifications
  audit := under.audit

/-- **The end of a transaction**: what its body returns is committed, or the pass raises; if the body
raises, the tables are as before. -/
theorem inTransaction_ensures (quiet : Quiet first) {α : Type} {body : Transaction α}
    {post : Store → Store → α → Prop} (course : Course library first who body post) :
    (lonely who).EnsuresE first (inTransaction body) fun _ last result =>
      (∃ middle value, Under first who middle ∧ post first middle value ∧
        ((last = middle.committed who ∧ result = .ok value) ∨ ∃ raised, result = .error raised)) ∨
      Restored first last ∧ ∃ raised, result = .error raised := by
  refine Setting.ensuresE_bind (Setting.ensuresE_attempt
    (Setting.ensuresE_mono (course first (.start quiet)) ?_))
  rintro - middle result ⟨under, returns⟩
  cases result with
  | ok value =>
      obtain ⟨-, held⟩ := returns value rfl
      refine Setting.ensuresE_bind (Setting.ensuresE_request ?_)
      rintro before reply after rfl ⟨turn, made⟩
      cases reply with
      | error raised => exact .inl ⟨middle, value, under, held, .inr ⟨raised, rfl⟩⟩
      | ok done =>
          refine Setting.ensuresE_pure (.inl ⟨middle, value, under, held, .inl ⟨?_, rfl⟩⟩)
          cases turn with
          | fault => cases made
          | lost => cases made
          | proceed now content source =>
              exact ((Prod.ext_iff.1 (Option.some.inj made)).2).symm
  | error raised =>
      refine Setting.ensuresE_bind (Setting.ensuresE_request ?_)
      rintro before reply after rfl ⟨turn, made⟩
      have restored : Restored first after := by
        cases turn with
        | lost => cases made
        | fault | proceed now content source =>
            obtain ⟨-, rfl⟩ := Prod.ext_iff.1 (Option.some.inj made)
            exact under.restored quiet
      cases reply with
      | error other => exact .inr ⟨restored, other, rfl⟩
      | ok done => exact Setting.ensures_done (.inr ⟨restored, raised, rfl⟩)

/-- **A pass alone**: if it returns, it has worked off what it has taken. -/
theorem reconcile_ensures (quiet : Quiet first) :
    (lonely who).EnsuresE first (reconcile library limit) fun _ last result =>
      ∀ report, result = .ok report → Passed library first limit last report := by
  refine Setting.ensuresE_bind (Setting.ensures_done ?_)
  cases passes : require (1 ≤ limit && limit ≤ 500) .valueError
      "notification_reconcile_limit_invalid" with
  | error raised => exact fun report same => by cases same
  | ok inside =>
      rw [require_eq_ok, Bool.and_eq_true, decide_eq_true_eq, decide_eq_true_eq] at passes
      refine Setting.ensuresE_mono (inTransaction_ensures quiet (pass_course quiet)) ?_
      rintro log last result ends report rfl
      rcases ends with ⟨middle, value, under, held, ⟨rfl, same⟩ | ⟨raised, none⟩⟩ |
        ⟨-, raised, none⟩
      · obtain rfl := Except.ok.inj same
        refine ⟨passes, under.quiet_committed quiet, under.contents, under.sources, under.metadata, ?_⟩
        rcases held with ⟨none, left, rfl⟩ | ⟨cutover, rows, between, ids, known, worked⟩
        · refine .inl ⟨none, ⟨?_, ?_⟩, rfl⟩
          · exact sameRows_committed.1.trans left.notes
          · exact sameRows_committed.2.trans left.entries
        · exact .inr ⟨cutover, rows, between, ids, known, worked.same sameRows_committed⟩
      · cases none
      · cases none

/-- The items, the sources and the watermark are the same. -/
structure SameContent (first last : Store) : Prop where
  contents : last.contents = first.contents
  sources : last.sources = first.sources
  metadata : last.metadata = first.metadata

theorem SameContent.cutoverOf (same : SameContent first last) :
    Notifications.cutoverOf last = Notifications.cutoverOf first := by
  unfold Notifications.cutoverOf
  rw [same.metadata]

theorem SameContent.judgement (same : SameContent first last) (id : Uuid) :
    Notifications.judgement library last id = Notifications.judgement library first id := by
  unfold Notifications.judgement joined
  rw [same.contents, same.sources, same.cutoverOf]

theorem Intended.same {id : Uuid} (intended : Intended library store id last)
    (same : SameContent first store) : Intended library first id last :=
  fun content provider judged => intended content provider ((same.judgement id).trans judged)

theorem Extends.same {middle : Store} (grows : Extends library store middle last)
    (same : SameContent first store) : Extends library first middle last := by
  obtain ⟨added, grown, intents⟩ := grows.notes
  refine ⟨⟨added, grown, fun row member => ?_⟩, grows.entries⟩
  obtain ⟨now, fresh, id, content, provider, judged, made⟩ := intents row member
  exact ⟨now, fresh, id, content, provider, (same.judgement id).symm.trans judged, made⟩

namespace Passed

variable {report : ReconcileReport} {cutover : IntentWatermark}

theorem same (passed : Passed library first limit last report) : SameContent first last :=
  ⟨passed.contents, passed.sources, passed.metadata⟩

theorem grows (passed : Passed library first limit last report) :
    Extends library first first last := by
  rcases passed.outcome with ⟨-, same, -⟩ | ⟨cutover, rows, middle, ids, -, worked⟩
  · exact same.grows
  · exact worked.before.trans worked.after

theorem worked (passed : Passed library first limit last report)
    (known : Notifications.cutoverOf first = .ok (some cutover)) :
    ∃ rows middle ids,
      Worked library first cutover limit.toNat first last report.scanned rows middle ids := by
  rcases passed.outcome with ⟨none, -, -⟩ | ⟨cutover', rows, middle, ids, known', worked⟩
  · rw [known] at none
    cases none
  · rw [known] at known'
    obtain rfl := Option.some.inj (Except.ok.inj known')
    exact ⟨rows, middle, ids, worked⟩

/-- **A pass works off as much as it may**, or all that there is. -/
theorem backlog_le (passed : Passed library first limit last report)
    (known : Notifications.cutoverOf first = .ok (some cutover)) :
    backlog last cutover ≤ backlog first cutover - limit.toNat := by
  obtain ⟨rows, middle, ids, worked⟩ := passed.worked known
  have progress := worked.progress ⟨rfl, passed.contents⟩ ⟨rfl, passed.sources⟩
  by_cases short : report.scanned < limit.toNat
  · rw [worked.emptied passed.contents passed.sources short]
    exact Nat.zero_le _
  · omega

end Passed

/-- **Passes one after the other**, each of them alone, that all return. -/
inductive Calls (library : StandardLibrary) : Store → List (Int × ReconcileReport) → Store → Prop where
  | nil (store : Store) : Calls library store [] store
  | cons {store middle last : Store} {who : Nat} {limit : Int} {report : ReconcileReport}
      {log : List (Entry statements Store)} {calls : List (Int × ReconcileReport)}
      (run : (lonely who).Runs store (reconcile library limit).run log middle (.ok report))
      (rest : Calls library middle calls last) : Calls library store ((limit, report) :: calls) last

/-- What passes leave, and which items they have been through. -/
theorem Calls.spec {calls : List (Int × ReconcileReport)} {cutover : IntentWatermark}
    (called : Calls library first calls last) (quiet : Quiet first)
    (known : cutoverOf first = .ok (some cutover)) :
    SameContent first last ∧ Extends library first first last ∧
      backlog last cutover ≤ backlog first cutover - (calls.map fun call => call.1.toNat).sum ∧
      ∀ content, waits first cutover content = true → waits last cutover content = false →
        Intended library first content.id last := by
  induction called with
  | nil store =>
      refine ⟨⟨rfl, rfl, rfl⟩, .refl, Nat.le_refl _, fun content before after => ?_⟩
      rw [before] at after
      cases after
  | @cons store middle last who limit report log calls run rest ih =>
      have passed := reconcile_ensures quiet log middle (.ok report) run report rfl
      obtain ⟨rows, between, ids, worked⟩ := passed.worked known
      obtain ⟨same, grows, fewer, through⟩ := ih passed.quiet (passed.same.cutoverOf.trans known)
      have onwards := grows.same passed.same
      refine ⟨⟨same.contents.trans passed.contents, same.sources.trans passed.sources,
        same.metadata.trans passed.metadata⟩, passed.grows.trans onwards, ?_,
        fun content before after => ?_⟩
      · have here := passed.backlog_le known
        rw [List.map_cons, List.sum_cons]
        omega
      · by_cases still : waits middle cutover content = true
        · exact (through content still after).same passed.same
        · rw [Bool.not_eq_true] at still
          exact (worked.intended passed.sources before still).grows onwards

/-- **Passes that are long enough together leave nothing.** Where nobody else writes, and the limits of
the passes that return add up to the backlog, no recovery is left and no item waits, and every candidate
that has waited has one notification of its key. -/
theorem reconcile_complete {calls : List (Int × ReconcileReport)} {cutover : IntentWatermark}
    (quiet : Quiet first) (known : cutoverOf first = .ok (some cutover))
    (called : Calls library first calls last)
    (enough : backlog first cutover ≤ (calls.map fun call => call.1.toNat).sum) :
    backlog last cutover = 0 ∧ ∀ content ∈ first.contents, waits first cutover content = true →
      ∀ judged provider, judgement library first content.id = .ok (some (judged, provider)) →
        last.notes.countP (fun row => row.dedupKey = dedupKey provider content.id) = 1 := by
  obtain ⟨same, -, fewer, through⟩ := called.spec quiet known
  have nothing : backlog last cutover = 0 := by omega
  refine ⟨nothing, fun content member before judged provider candidate => ?_⟩
  have after : waits last cutover content = false := by
    have none : last.contents.countP (waits last cutover) = 0 := by
      unfold backlog at nothing
      omega
    rw [← Bool.not_eq_true]
    exact List.countP_eq_zero.1 none content (same.contents ▸ member)
  obtain ⟨row, there, named⟩ := through content before after judged provider candidate
  have distinct : (last.notes.map Notification.dedupKey).Nodup := by
    rw [notes, List.map_map]
    exact last.notifications.distinct
  rw [← named]
  exact Table.countP_of_mem Notification.dedupKey distinct there

/-! ### Passes that raise -/

/-- **What stops a pass**: the watermark cannot be read, or the address of an item cannot be split that
it is to go through: that of a recovery that it takes, or one of the items that it has room for beside
its recoveries. -/
def Stopped (library : StandardLibrary) (first : Store) (limit : Nat) : Prop :=
  (∃ raised, cutoverOf first = .error raised) ∨
    (∃ cutover, cutoverOf first = .ok (some cutover) ∧
      ((∃ recovery ∈ pickedRecoveries first limit, ∃ id raised, recovery.targetId = some id ∧
          judgement library first id = .error raised) ∨
        ∃ content ∈ pickedContents first cutover (limit - (pickedRecoveries first limit).length),
          ∃ raised, judgement library first content.id = .error raised))

theorem Stopped.not_worked {limit : Nat} {middle between : Store} {cutover : IntentWatermark}
    {scanned : Nat} {rows : List AuditLog} {ids : List Uuid}
    (stopped : Stopped library first limit) (known : cutoverOf first = .ok (some cutover))
    (worked : Worked library first cutover limit first middle scanned rows between ids)
    (sources : middle.sources = first.sources) : False := by
  rcases stopped with ⟨raised, unread⟩ | ⟨cutover', known', poison⟩
  · rw [known] at unread
    cases unread
  · rw [known] at known'
    obtain rfl := Option.some.inj (Except.ok.inj known')
    rcases poison with ⟨recovery, took, id, raised, target, refused⟩ |
      ⟨content, took, raised, refused⟩
    · obtain ⟨⟨found, fine⟩, -⟩ := (worked.recovered recovery (worked.taken ▸ took)).2 id target
      rw [refused] at fine
      cases fine
    · obtain ⟨found, fine⟩ := worked.judged rfl rfl sources first.distinct (worked.taken ▸ took)
      rw [refused] at fine
      cases fine

/-- A pass that is stopped raises, and does nothing. -/
theorem reconcile_raises (quiet : Quiet first) (stopped : Stopped library first limit.toNat) :
    (lonely who).EnsuresE first (reconcile library limit) fun _ last result =>
      Restored first last ∧ ∃ raised, result = .error raised := by
  refine Setting.ensuresE_bind (Setting.ensures_done ?_)
  cases require (1 ≤ limit && limit ≤ 500) .valueError "notification_reconcile_limit_invalid" with
  | error raised => exact ⟨⟨quiet, rfl, rfl, rfl, rfl, rfl⟩, raised, rfl⟩
  | ok inside =>
      refine Setting.ensuresE_mono (inTransaction_ensures quiet (pass_course quiet)) ?_
      rintro log last result (⟨middle, value, under, held, -⟩ | restored)
      · rcases held with ⟨none, -, -⟩ | ⟨cutover, rows, between, ids, known, worked⟩
        · rcases stopped with ⟨raised, unread⟩ | ⟨cutover, known, -⟩
          · rw [none] at unread
            cases unread
          · rw [none] at known
            cases known
        · exact (stopped.not_worked known worked under.sources).elim
      · exact restored

theorem Restored.same (restored : Restored first last) : SameContent first last :=
  ⟨restored.contents, restored.sources, restored.metadata⟩

/-- What stops a pass stops the next one. -/
theorem Stopped.restored {limit : Nat} (stopped : Stopped library first limit)
    (restored : Restored first last) : Stopped library last limit := by
  have same := restored.same
  have entries : last.entries = first.entries := by
    rw [Store.entries, restored.audit]
    rfl
  have waiting : ∀ cutover, waits last cutover = waits first cutover := by
    intro cutover
    funext content
    unfold waits
    rw [entries, Store.notes, restored.notifications, restored.sources]
    rfl
  unfold Stopped at stopped ⊢
  simp only [same.cutoverOf, same.judgement, pickedRecoveries, pickedContents, entries, waiting,
    restored.contents] at stopped ⊢
  exact stopped

/-- Passes one after the other, each of them alone, however they end. -/
inductive Attempts (library : StandardLibrary) :
    Store → List (Int × Result ReconcileReport) → Store → Prop where
  | nil (store : Store) : Attempts library store [] store
  | cons {store middle last : Store} {who : Nat} {limit : Int} {result : Result ReconcileReport}
      {log : List (Entry statements Store)} {attempts : List (Int × Result ReconcileReport)}
      (run : (lonely who).Runs store (reconcile library limit).run log middle result)
      (rest : Attempts library middle attempts last) :
      Attempts library store ((limit, result) :: attempts) last

/-- **What stops a pass stops the next one.** Where nobody else writes, and something stops each of the
passes, all of them raise, and the tables stay as they are: no recovery is resolved, and none of the
items gets its intent. -/
theorem reconcile_stuck {attempts : List (Int × Result ReconcileReport)} (quiet : Quiet first)
    (attempted : Attempts library first attempts last)
    (stopped : ∀ attempt ∈ attempts, Stopped library first attempt.1.toNat) :
    Restored first last ∧ ∀ attempt ∈ attempts, ∃ raised, attempt.2 = .error raised := by
  induction attempted with
  | nil store =>
      exact ⟨⟨quiet, rfl, rfl, rfl, rfl, rfl⟩, fun _ member => absurd member List.not_mem_nil⟩
  | @cons store middle last who limit result log attempts run rest ih =>
      obtain ⟨restored, raises⟩ := reconcile_raises quiet
        (stopped (limit, result) List.mem_cons_self) log middle result run
      obtain ⟨restored', others⟩ := ih restored.quiet fun attempt member =>
        (stopped attempt (List.mem_cons_of_mem _ member)).restored restored
      refine ⟨⟨restored'.quiet, restored'.contents.trans restored.contents,
        restored'.sources.trans restored.sources, restored'.metadata.trans restored.metadata,
        restored'.notifications.trans restored.notifications,
        restored'.audit.trans restored.audit⟩, fun attempt member => ?_⟩
      rcases List.mem_cons.1 member with rfl | later
      · exact raises
      · exact others attempt later

end Ends

/-! ### Two passes -/

/-- How a program ends that is answered along these turns, and what it leaves. -/
def along {α : Type} (who : Nat) : Program statements α → Store → List Turn → Option (α × Store)
  | .done value, store, [] => some (value, store)
  | .call statement next, store, turn :: turns =>
      (execute store who statement turn).bind fun answered =>
        along who (next answered.1) answered.2 turns
  | _, _, _ => none

theorem runs_of_along {α : Type} {who : Nat} {program : Program statements α} {store last : Store}
    {turns : List Turn} {value : α} (ends : along who program store turns = some (value, last)) :
    ∃ log, (lonely who).Runs store program log last value := by
  induction program generalizing store turns with
  | done result =>
      cases turns with
      | nil =>
          obtain ⟨rfl, rfl⟩ := Prod.ext_iff.1 (Option.some.inj ends)
          exact ⟨[], .done⟩
      | cons turn turns => cases ends
  | call statement next ih =>
      cases turns with
      | nil => cases ends
      | cons turn turns =>
          obtain ⟨answered, made, rest⟩ := Option.bind_eq_some_iff.1 ends
          obtain ⟨log, run⟩ := ih _ rest
          exact ⟨_, .call rfl ⟨turn, made⟩ run⟩

/-- One pass over the two articles, with nothing to fail. -/
theorem oil_passes : ∃ last, Calls quietLibrary oilStore [(10, ⟨1, 1, 0⟩)] last := by
  have goes : ((along 0 (reconcile quietLibrary 10).run oilStore
      (List.replicate 8 (.proceed 5 false false))).any fun ended =>
        ended.1.toOption == some ⟨1, 1, 0⟩) = true := by
    decide +kernel
  obtain ⟨ended, same, returned⟩ := (Option.any_eq_true _ _).1 goes
  obtain ⟨result, last⟩ := ended
  obtain ⟨log, run⟩ := runs_of_along same
  cases result with
  | error raised => cases returned
  | ok report =>
      obtain rfl := Option.some.inj (eq_of_beq returned)
      exact ⟨last, .cons run (.nil last)⟩

theorem reconcile_complete_oil : ∃ last, Calls quietLibrary oilStore [(10, ⟨1, 1, 0⟩)] last ∧
    backlog oilStore ⟨0, 1⟩ = 1 ∧ backlog last ⟨0, 1⟩ = 0 ∧
    last.notes.countP (fun row => row.dedupKey = dedupKey "marketaux" 2) = 1 := by
  have known : cutoverOf oilStore = .ok (some ⟨0, 1⟩) := by decide +kernel
  obtain ⟨last, called⟩ := oil_passes
  obtain ⟨nothing, notified⟩ := reconcile_complete oilStore_quiet known called (by decide +kernel)
  refine ⟨last, called, by decide +kernel, nothing, ?_⟩
  exact notified (oilItem 2 1) (by decide) (by decide +kernel) (oilItem 2 1) "marketaux" (by decide +kernel)

/-- A library that does not split an address with an open bracket. -/
def strictLibrary : StandardLibrary :=
  { quietLibrary with
    urlsplit := fun value =>
      if value = "https://[" then raise .valueError "Invalid IPv6 URL"
      else quietLibrary.urlsplit value }

/-- An article with such an address. -/
def brokenItem : ContentRow := { oilItem 2 1 with canonicalUrl := some "https://[" }

/-- A recovery of no item. -/
def lostRecovery : AuditLog :=
  ⟨⟨"system", none, recoveryAction, "content_item", none, []⟩, 9, 0⟩

/-- It is behind the watermark, and another article is behind it; a recovery is not resolved. -/
def stuckStore : Store :=
  { oilStore with
    contents := [oilItem 1 0, brokenItem, oilItem 3 2]
    audit := ⟨[⟨lostRecovery, none, true⟩], List.nodup_singleton _⟩
    distinct := by decide }

/-- Two passes take the recovery, and come to the address: the recovery is not resolved, and the other
article waits. -/
theorem reconcile_stuck_oil : ∃ last one two,
    Attempts strictLibrary stuckStore [(10, one), (2, two)] last ∧ Restored stuckStore last ∧
      (∃ raised, one = .error raised) ∧ (∃ raised, two = .error raised) ∧
      pickedRecoveries last 10 = [lostRecovery] ∧ waits last ⟨0, 1⟩ (oilItem 3 2) = true := by
  have goes : ((along 0 (reconcile strictLibrary 10).run stuckStore
      (List.replicate 7 (.proceed 5 false false))).bind fun ended =>
        along 0 (reconcile strictLibrary 2).run ended.2
          (List.replicate 7 (.proceed 5 false false))).isSome = true := by
    decide +kernel
  obtain ⟨⟨two, last⟩, ended⟩ := Option.isSome_iff_exists.1 goes
  obtain ⟨⟨one, middle⟩, first, second⟩ := Option.bind_eq_some_iff.1 ended
  obtain ⟨log, run⟩ := runs_of_along first
  obtain ⟨log', run'⟩ := runs_of_along second
  have attempted : Attempts strictLibrary stuckStore [(10, one), (2, two)] last :=
    .cons run (.cons run' (.nil last))
  have known : cutoverOf stuckStore = .ok (some ⟨0, 1⟩) := by decide +kernel
  have judged : judgement strictLibrary stuckStore brokenItem.id =
      .error ⟨.valueError, "Invalid IPv6 URL"⟩ := by decide +kernel
  have quiet : Quiet stuckStore :=
    ⟨oilStore_quiet.notifications, fun draft member => by
      obtain rfl := List.mem_singleton.1 member
      rfl, rfl, rfl, rfl⟩
  have reaches : ∀ limit ∈ [10, 2], brokenItem ∈ pickedContents stuckStore ⟨0, 1⟩
      (limit - (pickedRecoveries stuckStore limit).length) := by decide +kernel
  have stopped : ∀ limit ∈ [10, 2], Stopped strictLibrary stuckStore limit := fun limit member =>
    .inr ⟨⟨0, 1⟩, known, .inr ⟨brokenItem, reaches limit member, _, judged⟩⟩
  obtain ⟨restored, raises⟩ := reconcile_stuck quiet attempted fun attempt member => by
    rcases List.mem_cons.1 member with rfl | later
    · exact stopped 10 (by decide)
    · obtain rfl := List.mem_singleton.1 later
      exact stopped 2 (by decide)
  refine ⟨last, one, two, attempted, restored, raises _ List.mem_cons_self,
    raises _ (List.mem_cons_of_mem _ List.mem_cons_self), ?_, ?_⟩
  · have taken : pickedRecoveries stuckStore 10 = [lostRecovery] := by decide +kernel
    rw [← taken, pickedRecoveries, pickedRecoveries, Store.entries, restored.audit]
    rfl
  · have waiting : waits stuckStore ⟨0, 1⟩ (oilItem 3 2) = true := by decide +kernel
    unfold waits at waiting ⊢
    rw [Store.entries, Store.notes, restored.notifications, restored.audit, restored.sources]
    exact waiting

end NewsCollect.Notifications
