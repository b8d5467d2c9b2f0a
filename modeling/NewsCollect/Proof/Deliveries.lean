/-
**Sent once, and attempted five times at most.**

A worker has a batch in hand from its claim on; an item leaves its hand when it is booked. Nothing
but the age of a row keeps a second worker from claiming what a first one still has in hand, and
nothing is booked of a worker that is lost between the transport and the booking.

* `discipline`: the phases of a worker, which end with the batch.
* `Held`: what is in hand is being sent, and is in one hand.
* `accepted_once`: where no claim takes what is in hand and every acceptance is booked, a message is
  accepted once.
* `attempts_bounded`: where no claim takes what is in hand and every attempt is booked, there are at
  most `maxAttempts` of them.
-/

import NewsCollect.Notifications.Delivery

namespace NewsCollect.Notifications

open Calendar Interleaving
open Collection (Uuid)

/-! ### The phases of a worker -/

/-- What has become of the first item in hand. -/
inductive Stage where
  | claimed
  | handed
  | accepted
deriving DecidableEq

/-- What a worker has in hand. -/
structure Batch where
  stage : Stage
  rows : List (Uuid × Option Uuid)

namespace Batch

def ids (batch : Batch) : List Uuid := batch.rows.map Prod.fst

/-- The item that is next. -/
def head (batch : Batch) : Option Uuid := batch.ids.head?

/-- What is left once the next item has been booked. -/
def rest (batch : Batch) : Batch := ⟨.claimed, batch.rows.tail⟩

/-- The next item has been handed over, and answered like this. -/
def answered (batch : Batch) : Result Int → Batch
  | .ok status => ⟨if isSuccess status then .accepted else .handed, batch.rows⟩
  | .error _ => ⟨.handed, batch.rows⟩

/-- The operations of a worker with a batch. -/
def allowed (batch : Batch) : Op → Prop
  | .byContentIds _ => batch.stage = .claimed
  | .send id _ _ => batch.stage = .claimed ∧ batch.head = some id
  | .fail id _ => batch.stage ≠ .accepted ∧ batch.head = some id
  | .sent id => batch.stage = .accepted ∧ batch.head = some id
  | _ => False

end Batch

inductive Phase where
  | arriving
  | holding (batch : Batch)
  | concluded

/-- The operations a phase allows. -/
def Phase.allowed : Phase → Op → Prop
  | .arriving, .now | .arriving, .claim .. => True
  | .holding batch, op => batch.allowed op
  | _, _ => False

/-- The phase a reply leads to. An exception of the transport is an answer; any other ends the
worker. -/
def Phase.next : Phase → (op : Op) → Result (Answer op) → Phase
  | .arriving, .now, .ok _ => .arriving
  | .arriving, .claim .., .ok rows => .holding ⟨.claimed, rows⟩
  | .holding batch, .byContentIds _, .ok _ => .holding batch
  | .holding batch, .send .., reply => .holding (batch.answered reply)
  | .holding batch, .fail .., .ok _ => .holding batch.rest
  | .holding batch, .sent .., .ok _ => .holding batch.rest
  | _, _, _ => .concluded

def protocol : Protocol signature Phase where
  allowed := Phase.allowed
  next phase op reply := phase.next op reply

section Follows

variable {credential : TelegramRuntimeCredential} {row : Uuid × Option Uuid}
  {rows : List (Uuid × Option Uuid)} {tally : Tally}

/-- The phase after the first item of a batch. -/
def Done (rows : List (Uuid × Option Uuid)) (phase : Phase) : Result Tally → Prop
  | .ok _ => phase = .holding ⟨.claimed, rows⟩
  | .error _ => True

theorem booked_follows {stage : Stage} {code : String} (open' : stage ≠ .accepted) :
    protocol.FollowsE (.holding ⟨stage, row :: rows⟩) (booked row.1 code tally) (Done rows) := by
  refine Protocol.followsE_request_bind ⟨open', rfl⟩ ?_ fun _ => trivial
  exact fun _ => Protocol.followsE_pure rfl

theorem sendItem_follows {items : List ProviderDisplayItem} :
    protocol.FollowsE (.holding ⟨.claimed, row :: rows⟩) (sendItem credential row.1 items)
      fun phase outcome =>
        match outcome with
        | .ok _ => phase = .holding ⟨.accepted, row :: rows⟩
        | .error _ => ∃ stage, stage ≠ .accepted ∧ phase = .holding ⟨stage, row :: rows⟩ := by
  refine Protocol.followsE_bind (Protocol.followsE_compute ?_)
  cases format items with
  | error raised => exact ⟨.claimed, by decide, rfl⟩
  | ok message =>
      refine Protocol.followsE_request_bind ⟨rfl, rfl⟩ ?_ fun _ => ⟨.handed, by decide, rfl⟩
      intro status
      refine Protocol.followsE_compute ?_
      by_cases success : isSuccess status = true
      · simp [success, protocol, Phase.next, Batch.answered]
      · simp [require, success, protocol, Phase.next, Batch.answered]

theorem itemsOf_follows {content : Option Uuid} :
    protocol.FollowsE (.holding ⟨.claimed, row :: rows⟩) (itemsOf content)
      fun phase outcome => ∀ items, outcome = .ok items →
        phase = .holding ⟨.claimed, row :: rows⟩ := by
  cases content with
  | none => exact Protocol.followsE_pure fun _ _ => rfl
  | some contentId =>
      refine Protocol.followsE_request rfl ?_
      rintro _ items rfl
      rfl

theorem deliverItem_follows :
    protocol.FollowsE (.holding ⟨.claimed, row :: rows⟩) (deliverItem credential tally row)
      (Done rows) := by
  refine Protocol.followsE_bind (Protocol.followsE_mono itemsOf_follows ?_)
  rintro phase (raised | items) reached
  · trivial
  · obtain rfl := reached items rfl
    dsimp only
    split
    · exact booked_follows (by decide)
    · refine Protocol.followsE_bind (Protocol.followsE_attempt
        (Protocol.followsE_mono sendItem_follows ?_))
      rintro phase (raised | _) reached
      · obtain ⟨stage, open', rfl⟩ := reached
        exact booked_follows open'
      · obtain rfl : phase = .holding ⟨.accepted, row :: rows⟩ := reached
        refine Protocol.followsE_request_bind ⟨rfl, rfl⟩ ?_ fun _ => trivial
        exact fun _ => Protocol.followsE_pure rfl

theorem deliverAll_follows :
    protocol.FollowsE (.holding ⟨.claimed, rows⟩) (deliverAll credential tally rows)
      fun _ _ => True := by
  induction rows generalizing tally with
  | nil => exact Protocol.followsE_pure trivial
  | cons row rows ih =>
      refine Protocol.followsE_bind (Protocol.followsE_mono deliverItem_follows ?_)
      rintro phase (raised | tally) reached
      · trivial
      · obtain rfl : phase = .holding ⟨.claimed, rows⟩ := reached
        exact ih

theorem deliver_follows {job : Job} :
    protocol.FollowsE .arriving (deliver job.credential job.limit) fun _ _ => True := by
  unfold deliver
  split
  · exact Protocol.followsE_throw trivial
  · cases job.credential with
    | none => exact Protocol.followsE_pure trivial
    | some credential =>
        refine Protocol.followsE_request_bind trivial ?_ fun _ => trivial
        intro now
        refine Protocol.followsE_request_bind trivial ?_ fun _ => trivial
        intro later
        refine Protocol.followsE_request_bind trivial ?_ fun _ => trivial
        intro rows
        refine Protocol.followsE_bind (Protocol.followsE_mono deliverAll_follows ?_)
        rintro phase (raised | tally) -
        · trivial
        · exact Protocol.followsE_pure trivial

end Follows

/-- **The discipline of the workers.** -/
def discipline : Discipline deliveries Phase where
  toProtocol := protocol
  initial _ := .arriving
  finished _ _ := True
  adheres _ := deliver_follows

/-! ### What is in hand -/

/-- A worker has this item in hand. -/
def Holds (phases : Nat → Option Phase) (who : Nat) (id : Uuid) : Prop :=
  ∃ batch, phases who = some (.holding batch) ∧ id ∈ batch.ids

/-- A worker has this item in hand as the next one, in one of these stages. -/
def InFlight (stages : Stage → Prop) (phases : Nat → Option Phase) (id : Uuid) : Prop :=
  ∃ who batch, phases who = some (.holding batch) ∧ stages batch.stage ∧ batch.head = some id

/-- No claim takes what is in hand. -/
def Exclusive : discipline.Guard := fun state phases move =>
  match move with
  | .work _ (.claim now stale limit) (.locked locked) =>
      ∀ row ∈ selected state.notifications now stale limit locked, ∀ who, ¬Holds phases who row.id
  | _ => True

/-- No worker is lost, by a crash or by a transaction that fails, in a stage that has to be
booked. -/
def Booking (mustBook : Stage → Prop) : discipline.Guard := fun _ phases move =>
  match move with
  | .work who _ .fault | .crash who =>
      ∀ batch, phases who = some (.holding batch) → ¬mustBook batch.stage
  | _ => True

/-- No worker is lost at all. -/
def Unbroken : discipline.Guard := fun _ _ move =>
  match move with
  | .work _ _ .fault | .crash _ => False
  | _ => True

theorem Unbroken.booking {state : Delivery} {phases : Nat → Option Phase}
    {move : Move signature Choice Job Happening} (unbroken : Unbroken state phases move)
    (mustBook : Stage → Prop) : Booking mustBook state phases move := by
  cases move with
  | work who op choice =>
      cases choice with
      | fault => exact unbroken.elim
      | _ => trivial
  | crash who => exact unbroken.elim
  | _ => trivial

/-- **Careful moves.** -/
def Careful (mustBook : Stage → Prop) : discipline.Guard := fun state phases move =>
  Exclusive state phases move ∧ Booking mustBook state phases move

/-- The batch of a claim. -/
def batchOf (taken : List Notification) : Batch :=
  ⟨.claimed, taken.map fun row => (row.id, row.contentItemId)⟩

/-- **What a move does.** -/
inductive Change (state : Delivery) (phases : Nat → Option Phase) :
    Move signature Choice Job Happening → Delivery → (Nat → Option Phase) → Prop where
  | claims (who : Nat) (now stale : Int) (limit : Nat) (locked : List Uuid)
      (arrives : phases who = some .arriving) :
      Change state phases (.work who (.claim now stale limit) (.locked locked))
        { state with
          notifications := claim state.notifications now
            (selected state.notifications now stale limit locked) }
        (Function.update phases who
          (some (.holding (batchOf (selected state.notifications now stale limit locked)))))
  | hands (who : Nat) (batch : Batch) (id : Uuid) (credential : TelegramRuntimeCredential)
      (message : String) (answer : Result Int) (held : phases who = some (.holding batch))
      (unsent : batch.stage = .claimed) (next : batch.head = some id) :
      Change state phases (.work who (.send id credential message) (.answer answer))
        (state.handOver id answer)
        (Function.update phases who (some (.holding (batch.answered answer))))
  | fails (who : Nat) (batch : Batch) (id : Uuid) (code : String)
      (held : phases who = some (.holding batch)) (refused : batch.stage ≠ .accepted)
      (next : batch.head = some id) :
      Change state phases (.work who (.fail id code) .proceed)
        { state with notifications := fail state.notifications state.now id code }
        (Function.update phases who (some (.holding batch.rest)))
  | books (who : Nat) (batch : Batch) (id : Uuid) (held : phases who = some (.holding batch))
      (accepted : batch.stage = .accepted) (next : batch.head = some id) :
      Change state phases (.work who (.sent id) .proceed)
        { state with notifications := sent state.notifications state.now id }
        (Function.update phases who (some (.holding batch.rest)))
  | intends (id contentItemId : Uuid) (provider : String)
      (unused : state.notification id = none) :
      Change state phases (.env (.intend id contentItemId provider))
        { state with
          notifications :=
            createPendingIntent state.notifications state.now id contentItemId provider } phases
  | passes (move : Move signature Choice Job Happening) (state' : Delivery)
      (phases' : Nat → Option Phase) (rows : state'.notifications = state.notifications)
      (handed : state'.handed = state.handed) (accepted : state'.accepted = state.accepted)
      (fewer : ∀ who batch, phases' who = some (.holding batch) →
        phases who = some (.holding batch))
      (flying : ∀ stages, Booking stages state phases move → ∀ id, InFlight stages phases id →
        InFlight stages phases' id) :
      Change state phases move state' phases'

section Change

variable {state state' : Delivery} {phases phases' : Nat → Option Phase}
  {move : Move signature Choice Job Happening}

/-- A worker that goes on to a phase with no other batch. -/
theorem passes_update {who : Nat} {phase : Phase}
    (kept : ∀ batch, phase = .holding batch → phases who = some (.holding batch))
    (booked : ∀ stages, Booking stages state phases move → ∀ batch,
      phases who = some (.holding batch) → phase ≠ .holding batch → ¬stages batch.stage)
    (rows : state'.notifications = state.notifications) (handed : state'.handed = state.handed)
    (accepted : state'.accepted = state.accepted) :
    Change state phases move state' (Function.update phases who (some phase)) := by
  refine .passes _ _ _ rows handed accepted ?_ ?_
  · intro other batch held
    by_cases same : other = who
    · subst same
      rw [Function.update_self] at held
      exact kept batch (Option.some.inj held)
    · rwa [Function.update_of_ne same] at held
  · rintro stages booking id ⟨other, batch, held, stage, next⟩
    refine ⟨other, batch, ?_, stage, next⟩
    by_cases same : other = who
    · subst same
      rw [Function.update_self]
      by_contra different
      exact booked stages booking batch held (fun same => different (congrArg some same)) stage
    · rwa [Function.update_of_ne same]

/-- A worker that is answered by an exception is lost. -/
theorem passes_lost {who : Nat} {op : Op} :
    Change state phases (.work who op .fault) state
      (Function.update phases who (some .concluded)) :=
  passes_update nofun (fun _ booking batch held _ => booking batch held) rfl rfl rfl

/-- **Every move is one of these.** -/
theorem change_of_stepped (stepped : discipline.Stepped state phases move state' phases') :
    Change state phases move state' phases' := by
  cases stepped with
  | work who op choice bound allowed executed =>
      rename_i phase reply
      cases op with
      | now =>
          cases choice with
          | proceed =>
              obtain ⟨rfl, rfl⟩ := Prod.mk.inj (Option.some.inj executed)
              cases phase with
              | arriving => exact passes_update nofun (by simp [bound]) rfl rfl rfl
              | holding batch => exact allowed.elim
              | concluded => exact allowed.elim
          | _ => cases executed
      | claim now stale limit =>
          cases phase with
          | arriving =>
              cases choice with
              | locked locked =>
                  obtain ⟨rfl, rfl⟩ := Prod.mk.inj (Option.some.inj executed)
                  exact .claims who now stale limit locked bound
              | fault =>
                  obtain ⟨rfl, rfl⟩ := Prod.mk.inj (Option.some.inj executed)
                  exact passes_lost
              | _ => cases executed
          | holding batch => exact allowed.elim
          | concluded => exact allowed.elim
      | byContentIds ids =>
          cases phase with
          | arriving => exact allowed.elim
          | holding batch =>
              cases choice with
              | proceed =>
                  obtain ⟨rfl, rfl⟩ := Prod.mk.inj (Option.some.inj executed)
                  refine passes_update (fun _ same => Phase.holding.inj same ▸ bound) ?_ rfl rfl rfl
                  intro stages booking other held different
                  obtain rfl : batch = other := by simpa [bound] using held
                  exact absurd rfl different
              | fault =>
                  obtain ⟨rfl, rfl⟩ := Prod.mk.inj (Option.some.inj executed)
                  exact passes_lost
              | _ => cases executed
          | concluded => exact allowed.elim
      | send id credential message =>
          cases phase with
          | arriving => exact allowed.elim
          | holding batch =>
              cases choice with
              | answer result =>
                  obtain ⟨rfl, rfl⟩ := Prod.mk.inj (Option.some.inj executed)
                  exact .hands who batch id credential message result bound allowed.1 allowed.2
              | _ => cases executed
          | concluded => exact allowed.elim
      | fail id code =>
          cases phase with
          | arriving => exact allowed.elim
          | holding batch =>
              cases choice with
              | proceed =>
                  obtain ⟨rfl, rfl⟩ := Prod.mk.inj (Option.some.inj executed)
                  exact .fails who batch id code bound allowed.1 allowed.2
              | fault =>
                  obtain ⟨rfl, rfl⟩ := Prod.mk.inj (Option.some.inj executed)
                  exact passes_lost
              | _ => cases executed
          | concluded => exact allowed.elim
      | sent id =>
          cases phase with
          | arriving => exact allowed.elim
          | holding batch =>
              cases choice with
              | proceed =>
                  obtain ⟨rfl, rfl⟩ := Prod.mk.inj (Option.some.inj executed)
                  exact .books who batch id bound allowed.1 allowed.2
              | fault =>
                  obtain ⟨rfl, rfl⟩ := Prod.mk.inj (Option.some.inj executed)
                  exact passes_lost
              | _ => cases executed
          | concluded => exact allowed.elim
  | crash who bound =>
      refine .passes _ _ _ rfl rfl rfl ?_ ?_
      · intro other batch held
        by_cases same : other = who
        · subst same
          simp at held
        · rwa [Function.update_of_ne same] at held
      · rintro stages booking id ⟨other, batch, held, stage, next⟩
        refine ⟨other, batch, ?_, stage, next⟩
        by_cases same : other = who
        · subst same
          exact absurd stage (booking batch held)
        · rwa [Function.update_of_ne same]
  | start who job free accepted =>
      obtain rfl := Option.some.inj accepted
      exact passes_update nofun (by simp [free]) rfl rfl rfl
  | env action acted =>
      cases action with
      | tick elapsed =>
          obtain rfl := Option.some.inj acted
          exact .passes _ _ _ rfl rfl rfl (fun _ _ held => held) fun _ _ _ flies => flies
      | publish feed =>
          obtain rfl := Option.some.inj acted
          exact .passes _ _ _ rfl rfl rfl (fun _ _ held => held) fun _ _ _ flies => flies
      | intend id contentItemId provider =>
          simp only [deliveries, happen] at acted
          split at acted
          · next unused =>
            obtain rfl := Option.some.inj acted
            exact .intends id contentItemId provider (Option.isNone_iff_eq_none.1 unused)
          · cases acted

end Change

/-! ### What is in hand is being sent -/

section Selected

variable {rows : List Notification} {now stale : Int} {limit : Nat} {locked : List Uuid}
  {row : Notification}

theorem mem_selected (taken : row ∈ selected rows now stale limit locked) :
    row ∈ rows ∧ claimable now stale row = true :=
  Table.mem_pick taken

/-- A row that is taken is being sent. -/
theorem find_claim_taken (distinct : (rows.map Notification.id).Nodup)
    (taken : row ∈ selected rows now stale limit locked) :
    Table.find Notification.id (claim rows now (selected rows now stale limit locked)) row.id =
      some (claimedRow now row) :=
  Table.find_modifyEach_taken (fun _ => rfl)
    (Table.find_of_mem _ distinct (mem_selected taken).1) (List.mem_map_of_mem taken)

/-- A row that is not taken stays as it is. -/
theorem find_claim_left {id : Uuid} {taken : List Notification} (left : id ∉ taken.map (·.id)) :
    Table.find Notification.id (claim rows now taken) id = Table.find Notification.id rows id :=
  Table.find_modifyEach_left (fun _ => rfl) left

theorem map_id_claim (taken : List Notification) :
    (claim rows now taken).map Notification.id = rows.map Notification.id :=
  Table.map_key_modifyEach fun _ => rfl

theorem failedRow_id (code : String) (row : Notification) : (failedRow now code row).id = row.id := by
  unfold failedRow
  split <;> rfl

theorem sentRow_id (row : Notification) : (sentRow now row).id = row.id := by
  unfold sentRow
  split <;> rfl

theorem batchOf_ids (taken : List Notification) : (batchOf taken).ids = taken.map (·.id) := by
  simp [batchOf, Batch.ids]

end Selected

/-- **What is in hand is being sent, and in one hand.** -/
structure Held (state : Delivery) (phases : Nat → Option Phase) : Prop where
  distinct : (state.notifications.map Notification.id).Nodup
  sending : ∀ who id, Holds phases who id → ∃ row, state.notification id = some row ∧
    row.status = .sending ∧ row.retryCount < maxAttempts
  once : ∀ who batch, phases who = some (.holding batch) → batch.ids.Nodup
  alone : ∀ who other id, Holds phases who id → Holds phases other id → who = other

section Held

variable {state state' : Delivery} {phases phases' : Nat → Option Phase}
  {move : Move signature Choice Job Happening} {who : Nat} {batch : Batch} {id : Uuid}

theorem holds_head (held : phases who = some (.holding batch)) (next : batch.head = some id) :
    Holds phases who id :=
  ⟨batch, held, List.mem_of_mem_head? (Option.mem_def.2 next)⟩

/-- What is in hand after a worker has gone on to another batch. -/
theorem holds_update {other : Nat} {after : Batch}
    (holds : Holds (Function.update phases who (some (.holding after))) other id) :
    other = who ∧ id ∈ after.ids ∨ other ≠ who ∧ Holds phases other id := by
  obtain ⟨held, told, member⟩ := holds
  by_cases same : other = who
  · subst same
    rw [Function.update_self] at told
    obtain rfl : after = held := by simpa using told
    exact .inl ⟨rfl, member⟩
  · rw [Function.update_of_ne same] at told
    exact .inr ⟨same, held, told, member⟩

theorem ids_rest (next : batch.head = some id) : batch.ids = id :: batch.rest.ids := by
  obtain ⟨stage, rows⟩ := batch
  cases rows with
  | nil => simp [Batch.head, Batch.ids] at next
  | cons row rows =>
      obtain rfl : row.1 = id := by simpa [Batch.head, Batch.ids] using next
      rfl

theorem ids_answered (batch : Batch) (answer : Result Int) :
    (batch.answered answer).ids = batch.ids := by
  cases answer <;> rfl

/-- Fewer batches, over the same rows. -/
theorem Held.mono (held : Held state phases) (rows : state'.notifications = state.notifications)
    (fewer : ∀ who batch, phases' who = some (.holding batch) →
      ∃ larger, phases who = some (.holding larger) ∧ batch.ids = larger.ids) :
    Held state' phases' := by
  have before : ∀ who id, Holds phases' who id → Holds phases who id := by
    rintro who id ⟨batch, told, member⟩
    obtain ⟨larger, held', same⟩ := fewer who batch told
    exact ⟨larger, held', same ▸ member⟩
  refine ⟨rows ▸ held.distinct, ?_, ?_, ?_⟩
  · intro who id holds
    rw [Delivery.notification, rows]
    exact held.sending who id (before who id holds)
  · intro who batch told
    obtain ⟨larger, held', same⟩ := fewer who batch told
    exact same ▸ held.once who larger held'
  · intro who other id first second
    exact held.alone who other id (before who id first) (before other id second)

/-- The next item leaves the hand when its row is written. -/
theorem Held.settled (held : Held state phases) {change : Notification → Notification}
    (keeps : ∀ row, (change row).id = row.id) (told : phases who = some (.holding batch))
    (next : batch.head = some id) :
    Held { state with notifications := Table.modify Notification.id state.notifications id change }
      (Function.update phases who (some (.holding batch.rest))) := by
  have distinct := held.once who batch told
  rw [ids_rest next, List.nodup_cons] at distinct
  have before : ∀ other other', Holds (Function.update phases who (some (.holding batch.rest)))
      other other' → Holds phases other other' ∧ other' ≠ id := by
    intro other other' holds
    obtain ⟨rfl, member⟩ | ⟨different, holds⟩ := holds_update holds
    · refine ⟨⟨batch, told, ids_rest next ▸ List.mem_cons_of_mem _ member⟩, ?_⟩
      rintro rfl
      exact distinct.1 member
    · refine ⟨holds, ?_⟩
      rintro rfl
      exact different (held.alone other who other' holds (holds_head told next))
  refine ⟨?_, ?_, ?_, ?_⟩
  · rw [Table.map_key_modify keeps]
    exact held.distinct
  · intro other other' holds
    obtain ⟨holds, different⟩ := before other other' holds
    obtain ⟨row, found, status⟩ := held.sending other other' holds
    exact ⟨row, (Table.find_modify_ne change keeps different).trans found, status⟩
  · intro other after told'
    by_cases same : other = who
    · subst same
      rw [Function.update_self] at told'
      obtain rfl : batch.rest = after := by simpa using told'
      exact distinct.2
    · rw [Function.update_of_ne same] at told'
      exact held.once other after told'
  · intro first second other' holds holds'
    exact held.alone first second other' (before _ _ holds).1 (before _ _ holds').1

/-- A claim takes what nobody has in hand. -/
theorem Held.claimed (held : Held state phases) {now stale : Int} {limit : Nat}
    {locked : List Uuid}
    (free : ∀ row ∈ selected state.notifications now stale limit locked, ∀ other,
      ¬Holds phases other row.id) :
    Held
      { state with
        notifications := claim state.notifications now
          (selected state.notifications now stale limit locked) }
      (Function.update phases who
        (some (.holding (batchOf (selected state.notifications now stale limit locked))))) := by
  have untaken : ∀ other id, Holds phases other id →
      id ∉ (selected state.notifications now stale limit locked).map (·.id) := by
    intro other id holds member
    obtain ⟨row, taken, rfl⟩ := List.mem_map.1 member
    exact free row taken other holds
  refine ⟨?_, ?_, ?_, ?_⟩
  · rw [map_id_claim]
    exact held.distinct
  · intro other id holds
    obtain ⟨-, member⟩ | ⟨-, holds⟩ := holds_update holds
    · rw [batchOf_ids] at member
      obtain ⟨row, taken, rfl⟩ := List.mem_map.1 member
      have attempts := (mem_selected taken).2
      simp only [claimable, decide_eq_true_eq] at attempts
      exact ⟨_, find_claim_taken held.distinct taken, rfl, attempts.2.2.1⟩
    · obtain ⟨row, found, status⟩ := held.sending other id holds
      exact ⟨row, (find_claim_left (untaken other id holds)).trans found, status⟩
  · intro other after told
    by_cases same : other = who
    · subst same
      rw [Function.update_self] at told
      obtain rfl : batchOf (selected state.notifications now stale limit locked) = after := by
        simpa using told
      rw [batchOf_ids]
      exact Table.pick_nodup held.distinct
    · rw [Function.update_of_ne same] at told
      exact held.once other after told
  · intro first second id holds holds'
    obtain ⟨mine, member⟩ | ⟨-, before⟩ := holds_update holds
    · obtain ⟨mine', -⟩ | ⟨-, before'⟩ := holds_update holds'
      · exact mine.trans mine'.symm
      · exact absurd (batchOf_ids _ ▸ member) (untaken second id before')
    · obtain ⟨-, member⟩ | ⟨-, before'⟩ := holds_update holds'
      · exact absurd (batchOf_ids _ ▸ member) (untaken first id before)
      · exact held.alone first second id before before'

theorem createPendingIntent_cases (rows : List Notification) (now : Int) (id contentItemId : Uuid)
    (provider : String) :
    createPendingIntent rows now id contentItemId provider = rows ∨
      createPendingIntent rows now id contentItemId provider =
        rows ++ [pendingRow now id contentItemId provider] := by
  unfold createPendingIntent
  split
  · exact .inl rfl
  · exact .inr rfl

theorem distinct_added {now : Int} {contentItemId : Uuid} {provider : String}
    (distinct : (state.notifications.map Notification.id).Nodup)
    (unused : state.notification id = none) :
    ((state.notifications ++ [pendingRow now id contentItemId provider]).map
      Notification.id).Nodup :=
  Table.nodup_append _ distinct unused

/-- **Moves that take nothing that is in hand keep it.** -/
theorem Held.change (held : Held state phases)
    (changed : Change state phases move state' phases') (exclusive : Exclusive state phases move) :
    Held state' phases' := by
  cases changed with
  | claims who now stale limit locked arrives => exact held.claimed exclusive
  | hands who batch id credential message answer told unsent next =>
      refine held.mono rfl fun other after told' => ?_
      by_cases same : other = who
      · subst same
        rw [Function.update_self] at told'
        obtain rfl : batch.answered answer = after := by simpa using told'
        exact ⟨batch, told, ids_answered batch answer⟩
      · rw [Function.update_of_ne same] at told'
        exact ⟨after, told', rfl⟩
  | fails who batch id code told refused next => exact held.settled (failedRow_id code) told next
  | books who batch id told accepted next => exact held.settled sentRow_id told next
  | intends id contentItemId provider unused =>
      obtain same | added := createPendingIntent_cases state.notifications state.now id
        contentItemId provider
      · rw [same]
        exact held
      · rw [added]
        refine ⟨distinct_added held.distinct unused, ?_, held.once, held.alone⟩
        intro who other holds
        obtain ⟨row, found, status⟩ := held.sending who other holds
        exact ⟨row, Table.find_append_of_some found, status⟩
  | passes _ _ _ rows handed accepted fewer flying =>
      exact held.mono rows fun who batch told => ⟨batch, fewer who batch told, rfl⟩

/-- **A row that has been sent stays as it is**, under every move. -/
theorem sent_change {row : Notification}
    (changed : Change state phases move state' phases')
    (distinct : (state.notifications.map Notification.id).Nodup)
    (found : state.notification id = some row) (done : row.status = .sent) :
    (state'.notifications.map Notification.id).Nodup ∧ state'.notification id = some row := by
  have written : ∀ (change : Notification → Notification), (∀ row, (change row).id = row.id) →
      (∀ row, row.status = .sent → change row = row) → ∀ other,
      ((Table.modify Notification.id state.notifications other change).map
        Notification.id).Nodup ∧
        Table.find Notification.id
          (Table.modify Notification.id state.notifications other change) id = some row := by
    intro change keeps idle other
    refine ⟨(Table.map_key_modify keeps _ _).symm ▸ distinct, ?_⟩
    by_cases same : id = other
    · subst same
      rw [Table.find_modify_same change keeps, show Table.find Notification.id _ id = _ from found,
        Option.map_some, idle row done]
    · rw [Table.find_modify_ne change keeps same]
      exact found
  cases changed with
  | claims who now stale limit locked arrives =>
      refine ⟨(map_id_claim _).symm ▸ distinct, (find_claim_left ?_).trans found⟩
      intro member
      obtain ⟨other, taken, same⟩ := List.mem_map.1 member
      obtain ⟨present, open'⟩ := mem_selected taken
      have again := Table.find_of_mem Notification.id distinct present
      rw [same, show Table.find Notification.id _ id = _ from found] at again
      obtain rfl := Option.some.inj again
      simp [claimable, done] at open'
  | hands => exact ⟨distinct, found⟩
  | fails who batch other code told refused next =>
      exact written _ (failedRow_id code) (fun row done => by simp [failedRow, done]) other
  | books who batch other told accepted next =>
      exact written _ sentRow_id (fun row done => by simp [sentRow, done]) other
  | intends other contentItemId provider unused =>
      obtain same | added := createPendingIntent_cases state.notifications state.now other
        contentItemId provider
      · rw [same]
        exact ⟨distinct, found⟩
      · rw [added]
        exact ⟨distinct_added distinct unused, Table.find_append_of_some found⟩
  | passes _ _ _ rows handed accepted fewer flying =>
      rw [Delivery.notification, rows]
      exact ⟨distinct, found⟩

end Held

/-! ### Accepted once -/

section Flight

variable {stages : Stage → Prop} {phases : Nat → Option Phase} {who : Nat} {id : Uuid}

theorem InFlight.holds (flies : InFlight stages phases id) : ∃ who, Holds phases who id := by
  obtain ⟨who, batch, told, -, next⟩ := flies
  exact ⟨who, holds_head told next⟩

/-- What another worker has handed over stays in flight. -/
theorem InFlight.update (flies : InFlight stages phases id) {phase : Option Phase}
    (other : ∀ batch, phases who = some (.holding batch) → stages batch.stage →
      batch.head ≠ some id) :
    InFlight stages (Function.update phases who phase) id := by
  obtain ⟨mover, batch, told, stage, next⟩ := flies
  refine ⟨mover, batch, ?_, stage, next⟩
  rw [Function.update_of_ne]
  · exact told
  · rintro rfl
    exact other batch told stage next

/-- A worker that has no item in such a stage has none in flight. -/
theorem Held.not_inFlight {state : Delivery} (held : Held state phases) {batch : Batch}
    (told : phases who = some (.holding batch)) (next : batch.head = some id)
    (early : ¬stages batch.stage) : ¬InFlight stages phases id := by
  rintro ⟨other, batch', told', stage, next'⟩
  obtain rfl := held.alone who other id (holds_head told next) (holds_head told' next')
  obtain rfl : batch = batch' := by simpa [told] using told'
  exact early stage

end Flight

/-- A message that has been accepted: its row says so, or its worker is about to. -/
def Settled (state : Delivery) (phases : Nat → Option Phase) (id : Uuid) : Prop :=
  (∃ row, state.notification id = some row ∧ row.status = .sent) ∨
    InFlight (· = .accepted) phases id

/-- **A message is accepted once**, and then it is settled. -/
def AcceptedOnce (state : Delivery) (phases : Nat → Option Phase) : Prop :=
  ∀ id, state.accepted.count id = 0 ∨ state.accepted.count id = 1 ∧ Settled state phases id

section Accepted

variable {state state' : Delivery} {phases phases' : Nat → Option Phase}
  {move : Move signature Choice Job Happening}

/-- What is claimed and not yet handed over is not settled. -/
theorem Held.not_settled (held : Held state phases) {who : Nat} {batch : Batch} {id : Uuid}
    (told : phases who = some (.holding batch)) (next : batch.head = some id)
    (early : batch.stage ≠ .accepted) : ¬Settled state phases id := by
  rintro (⟨row, found, done⟩ | flies)
  · obtain ⟨row', found', status, -⟩ := held.sending who id (holds_head told next)
    obtain rfl := Option.some.inj (found.symm.trans found')
    simp [done] at status
  · exact held.not_inFlight told next early flies

theorem count_handOver {id other : Uuid} (answer : Result Int) (different : other ≠ id) :
    (state.handOver id answer).accepted.count other = state.accepted.count other := by
  unfold Delivery.handOver
  cases answer with
  | error raised => rfl
  | ok status =>
      dsimp only
      split
      · simp [Ne.symm different]
      · rfl

theorem AcceptedOnce.change (once : AcceptedOnce state phases) (held : Held state phases)
    (changed : Change state phases move state' phases')
    (booking : Booking (· = .accepted) state phases move) : AcceptedOnce state' phases' := by
  have kept : state'.accepted = state.accepted →
      (∀ id, InFlight (· = .accepted) phases id → Settled state' phases' id) →
      AcceptedOnce state' phases' := by
    intro same stays id
    rw [same]
    refine (once id).imp_right fun ⟨one, settled⟩ => ⟨one, ?_⟩
    obtain ⟨row, found, done⟩ | flies := settled
    · exact .inl ⟨row, (sent_change changed held.distinct found done).2, done⟩
    · exact stays id flies
  cases changed with
  | claims who now stale limit locked arrives =>
      exact kept rfl fun id flies => .inr (flies.update (by simp [arrives]))
  | hands who batch id credential message answer told unsent next =>
      have early : batch.stage ≠ .accepted := by simp [unsent]
      have unsettled := held.not_settled told next early
      intro other
      by_cases same : other = id
      · subst same
        have none : state.accepted.count other = 0 := by
          obtain none | ⟨-, settled⟩ := once other
          · exact none
          · exact absurd settled unsettled
        cases answer with
        | error raised => exact .inl none
        | ok status =>
            by_cases success : isSuccess status = true
            · refine .inr ⟨by simp [Delivery.handOver, success, none], .inr ?_⟩
              exact ⟨who, batch.answered (.ok status), by simp,
                by simp [Batch.answered, success], by simpa [Batch.head, ids_answered] using next⟩
            · exact .inl (by simp [Delivery.handOver, success, none])
      · rw [count_handOver answer same]
        refine (once other).imp_right fun ⟨one, settled⟩ => ⟨one, ?_⟩
        refine settled.imp_right fun flies => flies.update ?_
        intro after told'
        obtain rfl : batch = after := by simpa [told] using told'
        exact fun stage => absurd stage early
  | fails who batch id code told refused next =>
      refine kept rfl fun other flies => .inr (flies.update ?_)
      intro after told' stage
      obtain rfl : batch = after := by simpa [told] using told'
      exact absurd stage refused
  | books who batch id told accepted next =>
      refine kept rfl fun other flies => ?_
      by_cases same : other = id
      · subst same
        obtain ⟨row, found, status, -⟩ := held.sending who other (holds_head told next)
        refine .inl ⟨sentRow state.now row, ?_, by simp [sentRow, status]⟩
        exact (Table.find_modify_same _ sentRow_id _ _).trans (congrArg (Option.map _) found)
      · refine .inr (flies.update ?_)
        intro after told' _ next'
        obtain rfl : batch = after := by simpa [told] using told'
        exact same (Option.some.inj (next'.symm.trans next))
  | intends => exact kept rfl fun id flies => .inr flies
  | passes _ _ _ rows handed accepted fewer flying =>
      exact kept accepted fun id flies => .inr (flying _ booking id flies)

end Accepted

/-! ### Attempts -/

/-- What the row of a message shows that has been handed over so many times. -/
def Attempted (times : Nat) (flies : Prop) (row : Notification) : Prop :=
  match row.status with
  | .sending => row.retryCount < maxAttempts ∧
      (times ≤ row.retryCount ∨ flies ∧ times ≤ row.retryCount + 1)
  | .failed => times ≤ row.retryCount ∧ row.retryCount ≤ maxAttempts
  | .sent => times ≤ row.retryCount + 1 ∧ row.retryCount < maxAttempts
  | _ => False

/-- **Every attempt is booked**, but the one in flight. -/
def Counted (state : Delivery) (phases : Nat → Option Phase) : Prop :=
  ∀ id, state.handed.count id = 0 ∨ ∃ row, state.notification id = some row ∧
    Attempted (state.handed.count id) (InFlight (· ≠ .claimed) phases id) row

section Attempts

variable {state state' : Delivery} {phases phases' : Nat → Option Phase}
  {move : Move signature Choice Job Happening}

theorem Attempted.mono {times : Nat} {flies flies' : Prop} {row : Notification}
    (attempted : Attempted times flies row) (still : flies → flies') :
    Attempted times flies' row := by
  unfold Attempted at attempted ⊢
  cases status : row.status with
  | sending =>
      simp only [status] at attempted ⊢
      exact ⟨attempted.1, attempted.2.imp_right fun ⟨flies, few⟩ => ⟨still flies, few⟩⟩
  | pending | suppressed => simp only [status] at attempted
  | failed | sent => simpa only [status] using attempted

/-- What is in hand has been handed over no more often than its row says, and once more. -/
theorem Counted.held (counted : Counted state phases) (held : Held state phases) {who : Nat}
    {batch : Batch} {id : Uuid} (told : phases who = some (.holding batch))
    (next : batch.head = some id) :
    ∃ row, state.notification id = some row ∧ row.status = .sending ∧
      row.retryCount < maxAttempts ∧
      (state.handed.count id ≤ row.retryCount ∨
        batch.stage ≠ .claimed ∧ state.handed.count id ≤ row.retryCount + 1) := by
  obtain ⟨row, found, status, few⟩ := held.sending who id (holds_head told next)
  refine ⟨row, found, status, few, ?_⟩
  obtain none | ⟨row', found', attempted⟩ := counted id
  · exact .inl (none ▸ Nat.zero_le _)
  · obtain rfl := Option.some.inj (found.symm.trans found')
    simp only [Attempted, status] at attempted
    refine attempted.2.imp_right fun ⟨flies, few⟩ => ⟨?_, few⟩
    intro early
    have away : ¬InFlight (· ≠ .claimed) phases id :=
      held.not_inFlight told next (not_not_intro early)
    exact away flies

/-- The next item of a batch is booked. -/
theorem Counted.settled (counted : Counted state phases)
    {change : Notification → Notification} (keeps : ∀ row, (change row).id = row.id)
    {who : Nat} {batch : Batch} {id : Uuid} (told : phases who = some (.holding batch))
    (next : batch.head = some id)
    (written : ∃ row, state.notification id = some row ∧
      ∀ flies, Attempted (state.handed.count id) flies (change row)) :
    Counted
      { state with notifications := Table.modify Notification.id state.notifications id change }
      (Function.update phases who (some (.holding batch.rest))) := by
  intro other
  by_cases same : other = id
  · subst same
    obtain ⟨row, found, attempted⟩ := written
    refine .inr ⟨change row, ?_, attempted _⟩
    exact (Table.find_modify_same _ keeps _ _).trans (congrArg (Option.map _) found)
  · refine (counted other).imp_right fun ⟨row, found, attempted⟩ => ⟨row, ?_, ?_⟩
    · exact (Table.find_modify_ne _ keeps same).trans found
    · refine attempted.mono fun flies => flies.update ?_
      intro after told' _ next'
      obtain rfl : batch = after := by simpa [told] using told'
      exact same (Option.some.inj (next'.symm.trans next))

theorem Counted.change (counted : Counted state phases) (held : Held state phases)
    (changed : Change state phases move state' phases') (exclusive : Exclusive state phases move)
    (booking : Booking (· ≠ .claimed) state phases move) : Counted state' phases' := by
  cases changed with
  | claims who now stale limit locked arrives =>
      intro id
      refine (counted id).imp_right fun ⟨row, found, attempted⟩ => ?_
      by_cases taken : id ∈ (selected state.notifications now stale limit locked).map (·.id)
      · obtain ⟨row', member, rfl⟩ := List.mem_map.1 taken
        have present := Table.find_of_mem _ held.distinct (mem_selected member).1
        obtain rfl := Option.some.inj (found.symm.trans present)
        refine ⟨_, find_claim_taken held.distinct member, ?_⟩
        -- Nobody has it in hand, so that it is not in flight.
        have grounded : ¬InFlight (· ≠ .claimed) phases row.id := fun flies =>
          flies.holds.elim (exclusive row member)
        have open' := (mem_selected member).2
        simp only [claimable, decide_eq_true_eq] at open'
        have few := open'.2.2.1
        refine ⟨few, .inl ?_⟩
        obtain status | status | ⟨status, -⟩ := open'.2.2.2.2
        · simp [Attempted, status] at attempted
        · simp only [Attempted, status] at attempted
          exact attempted.1
        · simp only [Attempted, status] at attempted
          exact attempted.2.resolve_right fun flies => grounded flies.1
      · refine ⟨row, (find_claim_left taken).trans found, attempted.mono fun flies => ?_⟩
        exact flies.update (by simp [arrives])
  | hands who batch id credential message answer told unsent next =>
      intro other
      by_cases same : other = id
      · subst same
        obtain ⟨row, found, status, few, attempts⟩ := counted.held held told next
        refine .inr ⟨row, found, ?_⟩
        have times := attempts.resolve_right fun late => late.1 unsent
        simp only [Attempted, status]
        refine ⟨few, .inr ⟨⟨who, batch.answered answer, by simp, ?_, ?_⟩, ?_⟩⟩
        · cases answer with
          | error raised => simp [Batch.answered]
          | ok status =>
              simp only [Batch.answered]
              split <;> simp
        · simpa [Batch.head, ids_answered] using next
        · simpa [Delivery.handOver] using times
      · have kept : (state.handOver id answer).handed.count other = state.handed.count other := by
          simp [Delivery.handOver, Ne.symm same]
        rw [kept]
        refine (counted other).imp_right fun ⟨row, found, attempted⟩ => ⟨row, found, ?_⟩
        refine attempted.mono fun flies => flies.update ?_
        intro after told' _ next'
        obtain rfl : batch = after := by simpa [told] using told'
        exact same (Option.some.inj (next'.symm.trans next))
  | fails who batch id code told refused next =>
      obtain ⟨row, found, status, few, attempts⟩ := counted.held held told next
      refine counted.settled (failedRow_id code) told next ⟨row, found, fun _ => ?_⟩
      simp only [failedRow, status, if_true, Attempted]
      omega
  | books who batch id told accepted next =>
      obtain ⟨row, found, status, few, attempts⟩ := counted.held held told next
      refine counted.settled sentRow_id told next ⟨row, found, fun _ => ?_⟩
      simp only [sentRow, status, if_true, Attempted]
      omega
  | intends id contentItemId provider unused =>
      intro other
      refine (counted other).imp_right fun ⟨row, found, attempted⟩ => ⟨row, ?_, attempted⟩
      obtain same | added := createPendingIntent_cases state.notifications state.now id
        contentItemId provider
      · rw [same]
        exact found
      · rw [added]
        exact Table.find_append_of_some found
  | passes _ _ _ rows handed accepted fewer flying =>
      intro id
      rw [handed, Delivery.notification, rows]
      exact (counted id).imp_right fun ⟨row, found, attempted⟩ =>
        ⟨row, found, attempted.mono (flying _ booking id)⟩

end Attempts

/-! ### Histories -/

section Histories

variable {state : Delivery} {world : World signature (Result DeliveryReport) Delivery Job}

theorem held_initial (distinct : (state.notifications.map Notification.id).Nodup) :
    Held state fun _ => none :=
  ⟨distinct, fun _ _ ⟨_, told, _⟩ => by simp at told, fun _ _ told => by simp at told,
    fun _ _ _ ⟨_, told, _⟩ => by simp at told⟩

theorem accepted_preserved : discipline.Preserves (Careful (· = .accepted))
    fun state phases => Held state phases ∧ AcceptedOnce state phases := by
  intro state phases move state' phases' stepped careful kept
  have changed := change_of_stepped stepped
  exact ⟨kept.1.change changed careful.1, kept.2.change kept.1 changed careful.2⟩

theorem counted_preserved : discipline.Preserves (Careful (· ≠ .claimed))
    fun state phases => Held state phases ∧ Counted state phases := by
  intro state phases move state' phases' stepped careful kept
  have changed := change_of_stepped stepped
  exact ⟨kept.1.change changed careful.1, kept.2.change kept.1 changed careful.1 careful.2⟩

/-- A row that has been sent stays as it is, whatever happens. -/
theorem sent_preserved (id : Uuid) (row : Notification) (done : row.status = .sent) :
    discipline.Preserves (fun _ _ _ => True) fun state _ =>
      (state.notifications.map Notification.id).Nodup ∧ state.notification id = some row :=
  fun _ _ _ _ _ stepped _ kept => sent_change (change_of_stepped stepped) kept.1 kept.2 done

/-- **A message is accepted once**, in every history in which no claim takes what is in hand and
every acceptance is booked; and in all that follows, a row that has been sent stays as it is. -/
theorem accepted_once (distinct : (state.notifications.map Notification.id).Nodup)
    (fresh : state.accepted = [])
    (reached : discipline.Reaches (Careful (· = .accepted)) (.initial state) world) (id : Uuid) :
    world.state.accepted.count id ≤ 1 ∧
      ∀ row later, world.state.notification id = some row → row.status = .sent →
        discipline.Reaches (fun _ _ _ => True) world later →
        later.state.notification id = some row := by
  have start := Discipline.adherent_initial discipline state
  obtain ⟨held, once⟩ := reached.invariant _ accepted_preserved start
    ⟨held_initial distinct, fun id => .inl (by simp [World.initial, fresh])⟩
  refine ⟨?_, fun row later found done follows => ?_⟩
  · obtain none | ⟨one, -⟩ := once id
    · exact none ▸ Nat.zero_le 1
    · exact one.le
  · exact (follows.invariant _ (sent_preserved id row done) (reached.adherent _ start)
      ⟨held.distinct, found⟩).2

/-- **There are `maxAttempts` attempts at most**, in every history in which no claim takes what is
in hand and every attempt is booked; after the last one, once it is booked, no claim takes the
row. -/
theorem attempts_bounded (distinct : (state.notifications.map Notification.id).Nodup)
    (fresh : state.handed = [])
    (reached : discipline.Reaches (Careful (· ≠ .claimed)) (.initial state) world) (id : Uuid) :
    world.state.handed.count id ≤ maxAttempts ∧
      (world.state.handed.count id = maxAttempts →
        InFlight (· ≠ .claimed) (discipline.phases world) id ∨
          ∃ row, world.state.notification id = some row ∧
            (row.status = .sent ∨ row.status = .failed ∧ row.retryCount = maxAttempts) ∧
            ∀ now stale limit locked,
              row ∉ selected world.state.notifications now stale limit locked) := by
  obtain ⟨held, counted⟩ := reached.invariant _ counted_preserved
    (Discipline.adherent_initial discipline state)
    ⟨held_initial distinct, fun id => .inl (by simp [World.initial, fresh])⟩
  have unselected : ∀ row : Notification,
      (row.status = .sent ∨ row.status = .failed ∧ row.retryCount = maxAttempts) →
      ∀ now stale limit locked,
        row ∉ selected world.state.notifications now stale limit locked := by
    intro row concluded now stale limit locked taken
    have open' := (mem_selected taken).2
    simp only [claimable, decide_eq_true_eq] at open'
    obtain done | ⟨-, exhausted⟩ := concluded
    · simp [done] at open'
    · omega
  obtain none | ⟨row, found, attempted⟩ := counted id
  · exact ⟨none ▸ Nat.zero_le _, fun last => absurd (none.symm.trans last) (by decide)⟩
  · cases status : row.status with
    | pending | suppressed => simp only [Attempted, status] at attempted
    | sending =>
        simp only [Attempted, status] at attempted
        refine ⟨by omega, fun last => .inl ?_⟩
        exact (attempted.2.resolve_left (by omega)).1
    | failed =>
        simp only [Attempted, status] at attempted
        refine ⟨by omega, fun last => .inr ⟨row, found, ?_⟩⟩
        have concluded : row.status = .sent ∨ row.status = .failed ∧ row.retryCount = maxAttempts :=
          .inr ⟨status, by omega⟩
        exact ⟨concluded, unselected row concluded⟩
    | sent =>
        simp only [Attempted, status] at attempted
        exact ⟨by omega, fun _ => .inr ⟨row, found, .inl status, unselected row (.inl status)⟩⟩

end Histories

/-! ### Runs -/

/-- Whether a worker has one of these items in hand. -/
def someHold (world : World signature (Result DeliveryReport) Delivery Job) (ids : List Uuid) :
    Bool :=
  (List.range world.count).any fun who =>
    match discipline.phases world who with
    | some (.holding batch) => ids.any (· ∈ batch.ids)
    | _ => false

/-- Nobody is lost in an event. -/
def sound : Event Choice Job Happening → Bool
  | .work _ .fault | .crash _ => false
  | _ => true

/-- A claim takes something that is in hand. -/
def overlaps (world : World signature (Result DeliveryReport) Delivery Job) :
    Event Choice Job Happening → Bool
  | .work who (.locked locked) =>
      match world.tasks who with
      | some ⟨_, .call (.claim now stale limit) _, _⟩ =>
          someHold world ((selected world.state.notifications now stale limit locked).map (·.id))
      | _ => false
  | _ => false

def carefulStep (world : World signature (Result DeliveryReport) Delivery Job)
    (event : Event Choice Job Happening) : Bool :=
  sound event && !overlaps world event

theorem someHold_iff {world : World signature (Result DeliveryReport) Delivery Job}
    {ids : List Uuid} :
    someHold world ids = true ↔
      ∃ who, ∃ id ∈ ids, Holds (discipline.phases world) who id := by
  simp only [someHold, List.any_eq_true, List.mem_range]
  constructor
  · rintro ⟨who, -, found⟩
    split at found
    · next batch told =>
      obtain ⟨id, member, held⟩ := List.any_eq_true.1 found
      exact ⟨who, id, member, batch, told, by simpa using held⟩
    · cases found
  · rintro ⟨who, id, member, batch, told, held⟩
    refine ⟨who, ?_, ?_⟩
    · by_contra beyond
      simp [Discipline.phases, world.unstarted who (not_lt.1 beyond)] at told
    · simp only [told]
      exact List.any_eq_true.2 ⟨id, member, by simpa using held⟩

theorem sound_unbroken (world : World signature (Result DeliveryReport) Delivery Job)
    (event : Event Choice Job Happening) (move : Move signature Choice Job Happening)
    (asked : world.move event = some move) (passed : sound event = true) :
    Unbroken world.state (discipline.phases world) move := by
  cases event with
  | work who choice =>
      unfold World.move at asked
      simp only at asked
      split at asked
      · obtain rfl := Option.some.inj asked
        cases choice with
        | fault => cases passed
        | _ => trivial
      · cases asked
  | crash who => cases passed
  | start job =>
      obtain rfl := Option.some.inj asked
      trivial
  | env action =>
      obtain rfl := Option.some.inj asked
      trivial

theorem carefulStep_careful (mustBook : Stage → Prop)
    (world : World signature (Result DeliveryReport) Delivery Job)
    (event : Event Choice Job Happening) (move : Move signature Choice Job Happening)
    (asked : world.move event = some move) (passed : carefulStep world event = true) :
    Careful mustBook world.state (discipline.phases world) move := by
  obtain ⟨unbroken, free⟩ := (Bool.and_eq_true _ _).mp passed
  refine ⟨?_, (sound_unbroken world event move asked unbroken).booking mustBook⟩
  cases event with
  | work who choice =>
      unfold World.move at asked
      simp only at asked
      split at asked
      · next job op rest log held =>
        obtain rfl := Option.some.inj asked
        cases op with
        | claim now stale limit =>
            cases choice with
            | locked locked =>
                intro row taken other holds
                have found := someHold_iff.2 ⟨other, row.id, List.mem_map_of_mem taken, holds⟩
                simp [overlaps, held, found] at free
            | _ => trivial
        | _ => trivial
      · cases asked
  | crash who => cases unbroken
  | start job =>
      obtain rfl := Option.some.inj asked
      trivial
  | env action =>
      obtain rfl := Option.some.inj asked
      trivial

/-- Two rows about energy data, and nothing sent. -/
def twoRows : Delivery where
  notifications := [pendingRow 0 1 11 "eia", pendingRow 0 2 12 "eia"]
  feed := [⟨11, some "Stocks", some 0, none, "EIA", "eia"⟩,
    ⟨12, some "Prices", some 0, none, "EIA", "eia"⟩]
  now := 0
  handed := []
  accepted := []

/-- A worker starts. -/
def worker : Event Choice Job Happening := .start ⟨some ⟨"token", "chat"⟩, 10⟩

/-- It claims a batch. -/
def claims (who : Nat) : List (Event Choice Job Happening) :=
  [.work who .proceed, .work who .proceed, .work who (.locked [])]

/-- It hands over the next item, which is answered by a status code. -/
def handsOver (who : Nat) (status : Int) : List (Event Choice Job Happening) :=
  [.work who .proceed, .work who (.answer (.ok status))]

/-- It books how the item has ended. -/
def books (who : Nat) : Event Choice Job Happening := .work who .proceed

/-- More than an hour passes. -/
def hours : Event Choice Job Happening := .env (.tick 3601000000)

/-- A worker that is slow between its two items. -/
def slowWorker : List (Event Choice Job Happening) :=
  worker :: claims 0 ++ handsOver 0 200 ++ books 0 :: hours :: handsOver 0 200 ++ [books 0]

/-- The same worker, of which another one claims the second item in between. -/
def overtaken : List (Event Choice Job Happening) :=
  worker :: claims 0 ++ handsOver 0 200 ++ books 0 :: hours :: worker :: claims 1 ++
    handsOver 1 200 ++ books 1 :: handsOver 0 200 ++ [books 0]

/-- A worker that is lost after it has handed over the next item, more than an hour before the
next one. -/
def lost (who : Nat) : List (Event Choice Job Happening) :=
  worker :: claims who ++ handsOver who 200 ++ [.crash who, hours]

/-- A worker whose items are refused, more than an hour before the next one. -/
def refused (who : Nat) : List (Event Choice Job Happening) :=
  worker :: claims who ++ handsOver who 500 ++ books who :: handsOver who 500 ++ [books who, hours]

/-- Alone, the slow worker has both items accepted once. -/
theorem accepted_once_slow : ∃ world : World signature (Result DeliveryReport) Delivery Job,
    world.state.accepted = [1, 2] ∧ world.state.accepted.count 2 ≤ 1 := by
  have ran : ((World.initial twoRows).checked deliveries carefulStep slowWorker).map
      (·.state.accepted) = some [1, 2] := by
    decide
  obtain ⟨world, reached, both⟩ := Option.map_eq_some_iff.1 ran
  exact ⟨world, both, (accepted_once (by decide) rfl
    (.of_checked _ (carefulStep_careful _) (.refl _) reached) 2).1⟩

/-- **Overtaken, it sends the second item a second time**, though nobody is lost. -/
theorem accepted_twice :
    ¬∀ (state : Delivery) (world : World signature (Result DeliveryReport) Delivery Job),
      (state.notifications.map Notification.id).Nodup → state.accepted = [] →
      discipline.Reaches Unbroken (.initial state) world →
      ∀ id, world.state.accepted.count id ≤ 1 := by
  intro once
  have ran : ((World.initial twoRows).checked deliveries (fun _ => sound) overtaken).map
      (·.state.accepted) = some [1, 2, 2] := by
    decide
  obtain ⟨world, reached, twice⟩ := Option.map_eq_some_iff.1 ran
  have le := once twoRows world (by decide) rfl
    (.of_checked _ sound_unbroken (.refl _) reached) 2
  rw [twice] at le
  exact absurd le (by decide)

/-- After five refusals no claim takes the row. -/
theorem attempts_bounded_refused :
    ∃ (world : World signature (Result DeliveryReport) Delivery Job) (row : Notification),
      world.state.notification 2 = some row ∧ ∀ now stale limit locked,
        row ∉ selected world.state.notifications now stale limit locked := by
  have ran : ((World.initial twoRows).checked deliveries carefulStep
      (refused 0 ++ refused 1 ++ refused 2 ++ refused 3 ++ refused 4)).map
      (fun world => (world.state.handed.count 2, someHold world [2])) =
        some (maxAttempts, false) := by
    decide
  obtain ⟨world, reached, ended⟩ := Option.map_eq_some_iff.1 ran
  obtain ⟨five, idle⟩ := Prod.mk.inj ended
  obtain flies | ⟨row, found, -, unselected⟩ := (attempts_bounded (by decide) rfl
    (.of_checked _ (carefulStep_careful _) (.refl _) reached) 2).2 five
  · obtain ⟨who, holds⟩ := flies.holds
    exact absurd (idle.symm.trans (someHold_iff.2 ⟨who, 2, List.mem_singleton_self 2, holds⟩))
      (by decide)
  · exact ⟨world, row, found, unselected⟩

/-- **A worker that is lost has booked nothing**: six of them hand the same item over six times. -/
theorem attempts_unbounded :
    ¬∀ (state : Delivery) (world : World signature (Result DeliveryReport) Delivery Job),
      (state.notifications.map Notification.id).Nodup → state.handed = [] →
      discipline.Reaches (fun _ _ _ => True) (.initial state) world →
      ∀ id, world.state.handed.count id ≤ maxAttempts := by
  intro bounded
  have ran : ((World.initial twoRows).run deliveries
      (lost 0 ++ lost 1 ++ lost 2 ++ lost 3 ++ lost 4 ++ lost 5)).map
      (·.state.handed) = some [1, 1, 1, 1, 1, 1] := by
    decide
  obtain ⟨world, reached, six⟩ := Option.map_eq_some_iff.1 ran
  have le := bounded twoRows world (by decide) rfl (.of_run _ (.refl _) reached) 1
  rw [six] at le
  exact absurd le (by decide)

end NewsCollect.Notifications
