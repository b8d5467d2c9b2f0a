/-
**One message for all of a claim.**

What is delivered together fails together. An item that could have been delivered alone is booked as
failed with the others of its claim, and an exception that the delivery does not catch ends the
cycle, with the providers that are left.

* `DeliveryRecord.Isolated`: what is expected of a delivery, of every notification.
* `DeliveryRecord.Contained`: a delivery raises nothing that it does not catch.
* `DeliveryRecord.Uniform`: the items of a claim can be delivered together, or none of them alone.
* `failures_isolated_iff`: these are the cycles in which failures are isolated.
* `claimed_together`: a cycle in which they are not.
-/

import NewsCollect.Notifications.MultiProvider
import NewsCollect.Proof.Checkpoints

namespace NewsCollect.Notifications

open Calendar ReliableProviderNotificationService
open Collection (Uuid RunError lifted providerOrder)

/-! ### The rows of the table -/

section Rows

variable {box : Outbox} {status : NotificationStatus} {now : Int} {provider : String}
  {contentItemId id : Uuid} {row : Notification} {ids : List Uuid}

/-- **What an insertion does**: nothing, or a row under a new identifier, which has not been tried. -/
theorem Outbox.insert_cases : box.insert status now provider contentItemId = (none, box) ∨
    ∃ row, (box.insert status now provider contentItemId).1 = some row.id ∧
      box.notification row.id = none ∧ row.status = status ∧ row.retryCount = 0 ∧
      ∀ id, (box.insert status now provider contentItemId).2.notification id =
        (box.notification id).or (if row.id = id then some row else none) := by
  unfold Outbox.insert
  split
  · exact .inr ⟨box.intentRow status now provider contentItemId, rfl, box.notification_fresh, rfl, rfl,
      fun id => Table.find_append box.rows _ id⟩
  · exact .inl rfl

theorem Outbox.notification_change {change : Notification → Notification}
    (keeps : ∀ row, (change row).id = row.id ∧ (change row).dedupKey = row.dedupKey) :
    (box.change ids change keeps).notification id =
      (box.notification id).map fun row => if row.id ∈ ids then change row else row :=
  Table.find_modifyEach fun row => (keeps row).1

/-- **Rows are added**: those that are there stay as they are, and those that are not are in this
status, and have not been tried. -/
structure Outbox.Adds (status : NotificationStatus) (ids : List Uuid) (box box' : Outbox) : Prop where
  kept : ∀ id row, box.notification id = some row → box'.notification id = some row
  absent : ∀ id ∈ ids, box.notification id = none
  added : ∀ id row, box.notification id = none → box'.notification id = some row →
    id ∈ ids ∧ row.status = status ∧ row.retryCount = 0
  listed : ∀ id ∈ ids, ∃ row, box'.notification id = some row ∧ row.status = status

theorem Outbox.Adds.refl : Outbox.Adds status [] box box :=
  ⟨fun _ _ held => held, nofun, fun _ _ absent found => absurd (absent.symm.trans found) nofun, nofun⟩

theorem Outbox.Adds.trans {ids' : List Uuid} {box' box'' : Outbox} (first : Adds status ids box box')
    (second : Adds status ids' box' box'') : Adds status (ids ++ ids') box box'' where
  kept id row held := second.kept id row (first.kept id row held)
  absent id member := by
    rcases List.mem_append.1 member with here | later
    · exact first.absent id here
    · cases held : box.notification id with
      | none => rfl
      | some row => exact absurd ((second.absent id later).symm.trans (first.kept id row held)) nofun
  added id row absent found := by
    cases between : box'.notification id with
    | none =>
        obtain ⟨member, rest⟩ := second.added id row between found
        exact ⟨List.mem_append_right _ member, rest⟩
    | some row' =>
        obtain rfl := Option.some.inj ((second.kept id row' between).symm.trans found)
        obtain ⟨member, rest⟩ := first.added id row' absent between
        exact ⟨List.mem_append_left _ member, rest⟩
  listed id member := by
    rcases List.mem_append.1 member with here | later
    · obtain ⟨row, found, status⟩ := first.listed id here
      exact ⟨row, second.kept id row found, status⟩
    · exact second.listed id later

/-- An insertion adds the row that it gives. -/
theorem Outbox.insert_adds : Outbox.Adds status (box.insert status now provider contentItemId).1.toList
    box (box.insert status now provider contentItemId).2 := by
  rcases @Outbox.insert_cases box status now provider contentItemId with
    nothing | ⟨row, given, absent, inStatus, untried, found⟩
  · rw [nothing]
    exact .refl
  · rw [given]
    refine ⟨fun id held same => ?_, fun id member => ?_, fun id added free same => ?_,
      fun id member => ?_⟩
    · rw [found, same]
      rfl
    · rwa [List.mem_singleton.1 member]
    · rw [found, free, Option.none_or, Option.ite_none_right_eq_some] at same
      obtain ⟨rfl, here⟩ := same
      obtain rfl := Option.some.inj here
      exact ⟨List.mem_singleton_self _, inStatus, untried⟩
    · obtain rfl := List.mem_singleton.1 member
      exact ⟨row, by rw [found, absent, if_pos rfl]; rfl, inStatus⟩

/-- **A claim of items adds a row of each that it claims.** -/
theorem claimNew_adds (items : List ProviderDisplayItem) (box : Outbox) :
    Outbox.Adds .sending ((claimNew now provider items box).1.map Prod.snd) box
      (claimNew now provider items box).2 := by
  induction items generalizing box with
  | nil => exact .refl
  | cons item items ih =>
      have first := @Outbox.insert_adds box .sending now provider item.contentItemId
      unfold claimNew
      generalize box.insert .sending now provider item.contentItemId = made at first ⊢
      obtain ⟨given, next⟩ := made
      cases given with
      | none => exact first.trans (ih next)
      | some id => exact first.trans (ih next)

/-- Intents are rows that are added. -/
theorem intend_adds (items : List ProviderDisplayItem) (box : Outbox) :
    ∃ ids, Outbox.Adds .pending ids box (intend now provider items box) := by
  induction items generalizing box with
  | nil => exact ⟨[], .refl⟩
  | cons item items ih =>
      obtain ⟨ids, rest⟩ := ih (box.insert .pending now provider item.contentItemId).2
      exact ⟨_, Outbox.insert_adds.trans rest⟩

/-- **A claim of retries** takes up some rows that may be tried again, and leaves the others. -/
theorem claimRetries_notification {limit : Nat} :
    (∀ id, id ∉ (retries now limit box.rows).map (·.id) →
      (claimRetries now limit box).2.notification id = box.notification id) ∧
    ∀ id ∈ (retries now limit box.rows).map (·.id), ∃ row, box.notification id = some row ∧
      retryable (now - sendingStaleAfterSeconds * second) row = true ∧
      (claimRetries now limit box).2.notification id = some (retriedRow now row) := by
  have changed := fun id => @Outbox.notification_change box id
    ((retries now limit box.rows).map (·.id)) (retriedRow now) fun _ => ⟨rfl, rfl⟩
  refine ⟨fun id apart => (changed id).trans ?_, fun id member => ?_⟩
  · cases held : box.notification id with
    | none => rfl
    | some row => rw [Option.map_some, Table.key_of_find Notification.id held, if_neg apart]
  · obtain ⟨row, picked, rfl⟩ := List.mem_map.1 member
    obtain ⟨present, wanted⟩ := Table.mem_pick picked
    have held : box.notification row.id = some row :=
      Table.find_of_mem Notification.id box.distinct present
    refine ⟨row, held, wanted, (changed row.id).trans ?_⟩
    rw [held, Option.map_some, if_pos member]

/-- What is shown of a content item. -/
def shown (feed : List FeedRow) (contentItemId : Uuid) : Option ProviderDisplayItem :=
  (feed.filterMap FeedRow.display).find? fun item => item.contentItemId = contentItemId

/-- **A notification is handed over with its own item**, if there is one. -/
theorem available_eq (feed : List FeedRow) (rows : List (Uuid × Uuid)) :
    available feed rows = rows.filterMap fun row => (shown feed row.2).map fun item => (item, row.1) := by
  have present : ∀ row ∈ rows, ((byContentIds feed (rows.map Prod.snd)).any
      (·.contentItemId == row.2)) = (shown feed row.2).isSome := by
    intro row member
    rw [Bool.eq_iff_iff, List.any_eq_true]
    constructor
    · rintro ⟨item, inside, same⟩
      obtain ⟨other, -, found⟩ := List.mem_filterMap.1 inside
      have named : item.contentItemId = other := by simpa using List.find?_some found
      obtain rfl : other = row.2 := named.symm.trans (beq_iff_eq.1 same)
      exact Option.isSome_iff_exists.2 ⟨item, found⟩
    · intro known
      obtain ⟨item, found⟩ := Option.isSome_iff_exists.1 known
      exact ⟨item, List.mem_filterMap.2 ⟨row.2, List.mem_map_of_mem member, found⟩,
        beq_iff_eq.2 (by simpa using List.find?_some found)⟩
  have paired : ∀ rows : List (Uuid × Uuid), ((rows.map Prod.snd).filterMap (shown feed)).zip
      ((rows.filter fun row => (shown feed row.2).isSome).map Prod.fst) =
        rows.filterMap fun row => (shown feed row.2).map fun item => (item, row.1) := by
    intro rows
    induction rows with
    | nil => rfl
    | cons row rows ih =>
        cases known : shown feed row.2 with
        | none => simpa [known] using ih
        | some item => simpa [known] using ih
  unfold available
  dsimp only
  rw [List.filter_congr present]
  exact paired rows

/-- The notifications that a request takes up for another try. -/
def Request.retried (script : DeliveryScript) (box : Outbox) : Request → List Uuid
  | .retries limit =>
      (ReliableProviderNotificationService.retries script.now limit box.rows).map (·.id)
  | _ => []

variable {request : Request} {script : DeliveryScript}

/-- What is delivered again has been taken up. -/
theorem mem_retried {limit : Nat} {entry : ProviderDisplayItem × Uuid}
    (member : entry ∈ (Request.retries limit).claimed script box) :
    entry.2 ∈ (Request.retries limit).retried script box := by
  rw [Request.claimed, available_eq] at member
  obtain ⟨sought, inside, shows⟩ := List.mem_filterMap.1 member
  obtain ⟨item, -, rfl⟩ := Option.map_eq_some_iff.1 shows
  obtain ⟨row, picked, about⟩ := List.mem_filterMap.1 inside
  obtain ⟨content, -, rfl⟩ := Option.map_eq_some_iff.1 about
  exact List.mem_map_of_mem picked

/-- **What a request delivers is being sent.** -/
theorem Request.claimed_sending {entry : ProviderDisplayItem × Uuid}
    (member : entry ∈ request.claimed script box) : ∃ row,
    (request.claim script box).notification entry.2 = some row ∧ row.status = .sending := by
  cases request with
  | new provider items => exact (claimNew_adds items box).listed entry.2 (List.mem_map_of_mem member)
  | intents provider items => exact absurd member List.not_mem_nil
  | retries limit =>
      obtain ⟨row, -, -, found⟩ := claimRetries_notification.2 entry.2 (mem_retried member)
      exact ⟨_, found, rfl⟩

/-- **A claim leaves the notifications that it does not take up**, and delivers none of them. -/
theorem Request.claim_kept (held : box.notification id = some row)
    (apart : id ∉ request.retried script box) :
    (request.claim script box).notification id = some row ∧
      id ∉ (request.claimed script box).map Prod.snd := by
  cases request with
  | new provider items =>
      have adds := @claimNew_adds script.now provider items box
      exact ⟨adds.kept id row held, fun member => absurd ((adds.absent id member).symm.trans held) nofun⟩
  | intents provider items =>
      obtain ⟨ids, adds⟩ := @intend_adds script.now provider items box
      exact ⟨adds.kept id row held, List.not_mem_nil⟩
  | retries limit =>
      refine ⟨(claimRetries_notification.1 id apart).trans held, fun member => ?_⟩
      obtain ⟨entry, inside, rfl⟩ := List.mem_map.1 member
      exact apart (mem_retried inside)

/-- **A notification that is taken up** may be tried again, and this is one more try. -/
theorem Request.claim_retried (taken : id ∈ request.retried script box) :
    ∃ row, box.notification id = some row ∧
      retryable (script.now - sendingStaleAfterSeconds * second) row = true ∧
      (request.claim script box).notification id = some (retriedRow script.now row) := by
  cases request with
  | new provider items => exact absurd taken List.not_mem_nil
  | intents provider items => exact absurd taken List.not_mem_nil
  | retries limit => exact claimRetries_notification.2 id taken

/-- **A notification that is new** has not been tried, and is pending if it is not delivered. -/
theorem Request.claim_added (absent : box.notification id = none)
    (found : (request.claim script box).notification id = some row) :
    row.retryCount = 0 ∧ (id ∉ (request.claimed script box).map Prod.snd → row.status = .pending) := by
  cases request with
  | new provider items =>
      obtain ⟨member, -, untried⟩ := (claimNew_adds items box).added id row absent found
      exact ⟨untried, fun apart => absurd member apart⟩
  | intents provider items =>
      obtain ⟨ids, adds⟩ := @intend_adds script.now provider items box
      obtain ⟨-, pending, untried⟩ := adds.added id row absent found
      exact ⟨untried, fun _ => pending⟩
  | retries limit =>
      by_cases taken : id ∈ (Request.retries limit).retried script box
      · obtain ⟨old, held, -⟩ := claimRetries_notification.2 id taken
        exact absurd (absent.symm.trans held) nofun
      · exact absurd ((absent.symm.trans (claimRetries_notification.1 id taken).symm).trans found) nofun

end Rows

/-! ### One delivery -/

/-- A message about these items is accepted. -/
def Deliverable (send : String → Except RunError Int) (items : List ProviderDisplayItem) : Prop :=
  ∃ message status, format items = .ok message ∧ send message = .ok status ∧ isSuccess status = true

/-- An exception that a delivery catches. -/
def Caught (raised : RunError) : Prop :=
  ∃ error, raised = .raised error ∧ error.isAny [.runtimeError, .valueError] = true

section Deliveries

variable {script : DeliveryScript} {claimed : Claimed} {box : Outbox}

theorem caught_iff {raised : RunError} : (failureCode raised).isSome = true ↔ Caught raised := by
  cases raised with
  | classified error => exact ⟨nofun, nofun⟩
  | cancelled => exact ⟨nofun, nofun⟩
  | raised error =>
      dsimp only [failureCode]
      constructor
      · intro code
        split at code
        · next caught => exact ⟨error, rfl, caught⟩
        · exact absurd code nofun
      · rintro ⟨other, same, caught⟩
        obtain rfl := RunError.raised.inj same
        rw [if_pos caught]
        rfl

theorem transmit_eq_ok {send : String → Except RunError Int} {items : List ProviderDisplayItem} :
    transmit send items = .ok () ↔ Deliverable send items := by
  unfold transmit Deliverable
  constructor
  · intro ok
    obtain ⟨message, made, ok⟩ := bind_eq_ok.1 ok
    obtain ⟨status, answered, ok⟩ := bind_eq_ok.1 ok
    exact ⟨message, status, Collection.lifted_eq_ok.1 made, answered,
      require_eq_ok.1 (Collection.lifted_eq_ok.1 ok)⟩
  · rintro ⟨message, status, made, answered, success⟩
    exact bind_eq_ok.2 ⟨message, Collection.lifted_eq_ok.2 made, bind_eq_ok.2 ⟨status, answered,
      Collection.lifted_eq_ok.2 (require_eq_ok.2 success)⟩⟩

/-- A message that cannot be made is an error of its value. -/
theorem format_raises (items : List ProviderDisplayItem) : Raises .valueError (format items) := by
  have blocks : ∀ items : List ProviderDisplayItem, Raises .valueError (items.mapM formatItem) := by
    intro items
    induction items with
    | nil => exact raises_ok
    | cons item items ih =>
        rw [List.mapM_cons]
        refine raises_bind ?_ fun _ => raises_bind ih fun _ => raises_ok
        unfold formatItem
        split
        · exact raises_raise
        · exact raises_ok
  exact raises_bind raises_require fun _ => raises_bind (blocks items) fun _ =>
    raises_bind raises_require fun _ => raises_ok

/-- The transport raises something that is not caught, or everything that is raised is. -/
theorem transmit_caught {send : String → Except RunError Int} {items : List ProviderDisplayItem} :
    (∀ raised, transmit send items = .error raised → Caught raised) ↔
      ∀ message raised, format items = .ok message → send message = .error raised →
        Caught raised := by
  unfold transmit
  cases made : format items with
  | error error =>
      refine ⟨fun _ _ _ same => absurd same nofun, fun _ raised same => ?_⟩
      obtain rfl : RunError.raised error = raised := Except.error.inj same
      have value := format_raises items error made
      exact ⟨error, rfl, by rw [PyError.isAny, value]; rfl⟩
  | ok message =>
      constructor
      · intro every other raised same answered
        obtain rfl := Except.ok.inj same
        exact every raised (show (send message >>= _) = _ by rw [answered]; rfl)
      · intro every raised failed
        have failed : (send message >>= fun status => lifted (require (isSuccess status) .runtimeError
          "telegram_request_rejected")) = .error raised := failed
        cases answered : send message with
        | error other =>
            rw [answered] at failed
            obtain rfl : other = raised := Except.error.inj failed
            exact every message other rfl answered
        | ok status =>
            rw [answered] at failed
            have rejected : lifted (require (isSuccess status) .runtimeError
              "telegram_request_rejected") = .error raised := failed
            unfold require at rejected
            split at rejected
            · exact absurd rejected nofun
            · exact ⟨_, (Except.error.inj rejected).symm, rfl⟩

theorem committed_ok {fault : Option Collection.Fault} {before after : Outbox} :
    (committed fault before after).1 = .ok () ↔ fault = none := by
  cases fault with
  | none => exact ⟨fun _ => rfl, fun _ => rfl⟩
  | some fault => exact ⟨nofun, nofun⟩

/-- **A delivery returns** where the transport raises nothing that is not caught, and the
notifications are booked. -/
theorem deliver_returns : (∃ delivered,
      (ReliableProviderNotificationService.deliver script claimed box).1 = .ok delivered) ↔
    (claimed ≠ [] → (∀ message raised, format (claimed.map Prod.fst) = .ok message →
      script.send message = .error raised → Caught raised) ∧ script.markFault = none) := by
  rw [← transmit_caught]
  unfold ReliableProviderNotificationService.deliver
  cases claimed with
  | nil => exact ⟨fun _ nonempty => absurd rfl nonempty, fun _ => ⟨_, rfl⟩⟩
  | cons entry rest =>
      rw [if_neg (by simp)]
      have books : ∀ {box' : Outbox} {delivered : Delivered}, (∃ given,
          ((committed script.markFault box box').1.map fun _ => delivered) = .ok given) ↔
            script.markFault = none := by
        intro box' delivered
        rw [← @committed_ok script.markFault box box']
        cases (committed script.markFault box box').1 with
        | ok => exact ⟨fun _ => rfl, fun _ => ⟨_, rfl⟩⟩
        | error raised => exact ⟨nofun, nofun⟩
      cases sent : transmit script.send ((entry :: rest).map Prod.fst) with
      | ok =>
          refine books.trans ⟨fun free _ => ⟨fun _ failed => absurd failed nofun, free⟩, fun both => ?_⟩
          exact (both (List.cons_ne_nil _ _)).2
      | error raised =>
          dsimp only
          have caught := @caught_iff raised
          cases named : failureCode raised with
          | some code =>
              refine books.trans ⟨fun free _ => ⟨fun other same => ?_, free⟩, fun both => ?_⟩
              · obtain rfl := Except.error.inj same
                exact caught.1 (by rw [named]; rfl)
              · exact (both (List.cons_ne_nil _ _)).2
          | none =>
              refine ⟨nofun, fun both => ?_⟩
              have found := caught.2 ((both (List.cons_ne_nil _ _)).1 raised rfl)
              rw [named] at found
              exact absurd found Bool.false_ne_true

theorem committed_of_ok {fault : Option Collection.Fault} {before after : Outbox}
    {delivered given : Delivered}
    (ok : ((committed fault before after).1.map fun _ => delivered) = .ok given) :
    (committed fault before after).2 = after := by
  cases fault with
  | none => rfl
  | some fault => exact absurd ok nofun

theorem notification_mark {status : NotificationStatus} {failure : Option String} {now : Int}
    {ids : List Uuid} {id : Uuid} : (mark box ids status failure now).notification id =
      (box.notification id).map fun row =>
        if row.id ∈ ids then markedRow status failure now row else row :=
  Outbox.notification_change _

/-- **All of a claim is booked alike**, and nothing else is. -/
theorem deliver_books {delivered : Delivered}
    (ok : (ReliableProviderNotificationService.deliver script claimed box).1 = .ok delivered)
    (sending : ∀ entry ∈ claimed, ∃ row, box.notification entry.2 = some row ∧
      row.status = .sending) :
    (∀ entry ∈ claimed, ∃ row row', box.notification entry.2 = some row ∧
      (ReliableProviderNotificationService.deliver script claimed box).2.notification entry.2 =
        some row' ∧ row'.retryCount = row.retryCount ∧
        (row'.status = .failed ↔ ¬ Deliverable script.send (claimed.map Prod.fst))) ∧
    ∀ id, id ∉ claimed.map Prod.snd →
      (ReliableProviderNotificationService.deliver script claimed box).2.notification id =
        box.notification id := by
  have taken : ∀ status failure, ∀ entry ∈ claimed, ∃ row row', box.notification entry.2 = some row ∧
      (mark box (claimed.map Prod.snd) status failure script.markedAt).notification entry.2 =
        some row' ∧ row'.retryCount = row.retryCount ∧ row'.status = status := by
    intro status failure entry member
    obtain ⟨row, found, active⟩ := sending entry member
    have named : row.id = entry.2 := Table.key_of_find Notification.id found
    have inside : row.id ∈ claimed.map Prod.snd := named ▸ List.mem_map_of_mem member
    refine ⟨row, markedRow status failure script.markedAt row, found, ?_, ?_, ?_⟩
    · rw [notification_mark, found, Option.map_some, if_pos inside]
    · rw [markedRow, if_pos active]
    · rw [markedRow, if_pos active]
  have left : ∀ status failure id, id ∉ claimed.map Prod.snd → (mark box (claimed.map Prod.snd)
      status failure script.markedAt).notification id = box.notification id := by
    intro status failure id outside
    rw [notification_mark]
    cases found : box.notification id with
    | none => rfl
    | some row =>
        have named : row.id = id := Table.key_of_find Notification.id found
        rw [Option.map_some, if_neg (named ▸ outside)]
  unfold ReliableProviderNotificationService.deliver at ok ⊢
  split at ok
  · next empty =>
    rw [if_pos empty]
    obtain rfl : claimed = [] := List.isEmpty_iff.1 empty
    exact ⟨nofun, fun _ _ => rfl⟩
  · next nonempty =>
    rw [if_neg nonempty]
    cases sent : transmit script.send (claimed.map Prod.fst) with
    | ok =>
        rw [sent] at ok
        dsimp only at ok ⊢
        rw [committed_of_ok ok]
        refine ⟨fun entry member => ?_, fun id outside => left _ _ id outside⟩
        obtain ⟨row, row', held, found, counted, status⟩ := taken .sent none entry member
        refine ⟨row, row', held, found, counted, fun failed => absurd (status.symm.trans failed) nofun,
          fun never => ?_⟩
        exact absurd (transmit_eq_ok.1 sent) never
    | error raised =>
        rw [sent] at ok
        dsimp only at ok ⊢
        cases named : failureCode raised with
        | none =>
            rw [named] at ok
            exact absurd ok nofun
        | some code =>
            rw [named] at ok
            dsimp only at ok ⊢
            rw [committed_of_ok ok]
            refine ⟨fun entry member => ?_, fun id outside => left _ _ id outside⟩
            obtain ⟨row, row', held, found, counted, status⟩ := taken .failed (some code) entry member
            refine ⟨row, row', held, found, counted, fun _ whole => ?_, fun _ => status⟩
            exact absurd (sent.symm.trans (transmit_eq_ok.2 whole)) nofun

end Deliveries

/-! ### What is expected of a delivery -/

namespace DeliveryRecord

variable (record : DeliveryRecord)

/-- What is delivered. -/
def claimed : Claimed := record.request.claimed record.script record.before

/-- The items of the message. -/
def items : List ProviderDisplayItem := record.claimed.map Prod.fst

/-- The delivery has been made. -/
def Performed : Prop :=
  record.after = (record.request.perform record.script record.before).2

/-- The notifications that are taken up for another try. -/
def retried : List Uuid := record.request.retried record.script record.before

/-- **What is expected of a delivery**: an item that can be delivered alone is not booked as failed. A
notification that is not taken up stays in its status, with its tries; for one that is, this is a try
of its own, and it is one that may be tried again; one that is new has not been tried. -/
structure Isolated : Prop where
  kept : ∀ entry ∈ record.claimed, Deliverable record.script.send [entry.1] →
    ∀ row, record.after.notification entry.2 = some row → row.status ≠ .failed
  others : ∀ id row, record.before.notification id = some row → id ∉ record.retried →
    record.after.notification id = some row
  tried : ∀ id ∈ record.retried, ∃ row row', record.before.notification id = some row ∧
    row.retryCount < maxDeliveryAttempts ∧
    (row.status = .pending ∨ row.status = .failed ∨ row.status = .sending) ∧
    record.after.notification id = some row' ∧
    row'.retryCount = row.retryCount + (if row.status = .pending then 0 else 1) ∧
    (id ∉ record.claimed.map Prod.snd → row'.status = .sending)
  added : ∀ id row, record.before.notification id = none → record.after.notification id = some row →
    row.retryCount = 0 ∧ (id ∉ record.claimed.map Prod.snd → row.status = .pending)

/-- **Nothing is raised that is not caught**: the database does not fail, and the transport raises
only what a delivery catches. -/
structure Contained : Prop where
  claims : record.script.claimFault = none
  finds : record.request.sought record.script record.before ≠ [] → record.script.feedFault = none
  delivers : record.claimed ≠ [] → (∀ message raised, format record.items = .ok message →
    record.script.send message = .error raised → Caught raised) ∧ record.script.markFault = none

/-- **The items can be delivered together, or none of them alone.** -/
def Uniform : Prop :=
  Deliverable record.script.send record.items ∨
    ∀ item ∈ record.items, ¬ Deliverable record.script.send [item]

end DeliveryRecord

section Requests

variable {request : Request} {script : DeliveryScript} {box : Outbox} {record : DeliveryRecord}

/-- A request returns where nothing is raised that is not caught. -/
theorem perform_returns : (∃ delivered, (request.perform script box).1 = .ok delivered) ↔
    (⟨request, script, box, (request.perform script box).2⟩ : DeliveryRecord).Contained := by
  have first := @committed_ok script.claimFault box (request.claim script box)
  unfold Request.perform
  cases fault : script.claimFault with
  | some fault => exact ⟨nofun, fun contained => absurd (fault.symm.trans contained.claims) nofun⟩
  | none =>
      dsimp only [committed]
      cases sought : request.sought script box with
      | nil =>
          refine deliver_returns.trans ⟨fun delivers => ⟨fault, fun some => ?_, delivers⟩,
            fun contained => contained.delivers⟩
          exact absurd sought some
      | cons found rest =>
          have nonempty : request.sought script box ≠ [] := by
            rw [sought]
            exact List.cons_ne_nil _ _
          rw [if_neg (by simp)]
          cases query : script.feedFault with
          | some raised =>
              exact ⟨nofun, fun contained => absurd (query.symm.trans (contained.finds nonempty)) nofun⟩
          | none =>
              exact deliver_returns.trans ⟨fun delivers => ⟨fault, fun _ => query, delivers⟩,
                fun contained => contained.delivers⟩

theorem perform_contained (contained : (⟨request, script, box,
      (request.perform script box).2⟩ : DeliveryRecord).Contained) :
    request.perform script box = ReliableProviderNotificationService.deliver script
      (request.claimed script box) (request.claim script box) := by
  unfold Request.perform
  rw [show script.claimFault = none from contained.claims]
  dsimp only [committed]
  cases sought : request.sought script box with
  | nil => rfl
  | cons found rest =>
      have nonempty : request.sought script box ≠ [] := by
        rw [sought]
        exact List.cons_ne_nil _ _
      rw [show script.feedFault = none from contained.finds nonempty]
      rfl

/-- What is retried may be tried again. -/
theorem spec_of_retryable {stale : Int} {row : Notification} (again : retryable stale row = true) :
    row.retryCount < maxDeliveryAttempts ∧
      (row.status = .pending ∨ row.status = .failed ∨ row.status = .sending) := by
  obtain ⟨-, below, status⟩ := of_decide_eq_true again
  exact ⟨below, status.imp_right (Or.imp_right And.left)⟩

/-- **What a delivery does to each notification**, whether it fails or not. -/
theorem perform_books (performed : record.Performed) (contained : record.Contained) :
    (∀ entry ∈ record.claimed, ∃ row row',
      (record.request.claim record.script record.before).notification entry.2 = some row ∧
      record.after.notification entry.2 = some row' ∧ row'.retryCount = row.retryCount ∧
      (row'.status = .failed ↔ ¬ Deliverable record.script.send record.items)) ∧
    ∀ id, id ∉ record.claimed.map Prod.snd → record.after.notification id =
      (record.request.claim record.script record.before).notification id := by
  obtain ⟨request, script, box, after⟩ := record
  obtain rfl : after = (request.perform script box).2 := performed
  obtain ⟨delivered, ok⟩ := perform_returns.2 contained
  have same := perform_contained contained
  rw [same] at ok
  have books := deliver_books ok fun entry member => Request.claimed_sending member
  rw [← same] at books
  exact books

/-- **A delivery is isolated** when its items can be delivered together, or none of them alone. -/
theorem isolated_iff (performed : record.Performed) (contained : record.Contained) :
    record.Isolated ↔ record.Uniform := by
  obtain ⟨booked, left⟩ := perform_books performed contained
  constructor
  · intro isolated
    by_contra mixed
    obtain ⟨apart, some⟩ := not_or.1 mixed
    push Not at some
    obtain ⟨item, member, alone⟩ := some
    obtain ⟨entry, inside, rfl⟩ := List.mem_map.1 member
    obtain ⟨-, row, -, found, -, failed⟩ := booked entry inside
    exact isolated.kept entry inside alone row found (failed.2 apart)
  · intro uniform
    refine ⟨fun entry inside alone row found failed => ?_, fun id row held apart => ?_,
      fun id taken => ?_, fun id row absent found => ?_⟩
    · obtain ⟨-, row', -, found', -, fails⟩ := booked entry inside
      obtain rfl := Option.some.inj (found.symm.trans found')
      rcases uniform with whole | none
      · exact fails.1 failed whole
      · exact none entry.1 (List.mem_map_of_mem inside) alone
    · obtain ⟨claimed, outside⟩ := Request.claim_kept held apart
      exact (left id outside).trans claimed
    · obtain ⟨row, held, again, claimed⟩ := Request.claim_retried taken
      obtain ⟨below, status⟩ := spec_of_retryable again
      have tries : (retriedRow record.script.now row).retryCount =
          row.retryCount + (if row.status = .pending then 0 else 1) := by
        unfold retriedRow
        split
        · rfl
        · rfl
      by_cases inside : id ∈ record.claimed.map Prod.snd
      · obtain ⟨entry, member, rfl⟩ := List.mem_map.1 inside
        obtain ⟨old, row', held', found, counted, -⟩ := booked entry member
        obtain rfl := Option.some.inj (claimed.symm.trans held')
        exact ⟨row, row', held, below, status, found, counted.trans tries,
          fun outside => absurd inside outside⟩
      · exact ⟨row, _, held, below, status, (left id inside).trans claimed, tries, fun _ => rfl⟩
    · by_cases inside : id ∈ record.claimed.map Prod.snd
      · obtain ⟨entry, member, rfl⟩ := List.mem_map.1 inside
        obtain ⟨old, row', held', found', counted, -⟩ := booked entry member
        obtain rfl := Option.some.inj (found.symm.trans found')
        exact ⟨counted.trans (Request.claim_added absent held').1, fun outside => absurd inside outside⟩
      · exact Request.claim_added absent ((left id inside).symm.trans found)

end Requests

/-! ### A cycle -/

/-- **What a part of a cycle has gone through**: the deliveries it has made. It comes to its end
unless it is cancelled, or one of them raises what is not caught. -/
def Goes (cancelled ended : Prop) (cycle cycle' : Cycle) : Prop :=
  ∃ later, cycle'.log = cycle.log ++ later ∧ (∀ record ∈ later, record.Performed) ∧
    (ended ↔ ¬ cancelled ∧ ∀ record ∈ later, record.Contained)

/-- What is made of a result is there when the result is. -/
theorem returns_map {ε α β : Type} {result : Except ε α} {next : α → β} :
    (∃ value, result.map next = .ok value) ↔ ∃ held, result = .ok held := by
  cases result with
  | ok held => exact ⟨fun _ => ⟨held, rfl⟩, fun _ => ⟨next held, rfl⟩⟩
  | error raised => exact ⟨nofun, nofun⟩

namespace MultiProviderTelegramScheduler

section Cycles

variable {credential : Bool} {script : ProviderScript} {scripts : String → ProviderScript}
  {provider : String} {cycle : Cycle}

theorem ask_goes {request : Request} {script : DeliveryScript} : Goes False
    (∃ delivered, (cycle.ask request script).1 = .ok delivered) cycle
    (cycle.ask request script).2 := by
  refine ⟨_, rfl, fun record member => ?_, ?_⟩
  · obtain rfl := List.mem_singleton.1 member
    rfl
  · refine (@perform_returns request script cycle.outbox).trans ⟨fun contained => ⟨id, ?_⟩, fun both =>
      both.2 _ List.mem_cons_self⟩
    intro record member
    obtain rfl := List.mem_singleton.1 member
    exact contained

theorem outcome_eq_error {executor : Option (Except RunError ProviderItems)} :
    (∃ result, outcome provider executor = .ok result) ↔ ¬ executor = some (.error .cancelled) := by
  unfold outcome
  split
  · exact ⟨fun _ => nofun, fun _ => ⟨_, rfl⟩⟩
  · exact ⟨fun _ => nofun, fun _ => ⟨_, rfl⟩⟩
  · exact ⟨nofun, fun never => absurd rfl never⟩
  · next raised other =>
    refine ⟨fun _ same => ?_, fun _ => ⟨_, rfl⟩⟩
    obtain rfl := Except.error.inj (Option.some.inj same)
    exact other rfl

/-- One provider: it is executed if it is configured, and is reported. -/
theorem runProvider_spec :
    Goes (script.executor = some (.error .cancelled))
      (∃ report, (runProvider credential script provider cycle).1 = .ok report) cycle
      (runProvider credential script provider cycle).2 ∧
    (runProvider credential script provider cycle).2.executed = cycle.executed ++
      (if script.executor.isSome then [provider] else []) ∧
    ∀ report, (runProvider credential script provider cycle).1 = .ok report →
      report.provider = provider := by
  have executed : (cycle.begin provider script).executed =
      cycle.executed ++ (if script.executor.isSome then [provider] else []) := by
    unfold Cycle.begin
    dsimp only
    split
    · rfl
    · exact (List.append_nil _).symm
  have ends := @outcome_eq_error provider script.executor
  unfold runProvider
  dsimp only
  cases came : outcome provider script.executor with
  | error raised =>
      rw [came] at ends
      have cancelled := not_not.1 fun never => Exists.elim (ends.2 never) nofun
      exact ⟨⟨[], (List.append_nil _).symm, List.forall_mem_nil _,
        ⟨nofun, fun both => absurd cancelled both.1⟩⟩,
        executed, nofun⟩
  | ok result =>
      have goes := ends.1 ⟨result, came⟩
      dsimp only
      split
      · refine ⟨⟨[], (List.append_nil _).symm, List.forall_mem_nil _,
          ⟨fun _ => ⟨goes, List.forall_mem_nil _⟩, fun _ => ⟨_, rfl⟩⟩⟩, executed,
          fun report same => ?_⟩
        obtain rfl := Except.ok.inj same
        rfl
      · obtain ⟨later, log, performed, ended⟩ := @ask_goes (cycle.begin provider script)
          (newRequest credential provider result.items) script.delivery
        have kept : ((cycle.begin provider script).ask (newRequest credential provider result.items)
            script.delivery).2.executed = (cycle.begin provider script).executed := rfl
        replace executed := kept.trans executed
        generalize (cycle.begin provider script).ask (newRequest credential provider result.items)
          script.delivery = made at log ended executed ⊢
        obtain ⟨answer, after⟩ := made
        refine ⟨⟨later, log, performed, ?_⟩, executed, fun report same => ?_⟩
        · exact returns_map.trans (ended.trans (and_congr_left' (iff_of_true id goes)))
        · obtain ⟨delivered, -, rfl⟩ := map_eq_ok.1 same
          rfl

/-- The providers in their order. -/
theorem runProviders_spec (providers : List String) (cycle : Cycle) :
    Goes (∃ provider ∈ providers, (scripts provider).executor = some (.error .cancelled))
      (∃ reports, (runProviders credential scripts providers cycle).1 = .ok reports) cycle
      (runProviders credential scripts providers cycle).2 ∧
    ∀ reports, (runProviders credential scripts providers cycle).1 = .ok reports →
      reports.map (·.provider) = providers ∧
      (runProviders credential scripts providers cycle).2.executed = cycle.executed ++
        providers.filter fun provider => (scripts provider).executor.isSome := by
  induction providers generalizing cycle with
  | nil =>
      refine ⟨⟨[], (List.append_nil _).symm, List.forall_mem_nil _,
        ⟨fun _ => ⟨by simp, List.forall_mem_nil _⟩, fun _ => ⟨_, rfl⟩⟩⟩, fun reports same => ?_⟩
      obtain rfl := Except.ok.inj same
      exact ⟨rfl, (List.append_nil _).symm⟩
  | cons provider providers ih =>
      obtain ⟨⟨first, log, performed, ended⟩, executed, named⟩ :=
        @runProvider_spec credential (scripts provider) provider cycle
      unfold runProviders
      generalize runProvider credential (scripts provider) provider cycle = made
        at log ended executed named ⊢
      obtain ⟨raised | report, next⟩ := made
      · refine ⟨⟨first, log, performed, ⟨nofun, fun both => ?_⟩⟩, nofun⟩
        have going := ended.2 ⟨fun here => both.1 ⟨provider, List.mem_cons_self, here⟩, both.2⟩
        exact Exists.elim going nofun
      · obtain ⟨here, contained⟩ := ended.1 ⟨report, rfl⟩
        obtain ⟨⟨rest, log', performed', ended'⟩, reported⟩ := ih next
        dsimp only at log executed ⊢
        generalize runProviders credential scripts providers next = made
          at log' ended' reported ⊢
        obtain ⟨reports, last⟩ := made
        refine ⟨⟨first ++ rest, by rw [log', log, List.append_assoc],
          List.forall_mem_append.2 ⟨performed, performed'⟩, ?_⟩, fun reports same => ?_⟩
        · refine returns_map.trans (ended'.trans ⟨?_, ?_⟩)
          · rintro ⟨later, contained'⟩
            refine ⟨?_, List.forall_mem_append.2 ⟨contained, contained'⟩⟩
            rintro ⟨other, member, cancelled⟩
            rcases List.mem_cons.1 member with rfl | member
            · exact here cancelled
            · exact later ⟨other, member, cancelled⟩
          · rintro ⟨never, every⟩
            refine ⟨?_, (List.forall_mem_append.1 every).2⟩
            rintro ⟨other, member, cancelled⟩
            exact never ⟨other, List.mem_cons_of_mem _ member, cancelled⟩
        · obtain ⟨held, ok, rfl⟩ := map_eq_ok.1 same
          obtain ⟨providers', executed'⟩ := reported held ok
          refine ⟨?_, ?_⟩
          · rw [List.map_cons, providers', named report rfl]
          · rw [executed', executed, List.append_assoc, List.filter_cons]
            congr 1
            split
            · rfl
            · rfl

theorem runRetries_goes {last : DeliveryScript} : Goes False
    (∃ answer, (runRetries credential last cycle).1 = .ok answer) cycle
    (runRetries credential last cycle).2 := by
  unfold runRetries
  split
  · obtain ⟨later, log, performed, ended⟩ := @ask_goes cycle (.retries 5) last
    exact ⟨later, log, performed, returns_map.trans ended⟩
  · exact ⟨[], (List.append_nil _).symm, List.forall_mem_nil _,
      ⟨fun _ => ⟨id, List.forall_mem_nil _⟩, fun _ => ⟨_, rfl⟩⟩⟩

/-- **What is expected of a cycle**: every provider is executed if it is configured, and reported, and
every delivery is isolated. -/
structure FailuresIsolated (credential : Bool) (scripts : String → ProviderScript)
    (last : DeliveryScript) (box : Outbox) : Prop where
  reported : ∃ summary, (run credential scripts last box).1 = .ok summary ∧
    summary.providers.map (·.provider) = providerOrder
  executed : (run credential scripts last box).2.executed =
    providerOrder.filter fun provider => (scripts provider).executor.isSome
  isolated : ∀ record ∈ (run credential scripts last box).2.log, record.Isolated

/-- A cycle comes to its end. -/
theorem run_spec {last : DeliveryScript} {box : Outbox} :
    Goes (∃ provider ∈ providerOrder, (scripts provider).executor = some (.error .cancelled))
      (∃ summary, (run credential scripts last box).1 = .ok summary) ⟨box, [], []⟩
      (run credential scripts last box).2 ∧
    ∀ summary, (run credential scripts last box).1 = .ok summary →
      summary.providers.map (·.provider) = providerOrder ∧
      (run credential scripts last box).2.executed =
        providerOrder.filter fun provider => (scripts provider).executor.isSome := by
  obtain ⟨⟨first, log, performed, ended⟩, reported⟩ :=
    @runProviders_spec credential scripts providerOrder ⟨box, [], []⟩
  unfold run
  generalize runProviders credential scripts providerOrder ⟨box, [], []⟩ = made
    at log ended reported ⊢
  obtain ⟨raised | reports, next⟩ := made
  · exact ⟨⟨first, log, performed, ⟨nofun, fun both => Exists.elim (ended.2 both) nofun⟩⟩, nofun⟩
  · obtain ⟨never, contained⟩ := ended.1 ⟨reports, rfl⟩
    obtain ⟨rest, log', performed', ended'⟩ := @runRetries_goes credential next last
    obtain ⟨providers, executed⟩ := reported reports rfl
    have kept : (runRetries credential last next).2.executed = next.executed := by
      unfold runRetries
      split
      · rfl
      · rfl
    dsimp only at log ⊢
    generalize runRetries credential last next = made at log' ended' kept ⊢
    obtain ⟨answer, after⟩ := made
    refine ⟨⟨first ++ rest, by rw [log', log, List.append_assoc],
      List.forall_mem_append.2 ⟨performed, performed'⟩, ?_⟩, fun summary same => ?_⟩
    · refine returns_map.trans (ended'.trans ⟨?_, ?_⟩)
      · rintro ⟨-, contained'⟩
        exact ⟨never, List.forall_mem_append.2 ⟨contained, contained'⟩⟩
      · rintro ⟨-, every⟩
        exact ⟨id, (List.forall_mem_append.1 every).2⟩
    · obtain ⟨answer, -, rfl⟩ := map_eq_ok.1 same
      exact ⟨providers, kept.trans executed⟩

/-- **Failures are isolated** in the cycles in which no executor is cancelled, and every delivery
raises nothing that it does not catch, and claims what can be delivered together, or nothing that can
be delivered alone. -/
theorem failures_isolated_iff (credential : Bool) (scripts : String → ProviderScript)
    (last : DeliveryScript) (box : Outbox) :
    FailuresIsolated credential scripts last box ↔
      (∀ provider ∈ providerOrder, (scripts provider).executor ≠ some (.error .cancelled)) ∧
      ∀ record ∈ (run credential scripts last box).2.log, record.Contained ∧ record.Uniform := by
  obtain ⟨⟨later, log, performed, ended⟩, reported⟩ := @run_spec credential scripts last box
  rw [List.nil_append] at log
  constructor
  · intro isolated
    obtain ⟨summary, ok, -⟩ := isolated.reported
    obtain ⟨never, contained⟩ := ended.1 ⟨summary, ok⟩
    refine ⟨fun provider member cancelled => never ⟨provider, member, cancelled⟩, ?_⟩
    intro record member
    have inside : record ∈ later := log ▸ member
    exact ⟨contained record inside,
      (isolated_iff (performed record inside) (contained record inside)).1
        (isolated.isolated record member)⟩
  · rintro ⟨never, every⟩
    obtain ⟨summary, ok⟩ := ended.2 ⟨fun ⟨provider, member, cancelled⟩ =>
      never provider member cancelled, fun record inside => (every record (log ▸ inside)).1⟩
    obtain ⟨providers, executed⟩ := reported summary ok
    refine ⟨⟨summary, ok, providers⟩, executed, fun record member => ?_⟩
    obtain ⟨contained, uniform⟩ := every record member
    exact (isolated_iff (performed record (log ▸ member)) contained).2 uniform

end Cycles

/-! ### Two news -/

/-- A delivery whose messages are answered like this, and which meets no other failure. -/
def answering (send : String → Except RunError Int) : DeliveryScript where
  now := 0
  claimFault := none
  feed := [⟨1, some "Oil is up", some 0, none, "Marketaux", "marketaux"⟩,
    ⟨2, some "Gold is down", some 0, none, "Marketaux", "marketaux"⟩]
  feedFault := none
  send := send
  markedAt := 0
  markFault := none

def emptyOutbox : Outbox := ⟨[], 0, ⟨id, fun _ _ => id⟩, by decide, by decide, nofun⟩

def oilNews : ProviderDisplayItem := ⟨1, "marketaux", "Oil is up", "Marketaux", 0, none⟩

def goldNews : ProviderDisplayItem := ⟨2, "marketaux", "Gold is down", "Marketaux", 0, none⟩

/-- Both are new, and no other provider is configured. -/
def twoNews (send : String → Except RunError Int) (provider : String) : ProviderScript where
  executor :=
    if provider = "marketaux" then
      some (.ok ⟨⟨provider, .pass, "processed", 2, [], none⟩, 2, 2, [oilNews, goldNews]⟩)
    else none
  meanwhile := id
  delivery := answering send

/-- A transport that accepts the news about oil, and rejects every other message. -/
def oilOnly (message : String) : Except RunError Int :=
  .ok (if format [oilNews] = .ok message then 200 else 400)

/-- **An item that is claimed with one that is rejected fails** with it, at once and at the retry. -/
theorem claimed_together :
    ¬ FailuresIsolated true (twoNews oilOnly) (answering oilOnly) emptyOutbox ∧
      transmit oilOnly [oilNews] = .ok () ∧
      ((run true (twoNews oilOnly) (answering oilOnly) emptyOutbox).2.outbox.rows.map fun row =>
          (row.contentItemId, row.status, row.retryCount, row.failureCode)) =
        [(some 1, .failed, 1, some "telegram_request_rejected"),
          (some 2, .failed, 1, some "telegram_request_rejected")] := by
  refine ⟨fun isolated => ?_, by decide +kernel, by decide +kernel⟩
  obtain ⟨record, logged, member, alone, failed⟩ : ∃ record ∈
      (run true (twoNews oilOnly) (answering oilOnly) emptyOutbox).2.log,
        (oilNews, 0) ∈ record.claimed ∧ transmit record.script.send [oilNews] = .ok () ∧
          (record.after.notification 0).map Notification.status = some .failed := by
    decide +kernel
  obtain ⟨row, found, status⟩ := Option.map_eq_some_iff.1 failed
  exact (isolated.isolated record logged).kept (oilNews, 0) member (transmit_eq_ok.1 alone) row found
    status

end MultiProviderTelegramScheduler

end NewsCollect.Notifications
