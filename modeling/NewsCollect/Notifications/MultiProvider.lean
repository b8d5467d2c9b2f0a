/-
**A cycle over the providers, with its deliveries.**

A provider is executed, and the items that are new are delivered as one message: their notifications
are claimed in one transaction, and booked in another one, all alike. After the last provider the
notifications that have failed, or have been left, are claimed again and delivered in the same way,
whatever their providers are. Only the execution, and some exceptions of the message and of the
transport, are caught.

* `ReliableProviderNotificationService.claimNew`, `ReliableProviderNotificationService.claimRetries`.
* `ReliableProviderNotificationService.deliver`: the items that have been claimed, as one message.
* `MultiProviderTelegramScheduler.run`: a cycle, along its script.
-/

import NewsCollect.Collection.ProviderRuntime
import NewsCollect.Notifications.Outbox

namespace NewsCollect.Notifications

open Calendar
open Collection (Uuid RunError Fault ProviderCycleResult ProviderScheduleStatus lifted providerOrder)

/-! ### What is reported -/

/-- The result of a provider, with the items that are to be shown. -/
structure ProviderItems extends ProviderCycleResult where
  evidenceItemCount : Nat
  contentItemCount : Nat
  items : List ProviderDisplayItem

structure ProviderScheduleReport where
  provider : String
  status : ProviderScheduleStatus
  collectionStatus : String
  rawItemCount : Nat
  evidenceItemCount : Nat
  contentItemCount : Nat
  sentCount : Nat
  failedCount : Nat
  safeErrors : List String
  deliveryStatus : String
  deliverySafeErrors : List String
deriving DecidableEq

structure MultiProviderScheduleSummary where
  status : String
  providers : List ProviderScheduleReport
  retrySentCount : Nat
  retryFailedCount : Nat
  retryExhaustedCount : Nat
  deliveryStatus : String
deriving DecidableEq

/-- The items of a claim that have been sent, those that have failed, and why. -/
structure Delivered where
  sent : Nat
  failed : Nat
  errors : List String
deriving DecidableEq

deriving instance DecidableEq for ProviderDisplayItem

/-- The items of a claim, each with its notification. -/
abbrev Claimed : Type := List (ProviderDisplayItem × Uuid)

/-- What a delivery meets: the clock and the database at its claim, the content that is found, how
the transport answers a message, and the clock and the database when it is booked. -/
structure DeliveryScript where
  now : Int
  claimFault : Option Fault
  feed : List FeedRow
  feedFault : Option RunError
  send : String → Except RunError Int
  markedAt : Int
  markFault : Option Fault

/-- A transaction, under a failure of the database if there is one. -/
def committed (fault : Option Fault) (before after : Outbox) : Except RunError Unit × Outbox :=
  match fault with
  | none => (.ok (), after)
  | some fault => (.error fault.error, if fault.committed then after else before)

/-! ### The service -/

namespace ReliableProviderNotificationService

/-- `_claim_new`: the items that have no notification yet are being sent from now on. -/
def claimNew (now : Int) (provider : String) :
    List ProviderDisplayItem → Outbox → Claimed × Outbox
  | [], box => ([], box)
  | item :: items, box =>
      match box.insert .sending now provider item.contentItemId with
      | (some id, box) =>
          let (claimed, box) := claimNew now provider items box
          ((item, id) :: claimed, box)
      | (none, box) => claimNew now provider items box

def maxDeliveryAttempts : Nat := 3

def sendingStaleAfterSeconds : Int := 300

/-- A notification that is to be sent again. -/
def retryable (stale : Int) (row : Notification) : Bool :=
  row.policyRuleId = policyId ∧ row.retryCount < maxDeliveryAttempts ∧
    (row.status = .pending ∨ row.status = .failed ∨
      row.status = .sending ∧ row.scheduledAt.any (· < stale) = true)

/-- The notifications that a claim of retries takes. -/
def retries (now : Int) (limit : Nat) (rows : List Notification) : List Notification :=
  Table.pick Notification.id (retryable (now - sendingStaleAfterSeconds * second)) precedes limit []
    rows

/-- A notification that is being sent again. -/
def retriedRow (now : Int) (row : Notification) : Notification :=
  { row with
    status := .sending
    retryCount := if row.status = .pending then row.retryCount else row.retryCount + 1
    scheduledAt := some now
    failureCode := none }

/-- The notifications of a claim of retries that are about an item, each with this. -/
def retriedItems (taken : List Notification) : List (Uuid × Uuid) :=
  taken.filterMap fun row => row.contentItemId.map fun content => (row.id, content)

/-- What is shown of the notifications that have been claimed, if there is something to show. -/
def available (feed : List FeedRow) (rows : List (Uuid × Uuid)) : Claimed :=
  let items := byContentIds feed (rows.map Prod.snd)
  let ids := (rows.filter fun row => items.any (·.contentItemId == row.2)).map Prod.fst
  items.zip ids

/-- The notifications that are not sent again. -/
def exhausted (rows : List Notification) : Nat :=
  rows.countP fun row => row.policyRuleId = policyId ∧ maxDeliveryAttempts ≤ row.retryCount ∧
    (row.status = .failed ∨ row.status = .sending)

/-- The transaction of `_claim_retries`. -/
def claimRetries (now : Int) (limit : Nat) (box : Outbox) : List (Uuid × Uuid) × Outbox :=
  let taken := retries now limit box.rows
  (retriedItems taken,
    box.change (taken.map (·.id)) (retriedRow now) fun _ => ⟨rfl, rfl⟩)

/-- A notification that has been sent, or has failed. -/
def markedRow (status : NotificationStatus) (failure : Option String) (now : Int)
    (row : Notification) : Notification :=
  if row.status = .sending then
    { row with
      status := status
      sentAt := if status = .sent then some now else none
      failureCode := failure }
  else row

/-- `_mark`. -/
def mark (box : Outbox) (ids : List Uuid) (status : NotificationStatus) (failure : Option String)
    (now : Int) : Outbox :=
  box.change ids (markedRow status failure now) fun row => by
    unfold markedRow
    split
    · exact ⟨rfl, rfl⟩
    · exact ⟨rfl, rfl⟩

/-- The exceptions that a delivery catches, with the code they are booked under. -/
def failureCode : RunError → Option String
  | .raised error =>
      if error.isAny [.runtimeError, .valueError] then
        some (if error.message ∈ ["telegram_request_rejected", "telegram_transport_failed",
            "telegram_message_too_long", "telegram_provider_unsupported"] then error.message
          else "telegram_delivery_failed")
      else none
  | _ => none

/-- Hand the items to the transport, as one message. -/
def transmit (send : String → Except RunError Int) (items : List ProviderDisplayItem) :
    Except RunError Unit := do
  let message ← lifted (format items)
  let status ← send message
  lifted (require (isSuccess status) .runtimeError "telegram_request_rejected")

/-- `_deliver`. -/
def deliver (script : DeliveryScript) (claimed : Claimed) (box : Outbox) :
    Except RunError Delivered × Outbox :=
  if claimed.isEmpty then (.ok ⟨0, 0, []⟩, box)
  else
    match transmit script.send (claimed.map Prod.fst) with
    | .ok () =>
        let (booked, box) := committed script.markFault box
          (mark box (claimed.map Prod.snd) .sent none script.markedAt)
        (booked.map fun _ => ⟨claimed.length, 0, []⟩, box)
    | .error raised =>
        match failureCode raised with
        | some code =>
            let (booked, box) := committed script.markFault box
              (mark box (claimed.map Prod.snd) .failed (some code) script.markedAt)
            (booked.map fun _ => ⟨0, claimed.length, [code]⟩, box)
        | none => (.error raised, box)

end ReliableProviderNotificationService

/-- `PendingProviderNotificationService.deliver_new`: intents of the items that have none. -/
def intend (now : Int) (provider : String) (items : List ProviderDisplayItem) (box : Outbox) :
    Outbox :=
  items.foldl (fun box item => (box.insert .pending now provider item.contentItemId).2) box

/-! ### The deliveries of a cycle -/

/-- What a cycle asks of the service: to deliver items that are new, to leave intents of them when
there is no credential, and to deliver what has failed. -/
inductive Request where
  | new (provider : String) (items : List ProviderDisplayItem)
  | intents (provider : String) (items : List ProviderDisplayItem)
  | retries (limit : Nat)

open ReliableProviderNotificationService

/-- The transaction that a request begins with. -/
def Request.claim (script : DeliveryScript) (box : Outbox) : Request → Outbox
  | .new provider items => (claimNew script.now provider items box).2
  | .intents provider items => intend script.now provider items box
  | .retries limit => (claimRetries script.now limit box).2

/-- The notifications of a request whose content is looked up. -/
def Request.sought (script : DeliveryScript) (box : Outbox) : Request → List (Uuid × Uuid)
  | .retries limit => (claimRetries script.now limit box).1
  | _ => []

/-- What a request delivers. -/
def Request.claimed (script : DeliveryScript) (box : Outbox) : Request → Claimed
  | .new provider items => (claimNew script.now provider items box).1
  | .intents _ _ => []
  | .retries limit => available script.feed (claimRetries script.now limit box).1

/-- `deliver_new`, `deliver_retries`. -/
def Request.perform (request : Request) (script : DeliveryScript) (box : Outbox) :
    Except RunError Delivered × Outbox :=
  match committed script.claimFault box (request.claim script box) with
  | (.error raised, box) => (.error raised, box)
  | (.ok (), after) =>
      match if (request.sought script box).isEmpty then none else script.feedFault with
      | some raised => (.error raised, after)
      | none =>
          ReliableProviderNotificationService.deliver script (request.claimed script box) after

/-- What has been seen of a delivery: the notifications before it, what it has met, and the
notifications after it. -/
structure DeliveryRecord where
  request : Request
  script : DeliveryScript
  before : Outbox
  after : Outbox

/-! ### The cycle -/

/-- What a cycle meets at a provider: its executor, if it is configured, with the result or the
exception; what others do to the notifications meanwhile; and its delivery. -/
structure ProviderScript where
  executor : Option (Except RunError ProviderItems)
  meanwhile : Outbox → Outbox
  delivery : DeliveryScript

/-- The state of a cycle: the notifications, and, as history, the providers that have been executed,
and the deliveries. -/
structure Cycle where
  outbox : Outbox
  executed : List String
  log : List DeliveryRecord

/-- A provider is executed, if it is configured, while others go on. -/
def Cycle.begin (cycle : Cycle) (provider : String) (script : ProviderScript) : Cycle :=
  { cycle with
    outbox := script.meanwhile cycle.outbox
    executed := if script.executor.isSome then cycle.executed ++ [provider] else cycle.executed }

/-- A request of the cycle. -/
def Cycle.ask (cycle : Cycle) (request : Request) (script : DeliveryScript) :
    Except RunError Delivered × Cycle :=
  let (delivered, after) := request.perform script cycle.outbox
  (delivered, { cycle with
    outbox := after
    log := cycle.log ++ [⟨request, script, cycle.outbox, after⟩] })

namespace MultiProviderTelegramScheduler

/-- What becomes of a provider: any exception of its executor is a result. -/
def outcome (provider : String) :
    Option (Except RunError ProviderItems) → Except RunError ProviderItems
  | none => .ok ⟨⟨provider, .blocked, "not_started", 0, ["provider_runtime_credential_missing"],
      none⟩, 0, 0, []⟩
  | some (.ok result) => .ok result
  | some (.error .cancelled) => .error .cancelled
  | some (.error _) => .ok ⟨⟨provider, .failed, "failed", 0, ["provider_cycle_failed"], none⟩, 0, 0,
      []⟩

/-- The request for the items of a provider. -/
def newRequest (credential : Bool) (provider : String) (items : List ProviderDisplayItem) :
    Request :=
  if credential then .new provider items else .intents provider items

/-- How the items of a provider have been delivered; without a credential they are not. -/
def delivered (credential : Bool) : Option Delivered → String × Nat × Nat × List String
  | none =>
      if credential then ("NO_NEW_ITEMS", 0, 0, [])
      else ("BLOCKED", 0, 0, ["telegram_runtime_credential_missing"])
  | some delivered =>
      if credential then
        (if delivered.failed ≠ 0 then "FAILED"
          else if delivered.sent ≠ 0 then "PASS" else "NO_NEW_ITEMS",
          delivered.sent, delivered.failed, delivered.errors)
      else ("BLOCKED", 0, 0, ["telegram_runtime_credential_missing"])

/-- The report of a provider. -/
def report (credential : Bool) (provider : String) (result : ProviderItems)
    (answer : Option Delivered) : ProviderScheduleReport :=
  let (status, sent, failed, errors) := delivered credential answer
  ⟨provider, result.status, result.collectionStatus, result.rawItemCount, result.evidenceItemCount,
    result.contentItemCount, sent, failed, result.safeErrors, status, errors⟩

/-- One provider. -/
def runProvider (credential : Bool) (script : ProviderScript) (provider : String) (cycle : Cycle) :
    Except RunError ProviderScheduleReport × Cycle :=
  let cycle := cycle.begin provider script
  match outcome provider script.executor with
  | .error raised => (.error raised, cycle)
  | .ok result =>
      if result.items.isEmpty then (.ok (report credential provider result none), cycle)
      else
        let (answer, cycle) :=
          cycle.ask (newRequest credential provider result.items) script.delivery
        (answer.map fun answer => report credential provider result (some answer), cycle)

/-- The providers, in their order. -/
def runProviders (credential : Bool) (scripts : String → ProviderScript) :
    List String → Cycle → Except RunError (List ProviderScheduleReport) × Cycle
  | [], cycle => (.ok [], cycle)
  | provider :: providers, cycle =>
      match runProvider credential (scripts provider) provider cycle with
      | (.error raised, cycle) => (.error raised, cycle)
      | (.ok report, cycle) =>
          let (reports, cycle) := runProviders credential scripts providers cycle
          (reports.map (report :: ·), cycle)

/-- The summary of a cycle. -/
def summary (credential : Bool) (reports : List ProviderScheduleReport) (answer : Delivered)
    (exhausted : Nat) : MultiProviderScheduleSummary :=
  let status :=
    if !credential then "BLOCKED"
    else if answer.failed ≠ 0 then "FAILED"
    else if answer.sent ≠ 0 || reports.any (·.deliveryStatus == "PASS") then "PASS"
    else "NO_NEW_ITEMS"
  ⟨if reports.any (fun report => report.status ∈ [.failed, .blocked, .retry]) ||
      status ∈ ["BLOCKED", "FAILED"] then "PARTIAL" else "PASS",
    reports, answer.sent, answer.failed, exhausted, status⟩

/-- The notifications that have failed, if there is a credential. -/
def runRetries (credential : Bool) (script : DeliveryScript) (cycle : Cycle) :
    Except RunError (Delivered × Nat) × Cycle :=
  if credential then
    let (answer, after) := cycle.ask (.retries 5) script
    (answer.map fun answer =>
      (answer, exhausted (claimRetries script.now 5 cycle.outbox).2.rows), after)
  else (.ok (⟨0, 0, []⟩, 0), cycle)

/-- `run`. -/
def run (credential : Bool) (scripts : String → ProviderScript) (last : DeliveryScript)
    (box : Outbox) : Except RunError MultiProviderScheduleSummary × Cycle :=
  match runProviders credential scripts providerOrder ⟨box, [], []⟩ with
  | (.error raised, cycle) => (.error raised, cycle)
  | (.ok reports, cycle) =>
      let (answer, cycle) := runRetries credential last cycle
      (answer.map fun answer => summary credential reports answer.1 answer.2, cycle)

end MultiProviderTelegramScheduler

end NewsCollect.Notifications
