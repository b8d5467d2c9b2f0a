/-
**The delivery of notifications.**

A notification is a row. A worker claims a batch of rows in one transaction, hands the items of the
batch to the transport one after the other, and books how each has ended in a transaction of its
own.

* `claim`, `fail`, `sent`: the transactions.
* `deliver`: one batch, as a program.
* `deliveries`: the workers as a system.
-/

import NewsCollect.Collection.Rows
import NewsCollect.Errors
import NewsCollect.Library.Claiming
import NewsCollect.Library.IsoFormat
import NewsCollect.Library.Pool

namespace NewsCollect.Notifications

open Calendar Interleaving
open Collection (Uuid uuidText)

/-! ### Rows -/

inductive NotificationStatus where
  | pending
  | sending
  | sent
  | failed
  | suppressed
deriving DecidableEq, Repr

inductive NotificationChannel where
  | telegramPush
deriving DecidableEq, Repr

/-- A notification. -/
structure Notification where
  id : Uuid
  contentItemId : Option Uuid
  policyRuleId : String
  channel : NotificationChannel
  dedupKey : String
  status : NotificationStatus
  scheduledAt : Option Int
  sentAt : Option Int
  failureCode : Option String
  retryCount : Nat
deriving DecidableEq

/-- A content item, with the name and the access method of its source. -/
structure FeedRow where
  contentItemId : Uuid
  title : Option String
  sourcePublishedAt : Option Int
  canonicalUrl : Option String
  sourceName : String
  accessMethod : String

structure ProviderDisplayItem where
  contentItemId : Uuid
  provider : String
  title : String
  source : String
  publishedAt : Int
  canonicalUrl : Option String

/-- What is shown of a content item, if it has a title and a time. -/
def FeedRow.display (row : FeedRow) : Option ProviderDisplayItem :=
  match row.title, row.sourcePublishedAt with
  | some title, some published =>
      some ⟨row.contentItemId, row.accessMethod, title, row.sourceName, published, row.canonicalUrl⟩
  | _, _ => none

/-- `by_content_ids`. -/
def byContentIds (feed : List FeedRow) (ids : List Uuid) : List ProviderDisplayItem :=
  ids.filterMap fun id => (feed.filterMap FeedRow.display).find? fun item => item.contentItemId = id

/-! ### Messages -/

/-- How the items of a provider are called. -/
def label (provider : String) : Option String :=
  if provider = "marketaux" then some "News"
  else if provider = "finnhub" then some "Market data"
  else if provider = "eia" then some "Official energy data"
  else if provider = "sec_edgar" then some "Company filing"
  else none

/-- The lines about one item. -/
def formatItem (item : ProviderDisplayItem) : Result String :=
  match label item.provider with
  | none => raise .valueError "telegram_provider_unsupported"
  | some label =>
      .ok ("\n".intercalate ([label ++ ": " ++ item.title, "Source: " ++ item.source,
        "Time: " ++ String.ofList (isoFormat item.publishedAt 0)] ++
          (item.canonicalUrl.filter (· ≠ "")).toList))

/-- `ProviderTelegramFormatter.format`. -/
def format (items : List ProviderDisplayItem) : Result String := do
  require (!items.isEmpty) .valueError "telegram_feed_empty"
  let blocks ← items.mapM formatItem
  let message := "\n\n".intercalate blocks
  require (message.length ≤ 4096) .valueError "telegram_message_too_long"
  pure message

/-! ### Transactions -/

def policyId : String := "spec-0038-multi-provider-telegram"

def maxAttempts : Nat := 5

/-- The rows a claim is looking for. -/
def claimable (now stale : Int) (row : Notification) : Bool :=
  row.policyRuleId = policyId ∧ row.channel = .telegramPush ∧ row.retryCount < maxAttempts ∧
    row.scheduledAt.any (· ≤ now) = true ∧
    (row.status = .pending ∨ row.status = .failed ∨
      row.status = .sending ∧ row.scheduledAt.any (· < stale) = true)

/-- The order of a claim: by time and identifier. -/
def precedes (left right : Notification) : Bool :=
  match left.scheduledAt, right.scheduledAt with
  | some first, some second => first < second || first == second && left.id ≤ right.id
  | some _, none => true
  | none, some _ => false
  | none, none => left.id ≤ right.id

/-- The rows a claim takes. Those that another transaction has locked are skipped. -/
def selected (rows : List Notification) (now stale : Int) (limit : Nat) (locked : List Uuid) :
    List Notification :=
  Table.pick Notification.id (claimable now stale) precedes limit locked rows

/-- A row that is being sent from now on. -/
def claimedRow (now : Int) (row : Notification) : Notification :=
  { row with status := .sending, scheduledAt := some now }

/-- `_claim`, of the rows it takes. -/
def claim (rows : List Notification) (now : Int) (taken : List Notification) :
    List Notification :=
  Table.modifyEach Notification.id rows (taken.map (·.id)) (claimedRow now)

/-- The seconds until the next attempt. -/
def retryDelay (retryCount : Nat) : Int := min (30 * 2 ^ (retryCount - 1) : Nat) 3600

/-- A row whose item has not been sent. -/
def failedRow (now : Int) (code : String) (row : Notification) : Notification :=
  if row.status = .sending then
    { row with
      retryCount := row.retryCount + 1
      status := .failed
      failureCode := some code
      scheduledAt := some (now + retryDelay (row.retryCount + 1) * second) }
  else row

/-- `_fail`. -/
def fail (rows : List Notification) (now : Int) (id : Uuid) (code : String) : List Notification :=
  Table.modify Notification.id rows id (failedRow now code)

/-- A row whose item has been sent. -/
def sentRow (now : Int) (row : Notification) : Notification :=
  if row.status = .sending then
    { row with status := .sent, failureCode := none, sentAt := some now }
  else row

/-- `_sent`. -/
def sent (rows : List Notification) (now : Int) (id : Uuid) : List Notification :=
  Table.modify Notification.id rows id (sentRow now)

/-- `notification_dedup_key`. -/
def dedupKey (provider : String) (contentItemId : Uuid) : String :=
  provider ++ ":telegram:" ++ uuidText contentItemId

/-- The row of a new intent, under an identifier that has not been given. -/
def pendingRow (now : Int) (id contentItemId : Uuid) (provider : String) : Notification where
  id := id
  contentItemId := some contentItemId
  policyRuleId := policyId
  channel := .telegramPush
  dedupKey := dedupKey provider contentItemId
  status := .pending
  scheduledAt := some now
  sentAt := none
  failureCode := none
  retryCount := 0

/-- `create_pending_intent`, of a candidate: an item has one intent. -/
def createPendingIntent (rows : List Notification) (now : Int) (id contentItemId : Uuid)
    (provider : String) : List Notification :=
  if rows.any fun row => row.dedupKey = dedupKey provider contentItemId then rows
  else rows ++ [pendingRow now id contentItemId provider]

/-! ### The worker -/

structure TelegramRuntimeCredential where
  token : String
  chatId : String

/-- What a worker asks for. The transport is told the message only; whose message it is belongs to
the history. -/
inductive Op where
  | now
  | claim (now stale : Int) (limit : Nat)
  | byContentIds (ids : List Uuid)
  | send (notificationId : Uuid) (credential : TelegramRuntimeCredential) (message : String)
  | fail (notificationId : Uuid) (code : String)
  | sent (notificationId : Uuid)

/-- What each is answered with, unless it raises; a message is answered with a status code. -/
@[reducible] def Answer : Op → Type
  | .now => Int
  | .claim _ _ _ => List (Uuid × Option Uuid)
  | .byContentIds _ => List ProviderDisplayItem
  | .send _ _ _ => Int
  | .fail _ _ => Unit
  | .sent _ => Unit

abbrev signature : Signature := .raising Answer PyError

abbrev Procedure : Type → Type := ExceptT PyError (Program signature)

/-- Ask for one operation. -/
abbrev ask (op : Op) : Procedure (Answer op) := request op

structure DeliveryReport where
  status : String
  sent : Nat
  failed : Nat
  safeErrors : List String
deriving DecidableEq, Repr

/-- The counts of a batch so far. -/
structure Tally where
  sent : Nat
  failed : Nat
  errors : List String

/-- Book a failure. -/
def booked (notificationId : Uuid) (code : String) (tally : Tally) : Procedure Tally := do
  let _ ← ask (.fail notificationId code)
  pure ⟨tally.sent, tally.failed + 1, tally.errors ++ [code]⟩

/-- A status code of success. -/
def isSuccess (status : Int) : Bool := 200 ≤ status && status < 300

/-- Hand an item to the transport. -/
def sendItem (credential : TelegramRuntimeCredential) (notificationId : Uuid)
    (items : List ProviderDisplayItem) : Procedure Unit := do
  let message ← compute (format items)
  let status ← ask (.send notificationId credential message)
  compute (require (isSuccess status) .runtimeError "telegram_request_rejected")

/-- What there is to show of a notification. -/
def itemsOf : Option Uuid → Procedure (List ProviderDisplayItem)
  | some contentId => ask (.byContentIds [contentId])
  | none => pure []

/-- One item of a batch: every exception of the message or the transport is a failure. -/
def deliverItem (credential : TelegramRuntimeCredential) (tally : Tally)
    (row : Uuid × Option Uuid) : Procedure Tally := do
  let items ← itemsOf row.2
  if items.length ≠ 1 then booked row.1 "notification_content_missing" tally
  else
    match ← attempt (sendItem credential row.1 items) with
    | .error _ => booked row.1 "telegram_delivery_failed" tally
    | .ok _ => do
        let _ ← ask (.sent row.1)
        pure { tally with sent := tally.sent + 1 }

/-- The items of a batch, in order. -/
def deliverAll (credential : TelegramRuntimeCredential) :
    Tally → List (Uuid × Option Uuid) → Procedure Tally
  | tally, [] => pure tally
  | tally, row :: rows => do
      let tally ← deliverItem credential tally row
      deliverAll credential tally rows

/-- The report of a batch. -/
def report (rows : Nat) (tally : Tally) : DeliveryReport where
  status :=
    if rows = 0 then "NO_NEW_ITEMS"
    else if tally.failed = 0 then "PASS"
    else if tally.sent ≠ 0 then "PARTIAL"
    else "FAILED"
  sent := tally.sent
  failed := tally.failed
  safeErrors := tally.errors.dedup.mergeSort fun left right => left ≤ right

/-- After ten minutes a row that is being sent may be claimed again. -/
def staleAfter : Int := 600 * second

/-- `deliver`: the clock is read once for the claim and once for what is stale. -/
def deliver (credential : Option TelegramRuntimeCredential) (limit : Int) :
    Procedure DeliveryReport := do
  if ¬(1 ≤ limit ∧ limit ≤ 500) then throw ⟨.valueError, "notification_delivery_limit_invalid"⟩
  else
    match credential with
    | none => pure ⟨"BLOCKED", 0, 0, ["telegram_runtime_credential_missing"]⟩
    | some credential => do
        let now ← ask .now
        let later ← ask .now
        let rows ← ask (.claim now (later - staleAfter) limit.toNat)
        let tally ← deliverAll credential ⟨0, 0, []⟩ rows
        pure (report rows.length tally)

/-! ### The workers as a system -/

/-- **The shared state**: the tables and the clock, and, as history, whose messages have been handed
to the transport and which of them it has accepted. -/
structure Delivery where
  notifications : List Notification
  feed : List FeedRow
  now : Int
  handed : List Uuid
  accepted : List Uuid

namespace Delivery

def notification (state : Delivery) (id : Uuid) : Option Notification :=
  Table.find Notification.id state.notifications id

/-- The transport has been handed a message, and this was its answer. -/
def handOver (state : Delivery) (id : Uuid) (answer : Result Int) : Delivery :=
  { state with
    handed := state.handed ++ [id]
    accepted :=
      match answer with
      | .ok status => if isSuccess status then state.accepted ++ [id] else state.accepted
      | .error _ => state.accepted }

end Delivery

/-- What the environment decides: that an operation is done, that the database fails, which rows a
claim finds locked, and how the transport answers. -/
inductive Choice where
  | proceed
  | fault
  | locked (rows : List Uuid)
  | answer (result : Result Int)

/-- **One operation.** -/
def exec (state : Delivery) (op : Op) (choice : Choice) : Option (Result (Answer op) × Delivery) :=
  match choice, op with
  | .answer result, .send id _ _ => some (result, state.handOver id result)
  | .locked locked, .claim now stale limit =>
      let taken := selected state.notifications now stale limit locked
      some (.ok (taken.map fun row => (row.id, row.contentItemId)),
        { state with notifications := claim state.notifications now taken })
  | .proceed, .now => some (.ok state.now, state)
  | .proceed, .byContentIds ids => some (.ok (byContentIds state.feed ids), state)
  | .proceed, .fail id code =>
      some (.ok (), { state with notifications := fail state.notifications state.now id code })
  | .proceed, .sent id =>
      some (.ok (), { state with notifications := sent state.notifications state.now id })
  | .fault, .claim _ _ _ => some (.error ⟨.sqlAlchemyError, ""⟩, state)
  | .fault, .byContentIds _ => some (.error ⟨.sqlAlchemyError, ""⟩, state)
  | .fault, .fail _ _ => some (.error ⟨.sqlAlchemyError, ""⟩, state)
  | .fault, .sent _ => some (.error ⟨.sqlAlchemyError, ""⟩, state)
  | _, _ => none

/-- What happens by itself: time passes, the content changes, an intent is created. -/
inductive Happening where
  | tick (elapsed : Nat)
  | publish (feed : List FeedRow)
  | intend (id contentItemId : Uuid) (provider : String)

/-- One happening. -/
def happen (state : Delivery) : Happening → Option Delivery
  | .tick elapsed => some { state with now := state.now + elapsed }
  | .publish feed => some { state with feed := feed }
  | .intend id contentItemId provider =>
      if (state.notification id).isNone then
        some { state with
          notifications :=
            createPendingIntent state.notifications state.now id contentItemId provider }
      else none

/-- A call of `deliver`. -/
structure Job where
  credential : Option TelegramRuntimeCredential
  limit : Int

/-- **The workers.** -/
def deliveries : System signature (Result DeliveryReport) Delivery Choice Job Happening where
  program job := deliver job.credential job.limit
  accept state _ := some state
  exec state _ op choice := exec state op choice
  crash state _ := state
  env := happen

end NewsCollect.Notifications
