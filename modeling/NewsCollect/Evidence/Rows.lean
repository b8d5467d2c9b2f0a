/-
**The rows of the evidence.**

Evidence items, content items and the links that hand a projection over to them. A timestamp is an
instant in microseconds.

* `Store`: the tables of the control plane, and these three.
-/

import NewsCollect.Collection.Rows

namespace NewsCollect.Evidence

open Collection

inductive LinkStatus where
  | pending
  | processing
  | linked
  | retry
  | blocked
deriving DecidableEq, Repr

inductive ContentKind where
  | article
  | xPost
  | officialRelease
  | feedEntry
deriving DecidableEq, Repr

/-- The text of a kind. -/
def ContentKind.value : ContentKind → String
  | article => "article"
  | xPost => "x_post"
  | officialRelease => "official_release"
  | feedEntry => "feed_entry"

inductive BodyAvailability where
  | full
  | partialBody
  | summaryOnly
  | unavailable
deriving DecidableEq, Repr

/-- The text of an availability. -/
def BodyAvailability.value : BodyAvailability → String
  | full => "full"
  | partialBody => "partial"
  | summaryOnly => "summary_only"
  | unavailable => "unavailable"

inductive DeletedStatus where
  | unknown
  | present
  | deleted
deriving DecidableEq, Repr

structure ContentItem where
  id : Uuid
  rawItemId : Uuid
  sourceId : Uuid
  sourceAccountId : Option Uuid
  contentKind : ContentKind
  externalId : Option String
  title : Option String
  sourceSummary : Option String
  body : Option String
  bodyAvailability : BodyAvailability
  author : Option String
  language : Option String
  originalUrl : Option String
  canonicalUrl : Option String
  sourcePublishedAt : Option Int
  sourceUpdatedAt : Option Int
  firstSeenAt : Int
  contentHash : Option String
  replyToExternalId : Option String
  quoteExternalId : Option String
  repostExternalId : Option String
  deletedStatus : DeletedStatus
  metadata : Object
deriving DecidableEq

structure EvidenceItem where
  id : Uuid
  evidenceVersion : Int
  provider : String
  providerItemType : String
  evidenceKind : String
  sourceType : String
  sourceId : Uuid
  sourceAccountId : Option Uuid
  rawItemId : Uuid
  contentItemId : Option Uuid
  providerItemId : Option String
  providerItemHash : String
  eventTime : Option Int
  observedAt : Int
  accessLevel : String
  processingStatus : String
  officialSourceFlag : Bool
  marketDataFlag : Bool
  disclosureFlag : Bool
  newsSignalFlag : Bool
  contentPresence : Object
  numericPresence : Object
  entityRefs : List Json
  assetRefs : List Json
  topicRefs : List Json
  rawPayloadReference : Option String
  errors : List Json
deriving DecidableEq

structure EvidenceProjectionLink where
  id : Uuid
  safeFactProjectionId : Uuid
  evidenceItemId : Option Uuid
  contentItemId : Option Uuid
  status : LinkStatus
  attemptCount : Nat
  nextRetryAt : Option Int
  safeErrorCode : Option String
  linkedAt : Option Int
  canonicalEvidence : Bool
  canonicalContent : Bool
  createdAt : Int
  updatedAt : Int
deriving DecidableEq

/-- **The tables.** -/
structure Store extends Database where
  evidenceItems : List EvidenceItem
  contentItems : List ContentItem
  links : List EvidenceProjectionLink

namespace Store

def rawItem (store : Store) (id : Uuid) : Option RawItem := Table.find RawItem.id store.rawItems id

def observation (store : Store) (id : Uuid) : Option Observation :=
  Table.find Observation.id store.observations id

def projection (store : Store) (id : Uuid) : Option Projection :=
  Table.find Projection.id store.projections id

def evidenceItem (store : Store) (id : Uuid) : Option EvidenceItem :=
  Table.find EvidenceItem.id store.evidenceItems id

def contentItem (store : Store) (id : Uuid) : Option ContentItem :=
  Table.find ContentItem.id store.contentItems id

def link (store : Store) (id : Uuid) : Option EvidenceProjectionLink :=
  Table.find EvidenceProjectionLink.id store.links id

end Store

end NewsCollect.Evidence
