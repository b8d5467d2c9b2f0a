/-
**Rich evidence packets.**

A packet tells all that is known of an evidence item: its facts in their latest revision and in
those before it, where they come from, what there is of its content, and a digest of the whole.

* `RichEvidencePacket`, with its parts.
* `packetJson`, `canonicalJson`: the text of a packet.
-/

import NewsCollect.Evidence.ProviderMappings
import NewsCollect.Evidence.Rows

namespace NewsCollect.RichEvidence

open Calendar Collection Evidence Providers SafeProjection Text

/-- `RichEvidenceError`. -/
def richError {α : Type} (message : String) : Result α := raise .richEvidenceError message

/-! ### The parts of a packet -/

/-- The classes of typed facts. -/
inductive FactsKind where
  | marketauxNews
  | finnhubQuote
  | finnhubCompanyNews
  | eiaRetail
  | eiaRto
  | secFiling
deriving DecidableEq, Repr

/-- Facts, which have the fields of their class. -/
structure TypedFacts where
  kind : FactsKind
  values : Object
deriving DecidableEq

structure EvidenceRevision where
  linkId : Uuid
  projectionId : Uuid
  observationId : Uuid
  projectionHash : String
  projectionSchemaVersion : Int
  operationKey : String
  providerContractVersion : Int
  collectionTargetId : Option Uuid
  configRevision : Option Int
  linkedAt : Option Int
  observedAt : Int
  quality : ProjectionQuality
  facts : TypedFacts
deriving DecidableEq

structure SourceProvenance where
  sourceId : Uuid
  sourceAccountId : Option Uuid
  collectionTargetId : Option Uuid
  firstPersistenceRunId : Uuid
  configRevision : Option Int
  providerContractVersion : Int
deriving DecidableEq

structure ContentReference where
  contentItemId : Option Uuid
  kind : Option String
  titleAvailable : Bool
  bodyAvailability : String
  urlAvailable : Bool
deriving DecidableEq

structure PacketTruncation where
  truncated : Bool
  totalRevisionCount : Nat
  includedRevisionCount : Nat
  reason : String
deriving DecidableEq

structure RichEvidencePacket where
  packetVersion : Int
  packetDigest : String
  evidenceId : Uuid
  rawItemId : Uuid
  provider : String
  operationKey : String
  evidenceKind : String
  providerItemType : String
  accessLevel : String
  identityMode : String
  retentionClass : String
  canonicalEventTime : Option Int
  canonicalObservedAt : Int
  currentPublishedAt : Int
  currentObservedAt : Int
  provenance : SourceProvenance
  content : ContentReference
  current : EvidenceRevision
  revisions : List EvidenceRevision
  quality : ProjectionQuality
  missingFields : List String
  blockedFields : List String
  truncation : PacketTruncation
deriving DecidableEq

structure PacketPage where
  packets : List RichEvidencePacket
  nextEvidenceId : Option Uuid
  scannedCount : Nat
  returnedCount : Nat
  scanExhausted : Bool
  hasMore : Bool

/-! ### The text of a packet -/

/-- A character of a JSON text that is not kept in ASCII. -/
def escapeControl (c : Char) : List Char :=
  if c = '"' ∨ c = '\\' then ['\\', c]
  else if c.toNat = 10 then ['\\', 'n']
  else if c.toNat = 13 then ['\\', 'r']
  else if c.toNat = 9 then ['\\', 't']
  else if c.toNat = 8 then ['\\', 'b']
  else if c.toNat = 12 then ['\\', 'f']
  else if c.toNat < 32 then hexUnit c.toNat
  else [c]

/-- A JSON text in quotes. -/
def plainQuoted (text : String) : String :=
  String.ofList ('"' :: text.toList.flatMap escapeControl ++ ['"'])

section Texts

variable (library : StandardLibrary)

mutual

/-- `json.dumps(value, sort_keys=True, separators=(",", ":"), ensure_ascii=False, allow_nan=False)`,
where it does not raise. -/
def plainText : Json → Option String
  | .null => some "null"
  | .bool value => some (if value then "true" else "false")
  | .int value => some (toString value)
  | .float numerator scale => some (library.floatText numerator scale)
  | .special .minusZero => some "-0.0"
  | .special _ => none
  | .str text => some (plainQuoted text)
  | .arr items => (plainItems items).map fun texts => "[" ++ ",".intercalate texts ++ "]"
  | .obj members => (plainMembers members).map fun texts =>
      "\x7b" ++ ",".intercalate ((texts.mergeSort fun left right => left.1 ≤ right.1).map fun entry =>
        plainQuoted entry.1 ++ ":" ++ entry.2) ++ "\x7d"

def plainItems : List Json → Option (List String)
  | [] => some []
  | item :: items => do
      let first ← plainText item
      let rest ← plainItems items
      pure (first :: rest)

def plainMembers : List (String × Json) → Option (List (String × String))
  | [] => some []
  | (key, value) :: members => do
      let first ← plainText value
      let rest ← plainMembers members
      pure ((key, first) :: rest)

end

/-- `_canonical_json`. -/
def canonicalJson (value : Json) : Result String :=
  match plainText library value with
  | some text => .ok text
  | none => raise .valueError "Out of range float values are not JSON compliant"

end Texts

/-! ### A packet as it is written -/

def uuidJson (id : Uuid) : Json := .str (uuidText id)

/-- `_utc(value).isoformat()`. -/
def instantJson (instant : Int) : Json := .str (String.ofList (isoFormat instant 0))

def optionJson {α : Type} (write : α → Json) (value : Option α) : Json := (value.map write).getD .null

def qualityText : ProjectionQuality → String
  | .complete => "complete"
  | .partialFacts => "partial"

/-- `dataclasses.asdict` of facts: a filing has a file, if only as nothing. -/
def TypedFacts.fields (facts : TypedFacts) : Object :=
  if facts.kind = .secFiling ∧ facts.values.has "submissions_file" = false then
    facts.values ++ [("submissions_file", .null)]
  else facts.values

def revisionJson (revision : EvidenceRevision) : Json :=
  .obj [("link_id", uuidJson revision.linkId), ("projection_id", uuidJson revision.projectionId),
    ("observation_id", uuidJson revision.observationId),
    ("projection_hash", .str revision.projectionHash),
    ("projection_schema_version", .int revision.projectionSchemaVersion),
    ("operation_key", .str revision.operationKey),
    ("provider_contract_version", .int revision.providerContractVersion),
    ("collection_target_id", optionJson uuidJson revision.collectionTargetId),
    ("config_revision", optionJson Json.int revision.configRevision),
    ("linked_at", optionJson instantJson revision.linkedAt),
    ("observed_at", instantJson revision.observedAt), ("quality", .str (qualityText revision.quality)),
    ("facts", .obj revision.facts.fields)]

def provenanceJson (provenance : SourceProvenance) : Json :=
  .obj [("source_id", uuidJson provenance.sourceId),
    ("source_account_id", optionJson uuidJson provenance.sourceAccountId),
    ("collection_target_id", optionJson uuidJson provenance.collectionTargetId),
    ("first_persistence_run_id", uuidJson provenance.firstPersistenceRunId),
    ("config_revision", optionJson Json.int provenance.configRevision),
    ("provider_contract_version", .int provenance.providerContractVersion)]

def contentJson (content : ContentReference) : Json :=
  .obj [("content_item_id", optionJson uuidJson content.contentItemId),
    ("kind", optionJson Json.str content.kind), ("title_available", .bool content.titleAvailable),
    ("body_availability", .str content.bodyAvailability),
    ("url_available", .bool content.urlAvailable)]

def truncationJson (truncation : PacketTruncation) : Json :=
  .obj [("truncated", .bool truncation.truncated),
    ("total_revision_count", .int truncation.totalRevisionCount),
    ("included_revision_count", .int truncation.includedRevisionCount),
    ("reason", .str truncation.reason)]

/-- `_material`, which leaves out the digest. -/
def material (packet : RichEvidencePacket) : Object :=
  [("packet_version", .int packet.packetVersion), ("evidence_id", uuidJson packet.evidenceId),
    ("raw_item_id", uuidJson packet.rawItemId), ("provider", .str packet.provider),
    ("operation_key", .str packet.operationKey), ("evidence_kind", .str packet.evidenceKind),
    ("provider_item_type", .str packet.providerItemType), ("access_level", .str packet.accessLevel),
    ("identity_mode", .str packet.identityMode), ("retention_class", .str packet.retentionClass),
    ("canonical_event_time", optionJson instantJson packet.canonicalEventTime),
    ("canonical_observed_at", instantJson packet.canonicalObservedAt),
    ("current_published_at", instantJson packet.currentPublishedAt),
    ("current_observed_at", instantJson packet.currentObservedAt),
    ("provenance", provenanceJson packet.provenance), ("content", contentJson packet.content),
    ("current", revisionJson packet.current), ("revisions", .arr (packet.revisions.map revisionJson)),
    ("quality", .str (qualityText packet.quality)),
    ("missing_fields", .arr (packet.missingFields.map Json.str)),
    ("blocked_fields", .arr (packet.blockedFields.map Json.str)),
    ("truncation", truncationJson packet.truncation)]

/-- The whole packet. -/
def packetJson (packet : RichEvidencePacket) : Json :=
  .obj (material packet ++ [("packet_digest", .str packet.packetDigest)])

/-- `_encoded_size`. -/
def encodedSize (library : StandardLibrary) (packet : RichEvidencePacket) : Result Nat := do
  let text ← canonicalJson library (packetJson packet)
  pure text.utf8ByteSize

end NewsCollect.RichEvidence
