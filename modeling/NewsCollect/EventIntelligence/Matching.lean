/-
**The candidate that an evidence item belongs to.**

An evidence item has signatures, the strongest first, and belongs to the candidate that shares the
strongest one with it, if there is just one such candidate. Otherwise there is a new candidate, whose
key is derived from the strongest signature, or from the item itself.

* `evidenceSignatures`, `deriveAnchor`.
* `matchExisting`: the decision.
-/

import Mathlib.Data.List.Sort
import NewsCollect.Collection.Rows
import NewsCollect.Library.IsoFormat

namespace NewsCollect.EventIntelligence

open Calendar
open Collection (Uuid uuidText)

inductive MatchRule where
  | officialIdentity
  | canonicalUrl
  | providerExternalId
  | entityTitleTime
  | approvedHash
  | newCandidate
  | ambiguousNewCandidate
  | reviewedRegroup
deriving DecidableEq, Repr

/-- What is read of an evidence item, and of its content. -/
structure EvidenceProjection where
  evidenceItemId : Uuid
  provider : String
  providerItemId : Option String
  providerItemHash : String
  officialSource : Bool
  canonicalUrl : Option String
  title : Option String
  eventTime : Option Int
  observedAt : Int
  entityRefs : List String
  assetRefs : List String
  topicRefs : List String
  sourcePriority : Option Int
deriving DecidableEq

/-- What is read of a candidate. -/
structure CandidateProjection where
  id : Uuid
  clusterKey : String
  strongIdentityHash : Option String
  identitySignatures : List String
  titleFingerprints : List String
  firstSeenAt : Int
  latestSeenAt : Int
  entities : List String

structure StableAnchor where
  kind : String
  valueHash : String
  clusterKey : String
deriving DecidableEq

structure MatchDecision where
  candidateId : Option Uuid
  matchRule : MatchRule
  ruleVersion : Nat
  anchor : StableAnchor
  signatures : List String
  titleFingerprint : Option String
  strongIdentityHash : Option String

/-- What matching uses: the hash, the normal form of a URL, the words of a title, and how a list of
texts is written. -/
structure Normalizer where
  sha256 : String → String
  canonicalizeUrl : Option String → Option String
  words : String → List String
  listText : List String → String

def ruleVersion : Nat := 1

section Matching

variable (normalizer : Normalizer)

/-- `title_fingerprint`. -/
def titleFingerprint (title : Option String) : Option String :=
  let tokens := normalizer.words (title.getD "")
  if tokens.isEmpty then none else some (normalizer.sha256 (" ".intercalate tokens))

/-- `_signature`. -/
def signature (kind value : String) : String := kind ++ ":" ++ normalizer.sha256 value

/-- `evidence_signatures`. -/
def evidenceSignatures (value : EvidenceProjection) : List String :=
  let identity := (value.providerItemId.filter (· ≠ "")).map fun id => value.provider ++ ":" ++ id
  (if value.officialSource then (identity.map (signature normalizer "official")).toList else []) ++
    (((normalizer.canonicalizeUrl value.canonicalUrl).filter (· ≠ "")).map
      (signature normalizer "url")).toList ++
    (identity.map (signature normalizer "provider")).toList ++
    [signature normalizer "hash" (value.provider ++ ":" ++ value.providerItemHash)]

/-- A signature is of a kind. -/
def ofKind (kind signature : String) : Bool := (kind ++ ":").toList.isPrefixOf signature.toList

/-- What follows the first colon of a signature. -/
def afterColon (signature : String) : String :=
  String.ofList ((signature.toList.dropWhile (· ≠ ':')).drop 1)

/-- The time of an evidence item. -/
def EvidenceProjection.time (value : EvidenceProjection) : Int :=
  value.eventTime.getD value.observedAt

/-- The strongest signature, by its kind. -/
def strongest (signatures : List String) : Option (String × String) :=
  ["official", "url", "provider", "hash"].findSome? fun kind =>
    (signatures.find? (ofKind kind)).map fun found => (kind, afterColon found)

/-- `bucket`: the day of the double nearest to a time, in days since 1970. A time shortly before
midnight can be rounded up to it. -/
def bucket (time : Int) : Int := ⌊posixTimestamp time / 86400⌋

/-- The kind and the hash of an anchor; a bare hash is replaced by entities, title and bucket. -/
def anchorValue (value : EvidenceProjection) : String × String :=
  match strongest (evidenceSignatures normalizer value) with
  | some (kind, hash) =>
      if kind = "hash" ∧ value.entityRefs ≠ [] then
        match titleFingerprint normalizer value.title with
        | some fingerprint =>
            ("entity_title_time", normalizer.sha256
              (normalizer.listText (value.entityRefs.insertionSort (· ≤ ·)) ++ ":" ++
                fingerprint ++ ":" ++ toString (bucket value.time)))
        | none => (kind, hash)
      else (kind, hash)
  | none => ("", "")

/-- `derive_anchor`. -/
def deriveAnchor (value : EvidenceProjection) (ambiguous : Bool) : StableAnchor :=
  let (kind, hash) :=
    if ambiguous then ("ambiguous_evidence", normalizer.sha256 (uuidText value.evidenceItemId))
    else anchorValue normalizer value
  ⟨kind, hash, normalizer.sha256 (kind ++ ":" ++ hash)⟩

/-- A day. -/
def matchWindow : Int := 86400 * second

/-- How closely a candidate is related to an evidence item, if it is. -/
def rank (incoming : EvidenceProjection) (candidate : CandidateProjection) :
    Option (Nat × MatchRule) :=
  let shared := (evidenceSignatures normalizer incoming).filter candidate.identitySignatures.contains
  if shared.any (ofKind "official") then some (1, .officialIdentity)
  else if shared.any (ofKind "url") then some (2, .canonicalUrl)
  else if shared.any (ofKind "provider") then some (3, .providerExternalId)
  else if (titleFingerprint normalizer incoming.title).any candidate.titleFingerprints.contains &&
      incoming.entityRefs.any candidate.entities.contains &&
      decide (candidate.firstSeenAt - matchWindow ≤ incoming.time ∧
        incoming.time ≤ candidate.latestSeenAt + matchWindow) then
    some (4, .entityTitleTime)
  else if shared.any (ofKind "hash") then some (5, .approvedHash)
  else none

/-- The candidates that are related to an evidence item. -/
def ranked (incoming : EvidenceProjection) (candidates : List CandidateProjection) :
    List (Nat × MatchRule × Uuid) :=
  candidates.filterMap fun candidate =>
    (rank normalizer incoming candidate).map fun (rank, rule) => (rank, rule, candidate.id)

/-- Those that are related most closely. -/
def best (ranked : List (Nat × MatchRule × Uuid)) : List (Nat × MatchRule × Uuid) :=
  ranked.filter fun entry => ranked.all (entry.1 ≤ ·.1)

/-- `match_existing`. -/
def matchExisting (incoming : EvidenceProjection) (candidates : List CandidateProjection) :
    MatchDecision :=
  let signatures := evidenceSignatures normalizer incoming
  let fingerprint := titleFingerprint normalizer incoming.title
  let strong := (signatures.find? (ofKind "official")).map afterColon
  match best (ranked normalizer incoming candidates) with
  | [] => ⟨none, .newCandidate, ruleVersion, deriveAnchor normalizer incoming false, signatures,
      fingerprint, strong⟩
  | [(_, rule, id)] => ⟨some id, rule, ruleVersion, deriveAnchor normalizer incoming false, signatures,
      fingerprint, strong⟩
  | _ => ⟨none, .ambiguousNewCandidate, ruleVersion, deriveAnchor normalizer incoming true, signatures,
      fingerprint, strong⟩

/-- The signatures of a decision are those of its evidence item. -/
theorem matchExisting_signatures (incoming : EvidenceProjection)
    (candidates : List CandidateProjection) :
    (matchExisting normalizer incoming candidates).signatures =
        evidenceSignatures normalizer incoming ∧
      (matchExisting normalizer incoming candidates).titleFingerprint =
        titleFingerprint normalizer incoming.title := by
  unfold matchExisting
  dsimp only
  split
  · exact ⟨rfl, rfl⟩
  · exact ⟨rfl, rfl⟩
  · exact ⟨rfl, rfl⟩

end Matching

end NewsCollect.EventIntelligence
