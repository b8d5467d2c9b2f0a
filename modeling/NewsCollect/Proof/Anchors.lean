/-
**Anchors and matches.**

The key of a candidate is derived from the evidence item that it has been made for, and what that item
has, the candidate keeps. An evidence item with the same key is therefore related to the candidate:
its own candidate is new only if no other one has its key. There is one exception: the key has a day
that is counted with doubles, and the match a window of a day. Where the doubles become finer, two
times of one such day are further apart than the window.

* `straddle_of_bucket`: the two times.
* `Covers`: a candidate has all that an evidence item has.
* `rank_of_sameKey`: who has the key of an item is related to it.
* `Founded`: what holds of every candidate.
* `matcher_agrees`: after any calls, one after another.
* `taken_key`: the exception.
-/

import Mathlib.Data.Finset.Max
import NewsCollect.Library.Text
import NewsCollect.Proof.Aggregates

namespace NewsCollect.EventIntelligence

open Calendar Doubles Interleaving
open Collection (Uuid Supply)

/-! ### Buckets -/

/-- A datetime is of the years 1 to 9999, in a zone that is less than a day ahead or behind. -/
def IsDatetime (time : Int) : Prop := -dayLength < time ∧ time < (dayCount + 1) * dayLength

instance (time : Int) : Decidable (IsDatetime time) := inferInstanceAs (Decidable (_ ∧ _))

/-- The seconds of an instant since 1970. -/
def secondsOf (time : Int) : ℚ := ((time - epoch : Int) : ℚ) / (second : ℚ)

/-- The midnight that a day since 1970 begins with. -/
def midnight (day : Int) : Int := epoch + day * dayLength

/-- Shortly before midnight: a double rounds it up. -/
def evening : Int := midnight (-397683) - 3

/-- Shortly before the next midnight, by when doubles are finer: none rounds it up. -/
def nextEvening : Int := midnight (-397682) - 2

section Buckets

variable {time time' day bound : Int}

theorem secondsOf_lt : secondsOf time < bound ↔ time < epoch + bound * second := by
  rw [secondsOf, div_lt_iff₀ (by norm_num [second])]
  rw [show (bound : ℚ) * (second : ℚ) = ((bound * second : Int) : ℚ) by push_cast; ring, Int.cast_lt]
  omega

theorem lt_secondsOf : (bound : ℚ) < secondsOf time ↔ epoch + bound * second < time := by
  rw [secondsOf, lt_div_iff₀ (by norm_num [second])]
  rw [show (bound : ℚ) * (second : ℚ) = ((bound * second : Int) : ℚ) by push_cast; ring, Int.cast_lt]
  omega

/-- How far it is from an instant to a midnight. -/
theorem sub_secondsOf (time day : Int) :
    ((86400 : ℕ) : ℚ) * day - secondsOf time = ((midnight day - time : Int) : ℚ) / second := by
  have positive : (second : ℚ) ≠ 0 := by norm_num [second]
  unfold secondsOf midnight dayLength
  field_simp
  push_cast
  ring

/-- The seconds since 1970 of a datetime are less than 38 bits, and less than 36 before 1970. -/
theorem small_secondsOf (dated : IsDatetime time) :
    ((-2 ^ 36 : Int) : ℚ) < secondsOf time ∧ secondsOf time < ((2 ^ 38 : Int) : ℚ) := by
  rw [lt_secondsOf, secondsOf_lt]
  unfold IsDatetime at dated
  norm_num [dayLength, dayCount, second, epoch] at dated ⊢
  omega

/-- How far a double is at most from the instant that it is made of, in microseconds. -/
def halfUnit (time : Int) : ℚ := second * (ulp (secondsOf time) / 2)

theorem halfUnit_le {k : ℕ} (fine : |secondsOf time| < 2 ^ (k + 1)) :
    halfUnit time ≤ second * (2 ^ ((k : ℤ) - 52) / 2) :=
  mul_le_mul_of_nonneg_left (div_le_div_of_nonneg_right (ulp_le fine) (by norm_num))
    (by norm_num [second])

theorem le_halfUnit {k : ℕ} (rough : 2 ^ k ≤ |secondsOf time|) :
    second * (2 ^ ((k : ℤ) - 52) / 2) ≤ halfUnit time :=
  mul_le_mul_of_nonneg_left (div_le_div_of_nonneg_right (le_ulp rough) (by norm_num))
    (by norm_num [second])

/-- Since 1970, doubles become no finer. -/
theorem halfUnit_mono (since : epoch ≤ time) (apart : time + second ≤ time') :
    halfUnit time ≤ halfUnit time' := by
  have positive : (0 : ℚ) < second := by norm_num [second]
  have nonneg : 0 ≤ secondsOf time := div_nonneg (Int.cast_nonneg (by omega)) positive.le
  have later : secondsOf time + 1 ≤ secondsOf time' := by
    have units : ((time - epoch : Int) : ℚ) + second ≤ ((time' - epoch : Int) : ℚ) := by
      exact_mod_cast show time - epoch + second ≤ time' - epoch by omega
    unfold secondsOf
    rw [div_add_one positive.ne']
    exact div_le_div_of_nonneg_right units positive.le
  have unit : ulp (secondsOf time) ≤ ulp (secondsOf time') := by
    refine ulp_mono ?_ ?_
    · rw [abs_of_nonneg (by linarith)]
      linarith
    · rw [abs_of_nonneg nonneg, abs_of_nonneg (by linarith)]
      linarith
  exact mul_le_mul_of_nonneg_left (div_le_div_of_nonneg_right unit (by norm_num)) positive.le

/-- An instant and the midnights of its bucket. -/
theorem midnights_of_bucket (dated : IsDatetime time) :
    ((midnight (bucket time) - time : Int) : ℚ) ≤ halfUnit time ∧
      time < midnight (bucket time + 1) ∧
      halfUnit time ≤ ((midnight (bucket time + 1) - time : Int) : ℚ) := by
  obtain ⟨above, below⟩ := small_secondsOf dated
  have small : |secondsOf time| < 2 ^ 53 := by
    rw [abs_lt]
    constructor
    · exact lt_trans (by norm_num) above
    · exact lt_trans below (by norm_num)
  obtain ⟨early, short, late⟩ := @bounds_of_bucket (secondsOf time) 86400 (bucket time)
    (by norm_num) small rfl
  have positive : (0 : ℚ) < second := by norm_num [second]
  have next : ((bucket time : ℚ) + 1) = ((bucket time + 1 : Int) : ℚ) := by push_cast; ring
  rw [sub_secondsOf, div_le_iff₀' positive] at early
  rw [next, ← sub_pos, sub_secondsOf, div_pos_iff_of_pos_right positive, Int.cast_pos] at short
  rw [next, sub_secondsOf, le_div_iff₀' positive] at late
  exact ⟨early, by omega, late⟩

/-- **Two instants of one bucket that are more than a day apart** are before 1970, where doubles become
finer. There is one such pair. -/
theorem straddle_of_bucket (dated : IsDatetime time) (dated' : IsDatetime time')
    (same : bucket time = bucket time') (apart : time + matchWindow < time') :
    time = evening ∧ time' = nextEvening := by
  obtain ⟨early, -, -⟩ := midnights_of_bucket dated
  obtain ⟨-, short, late⟩ := midnights_of_bucket dated'
  rw [← same] at short late
  have days : midnight (bucket time + 1) = midnight (bucket time) + matchWindow := by
    unfold midnight matchWindow dayLength
    ring
  -- the first instant can be rounded by more than the second one
  have finer : halfUnit time' < halfUnit time := by
    refine (late.trans_lt (Int.cast_lt.2 ?_)).trans_le early
    omega
  have before : secondsOf time < ((0 : Int) : ℚ) := by
    refine secondsOf_lt.2 (not_le.1 fun since => absurd finer (not_lt.2 (halfUnit_mono ?_ ?_)))
    · omega
    · have some : second ≤ matchWindow := by decide
      omega
  rw [Int.cast_zero] at before
  have fine : |secondsOf time| < 2 ^ 36 := by
    rw [abs_lt]
    exact ⟨lt_of_eq_of_lt (by norm_num) (small_secondsOf dated).1, before.trans (by norm_num)⟩
  have near : midnight (bucket time) - time < 4 := by
    have unit : halfUnit time < 4 := (halfUnit_le (k := 35) fine).trans_lt (by norm_num [second])
    exact_mod_cast early.trans_lt unit
  -- 2 ^ 35 seconds before 1970 is between the two
  have first : time ≤ epoch + (-2 ^ 35) * second := by
    by_contra after
    have above := lt_secondsOf.2 (not_le.1 after)
    have finest : |secondsOf time| < 2 ^ 35 := by
      rw [abs_lt]
      exact ⟨lt_of_eq_of_lt (by norm_num) above, before.trans (by norm_num)⟩
    have within : midnight (bucket time) - time < 2 := by
      have unit : halfUnit time < 2 := (halfUnit_le (k := 34) finest).trans_lt (by norm_num [second])
      exact_mod_cast early.trans_lt unit
    omega
  have last : epoch + (-2 ^ 35) * second < time' := by
    have finest : |secondsOf time'| < 2 ^ 35 :=
      not_le.1 fun rough => absurd finer (not_lt.2 ((halfUnit_le fine).trans (le_halfUnit rough)))
    exact lt_secondsOf.1 (lt_of_eq_of_lt (by norm_num) (abs_lt.1 finest).1)
  have place : bucket time = -397683 := by
    unfold midnight at short near days
    norm_num [dayLength, second, matchWindow] at short near first last
    omega
  rw [place] at near short late days
  have rough : 2 ^ 34 ≤ |secondsOf time'| := by
    have far : secondsOf time' < ((-2 ^ 34 : Int) : ℚ) := by
      refine secondsOf_lt.2 (short.trans ?_)
      decide
    push_cast at far
    rw [abs_of_neg (far.trans (by norm_num))]
    linarith
  have far : (1 : Int) < midnight (-397683 + 1) - time' := by
    have unit : 1 < halfUnit time' := lt_of_lt_of_le (by norm_num [second]) (le_halfUnit (k := 34) rough)
    exact_mod_cast unit.trans_le late
  have next : midnight (-397683 + 1) = midnight (-397682) := rfl
  unfold evening nextEvening
  omega

end Buckets

/-! ### Keys -/

/-- What is assumed of the hash and of how a list of texts is written: that two of them differ where
what they are made of does, and that a hash is written without a colon. -/
structure CollisionFree (normalizer : Normalizer) : Prop where
  sha256 : Function.Injective normalizer.sha256
  digits : ∀ text, ':' ∉ (normalizer.sha256 text).toList
  listText : Function.Injective normalizer.listText

/-- The kinds of the signatures, the strongest first. -/
def signatureKinds : List String := ["official", "url", "provider", "hash"]

theorem toList_key (kind hash : String) :
    (kind ++ ":" ++ hash).toList = kind.toList ++ ':' :: hash.toList := by
  rw [String.toList_append, String.toList_append, List.append_assoc]
  rfl

/-- A key is taken apart at its first colon. -/
theorem key_injective {kind kind' hash hash' : String} (clean : ':' ∉ kind.toList)
    (clean' : ':' ∉ kind'.toList) (same : kind ++ ":" ++ hash = kind' ++ ":" ++ hash') :
    kind = kind' ∧ hash = hash' := by
  have texts := congrArg String.toList same
  rw [toList_key, toList_key] at texts
  obtain ⟨kinds, hashes⟩ := Text.split_front clean clean' texts
  exact ⟨String.toList_inj.1 kinds, String.toList_inj.1 hashes⟩

/-- A signature is its kind and its hash. -/
theorem eq_of_ofKind {kind signature : String} (clean : ':' ∉ kind.toList)
    (held : ofKind kind signature = true) : kind ++ ":" ++ afterColon signature = signature := by
  obtain ⟨rest, whole⟩ := List.isPrefixOf_iff_prefix.1 held
  have text : signature.toList = kind.toList ++ ':' :: rest := by
    rw [← whole, String.toList_append, List.append_assoc]
    rfl
  have after : afterColon signature = String.ofList rest := by
    unfold afterColon
    rw [text, List.dropWhile_append_of_pos fun c member => by
      simpa using fun colon : c = ':' => clean (colon ▸ member)]
    rfl
  refine String.toList_inj.1 ?_
  rw [toList_key, after, String.toList_ofList, text]

theorem ofKind_key (kind hash : String) : ofKind kind (kind ++ ":" ++ hash) = true := by
  refine List.isPrefixOf_iff_prefix.2 ⟨hash.toList, ?_⟩
  rw [← String.toList_append]

theorem clean_of_signatureKinds {kind : String} (listed : kind ∈ signatureKinds) :
    ':' ∉ kind.toList := by
  have all : ∀ kind ∈ signatureKinds, ':' ∉ kind.toList := by decide
  exact all kind listed

section Anchors

variable {normalizer : Normalizer} {value : EvidenceProjection}

/-- The strongest signature is one of the signatures. -/
theorem mem_of_strongest {signatures : List String} {kind hash : String}
    (found : strongest signatures = some (kind, hash)) :
    kind ∈ signatureKinds ∧ kind ++ ":" ++ hash ∈ signatures := by
  obtain ⟨kind', listed, held⟩ := List.exists_of_findSome?_eq_some found
  obtain ⟨signature, first, same⟩ := Option.map_eq_some_iff.1 held
  obtain ⟨rfl, rfl⟩ := Prod.mk.inj same
  refine ⟨listed, ?_⟩
  rw [eq_of_ofKind (clean_of_signatureKinds listed) (List.find?_some first)]
  exact List.mem_of_find?_eq_some first

/-- Every evidence item has a signature. -/
theorem strongest_isSome (value : EvidenceProjection) :
    (strongest (evidenceSignatures normalizer value)).isSome = true := by
  refine List.findSome?_isSome_iff.2 ⟨"hash", by decide, ?_⟩
  rw [Option.isSome_map, List.find?_isSome]
  refine ⟨signature normalizer "hash" (value.provider ++ ":" ++ value.providerItemHash), ?_,
    ofKind_key "hash" _⟩
  exact List.mem_append_right _ (List.mem_singleton_self _)

/-- An item has neither an identity nor a URL. -/
def Bare (normalizer : Normalizer) (value : EvidenceProjection) : Prop :=
  value.providerItemId.filter (· ≠ "") = none ∧
    (normalizer.canonicalizeUrl value.canonicalUrl).filter (· ≠ "") = none

/-- Where the strongest signature is a hash, there is none of a stronger kind. -/
theorem weak_of_strongest {signatures : List String} {hash : String}
    (found : strongest signatures = some ("hash", hash)) :
    signatures.find? (ofKind "url") = none ∧ signatures.find? (ofKind "provider") = none := by
  unfold strongest at found
  rw [List.findSome?_cons, List.findSome?_cons, List.findSome?_cons] at found
  cases official : signatures.find? (ofKind "official") with
  | some signature =>
      rw [official] at found
      exact absurd (Prod.mk.inj (Option.some.inj found)).1 (by decide)
  | none =>
      rw [official] at found
      cases url : signatures.find? (ofKind "url") with
      | some signature =>
          rw [url] at found
          exact absurd (Prod.mk.inj (Option.some.inj found)).1 (by decide)
      | none =>
          rw [url] at found
          cases provider : signatures.find? (ofKind "provider") with
          | some signature =>
              rw [provider] at found
              exact absurd (Prod.mk.inj (Option.some.inj found)).1 (by decide)
          | none => exact ⟨rfl, rfl⟩

/-- An item whose strongest signature is a hash is bare. -/
theorem bare_of_strongest {hash : String}
    (found : strongest (evidenceSignatures normalizer value) = some ("hash", hash)) :
    Bare normalizer value := by
  obtain ⟨noUrl, noProvider⟩ := weak_of_strongest found
  constructor
  · cases given : value.providerItemId.filter (· ≠ "") with
    | none => rfl
    | some id =>
        have own : signature normalizer "provider" (value.provider ++ ":" ++ id) ∈
            evidenceSignatures normalizer value := by
          simp only [evidenceSignatures, given, Option.map_some, Option.toList_some,
            List.mem_append, List.mem_singleton, or_true, true_or]
        exact absurd (ofKind_key "provider" _) (List.find?_eq_none.1 noProvider _ own)
  · cases given : (normalizer.canonicalizeUrl value.canonicalUrl).filter (· ≠ "") with
    | none => rfl
    | some url =>
        have own : signature normalizer "url" url ∈ evidenceSignatures normalizer value := by
          simp only [evidenceSignatures, given, Option.map_some, Option.toList_some,
            List.mem_append, List.mem_singleton, or_true, true_or]
        exact absurd (ofKind_key "url" _) (List.find?_eq_none.1 noUrl _ own)

/-- The text of entities, title and bucket. -/
def titleText (normalizer : Normalizer) (value : EvidenceProjection) (fingerprint : String) : String :=
  normalizer.listText (value.entityRefs.insertionSort (· ≤ ·)) ++ ":" ++ fingerprint ++ ":" ++
    toString (bucket value.time)

/-- **What an anchor is**: a signature, or, of a bare item, the hash of entities, title and bucket. -/
theorem anchorValue_cases (value : EvidenceProjection) :
    ((anchorValue normalizer value).1 ∈ signatureKinds ∧
      (anchorValue normalizer value).1 ++ ":" ++ (anchorValue normalizer value).2 ∈
        evidenceSignatures normalizer value) ∨
    ∃ fingerprint, Bare normalizer value ∧ value.entityRefs ≠ [] ∧
      titleFingerprint normalizer value.title = some fingerprint ∧
      anchorValue normalizer value =
        ("entity_title_time", normalizer.sha256 (titleText normalizer value fingerprint)) := by
  obtain ⟨⟨kind, hash⟩, found⟩ := Option.isSome_iff_exists.1 (@strongest_isSome normalizer value)
  have spec := mem_of_strongest found
  unfold anchorValue
  rw [found]
  dsimp only
  split
  · next weak =>
    obtain ⟨rfl, some⟩ := weak
    cases title : titleFingerprint normalizer value.title with
    | none => exact .inl spec
    | some fingerprint => exact .inr ⟨fingerprint, bare_of_strongest found, some, rfl, rfl⟩
  · exact .inl spec

theorem clean_anchorValue (value : EvidenceProjection) :
    ':' ∉ (anchorValue normalizer value).1.toList := by
  rcases @anchorValue_cases normalizer value with ⟨listed, -⟩ | ⟨fingerprint, -, -, -, anchor⟩
  · exact clean_of_signatureKinds listed
  · rw [anchor]
    show ':' ∉ "entity_title_time".toList
    decide

/-- **The key of an item is that of another one only if they have one anchor.** -/
theorem anchorValue_of_clusterKey (free : CollisionFree normalizer)
    {founder : EvidenceProjection} {ambiguous : Bool}
    (same : (deriveAnchor normalizer founder ambiguous).clusterKey =
      (deriveAnchor normalizer value false).clusterKey) :
    anchorValue normalizer founder = anchorValue normalizer value := by
  have texts := free.sha256 same
  cases ambiguous with
  | false =>
      obtain ⟨kinds, hashes⟩ := key_injective (clean_anchorValue founder) (clean_anchorValue value) texts
      exact Prod.ext kinds hashes
  | true =>
      have clean : ':' ∉ "ambiguous_evidence".toList := by decide
      have kinds : "ambiguous_evidence" = (anchorValue normalizer value).1 :=
        (key_injective clean (clean_anchorValue value) texts).1
      rcases @anchorValue_cases normalizer value with ⟨listed, -⟩ | ⟨fingerprint, -, -, -, anchor⟩
      · rw [← kinds] at listed
        exact absurd listed (by decide)
      · rw [anchor] at kinds
        exact absurd (show "ambiguous_evidence" = "entity_title_time" from kinds) (by decide)

end Anchors

/-! ### Related candidates -/

/-- **A candidate has all that an evidence item has.** -/
structure Covers (normalizer : Normalizer) (candidate : EventCandidate) (value : EvidenceProjection) :
    Prop where
  signatures : ∀ signature ∈ evidenceSignatures normalizer value,
    signature ∈ candidate.identitySignatures
  fingerprint : ∀ fingerprint, titleFingerprint normalizer value.title = some fingerprint →
    fingerprint ∈ candidate.titleFingerprints
  entities : ∀ entity ∈ value.entityRefs, entity ∈ candidate.entities
  assets : ∀ asset ∈ value.assetRefs, asset ∈ candidate.assets
  topics : ∀ topic ∈ value.topicRefs, topic ∈ candidate.topics
  first : candidate.firstSeenAt ≤ value.time
  latest : value.time ≤ candidate.latestSeenAt

section Related

variable {normalizer : Normalizer} {incoming : EvidenceProjection} {candidate : CandidateProjection}

/-- The signatures that an item and a candidate have in common. -/
def sharedSignatures (normalizer : Normalizer) (incoming : EvidenceProjection)
    (candidate : CandidateProjection) : List String :=
  (evidenceSignatures normalizer incoming).filter candidate.identitySignatures.contains

/-- The rule of entities, title and time. -/
def titleRule (normalizer : Normalizer) (incoming : EvidenceProjection)
    (candidate : CandidateProjection) : Bool :=
  (titleFingerprint normalizer incoming.title).any candidate.titleFingerprints.contains &&
    incoming.entityRefs.any candidate.entities.contains &&
    decide (candidate.firstSeenAt - matchWindow ≤ incoming.time ∧
      incoming.time ≤ candidate.latestSeenAt + matchWindow)

/-- **Who is not related** has no signature in common, and not the title. -/
theorem rank_eq_none : rank normalizer incoming candidate = none ↔
    (∀ kind ∈ signatureKinds,
      (sharedSignatures normalizer incoming candidate).any (ofKind kind) = false) ∧
      titleRule normalizer incoming candidate = false := by
  have rules : rank normalizer incoming candidate =
      if (sharedSignatures normalizer incoming candidate).any (ofKind "official") then
        some (1, .officialIdentity)
      else if (sharedSignatures normalizer incoming candidate).any (ofKind "url") then
        some (2, .canonicalUrl)
      else if (sharedSignatures normalizer incoming candidate).any (ofKind "provider") then
        some (3, .providerExternalId)
      else if titleRule normalizer incoming candidate then some (4, .entityTitleTime)
      else if (sharedSignatures normalizer incoming candidate).any (ofKind "hash") then
        some (5, .approvedHash)
      else none := rfl
  rw [rules]
  simp only [signatureKinds, List.forall_mem_cons, List.not_mem_nil, false_implies, implies_true,
    and_true]
  grind

/-- A rule that relates a candidate is none that makes a new one. -/
theorem rank_rule {place : Nat} {rule : MatchRule}
    (related : rank normalizer incoming candidate = some (place, rule)) :
    rule ≠ .newCandidate := by
  rintro rfl
  unfold rank at related
  grind

/-- Who shares a signature is related. -/
theorem rank_of_shared {kind hash : String} (listed : kind ∈ signatureKinds)
    (own : kind ++ ":" ++ hash ∈ evidenceSignatures normalizer incoming)
    (held : kind ++ ":" ++ hash ∈ candidate.identitySignatures) :
    rank normalizer incoming candidate ≠ none := by
  intro unrelated
  have apart := (rank_eq_none.1 unrelated).1 kind listed
  have shared : kind ++ ":" ++ hash ∈ sharedSignatures normalizer incoming candidate :=
    List.mem_filter.2 ⟨own, List.contains_iff_mem.2 held⟩
  exact absurd (ofKind_key kind hash) (List.any_eq_false.1 apart _ shared)

/-- Who has an entity and the title of the item, at a time less than a day away, is related. -/
theorem rank_of_title {fingerprint entity : String}
    (title : titleFingerprint normalizer incoming.title = some fingerprint)
    (titled : fingerprint ∈ candidate.titleFingerprints) (named : entity ∈ incoming.entityRefs)
    (held : entity ∈ candidate.entities)
    (near : candidate.firstSeenAt - matchWindow ≤ incoming.time ∧
      incoming.time ≤ candidate.latestSeenAt + matchWindow) :
    rank normalizer incoming candidate ≠ none := by
  intro unrelated
  have apart := (rank_eq_none.1 unrelated).2
  have entities : incoming.entityRefs.any candidate.entities.contains = true :=
    List.any_eq_true.2 ⟨entity, named, List.contains_iff_mem.2 held⟩
  rw [titleRule, title, Option.any_some, List.contains_iff_mem.2 titled, entities,
    decide_eq_true near] at apart
  exact absurd apart (by decide)

/-- A text of entities, title and bucket is what it is made of. -/
theorem titleText_injective (free : CollisionFree normalizer) {value founder : EvidenceProjection}
    {fingerprint fingerprint' : String}
    (hashed : ∃ text, fingerprint = normalizer.sha256 text)
    (hashed' : ∃ text, fingerprint' = normalizer.sha256 text)
    (same : titleText normalizer value fingerprint = titleText normalizer founder fingerprint') :
    value.entityRefs.insertionSort (· ≤ ·) = founder.entityRefs.insertionSort (· ≤ ·) ∧
      fingerprint = fingerprint' ∧
      bucket value.time = bucket founder.time := by
  obtain ⟨text, rfl⟩ := hashed
  obtain ⟨text', rfl⟩ := hashed'
  have clean : ∀ n : Int, ':' ∉ (toString n).toList := by
    intro n member
    rcases Text.mem_toString_int member with sign | digit
    · exact absurd sign (by decide)
    · exact absurd digit (by decide)
  have texts := congrArg String.toList same
  simp only [titleText, toList_key] at texts
  obtain ⟨fronts, days⟩ := Text.split_back (clean _) (clean _) texts
  obtain ⟨lists, hashes⟩ := Text.split_back (free.digits _) (free.digits _) fronts
  exact ⟨free.listText (String.toList_inj.1 lists), String.toList_inj.1 hashes,
    Text.toString_int_injective (String.toList_inj.1 days)⟩

theorem mem_fingerprint {title : Option String} {fingerprint : String}
    (given : titleFingerprint normalizer title = some fingerprint) :
    ∃ text, fingerprint = normalizer.sha256 text := by
  unfold titleFingerprint at given
  dsimp only at given
  split at given
  · exact nomatch given
  · exact ⟨_, (Option.some.inj given).symm⟩

/-- **Two items collide**: bare items of one title and the same entities, on the two evenings. -/
structure Collides (normalizer : Normalizer) (value other : EvidenceProjection) : Prop where
  bare : Bare normalizer value ∧ Bare normalizer other
  entities : value.entityRefs ≠ [] ∧
    value.entityRefs.insertionSort (· ≤ ·) = other.entityRefs.insertionSort (· ≤ ·)
  title : ∃ fingerprint, titleFingerprint normalizer value.title = some fingerprint ∧
    titleFingerprint normalizer other.title = some fingerprint
  times : (value.time = evening ∧ other.time = nextEvening) ∨
    (value.time = nextEvening ∧ other.time = evening)

/-- **Who has the key of an item is related to it**, but for a collision: a candidate keeps what the
item has that it has been made for. -/
theorem rank_of_sameKey (free : CollisionFree normalizer) {founder : EvidenceProjection}
    {ambiguous : Bool} {row : EventCandidate} (covers : Covers normalizer row founder)
    (dated : IsDatetime founder.time) (dated' : IsDatetime incoming.time)
    (apart : ¬ Collides normalizer incoming founder)
    (same : (deriveAnchor normalizer founder ambiguous).clusterKey =
      (deriveAnchor normalizer incoming false).clusterKey) :
    rank normalizer incoming row.projection ≠ none := by
  have anchors := anchorValue_of_clusterKey free same
  rcases @anchorValue_cases normalizer incoming with
    ⟨listed, own⟩ | ⟨fingerprint, bare, some, title, made⟩
  · rcases @anchorValue_cases normalizer founder with ⟨-, held⟩ | ⟨fingerprint, -, -, -, made⟩
    · exact rank_of_shared listed own (covers.signatures _ (anchors ▸ held))
    · rw [← anchors, made] at listed
      exact absurd (show "entity_title_time" ∈ signatureKinds from listed) (by decide)
  · rcases @anchorValue_cases normalizer founder with
      ⟨listed, -⟩ | ⟨fingerprint', bare', -, title', made'⟩
    · rw [anchors, made] at listed
      exact absurd (show "entity_title_time" ∈ signatureKinds from listed) (by decide)
    · rw [made, made'] at anchors
      obtain ⟨entities, rfl, buckets⟩ := titleText_injective free (mem_fingerprint title)
        (mem_fingerprint title') (free.sha256 (Prod.mk.inj anchors).2).symm
      obtain ⟨entity, named⟩ := List.exists_mem_of_ne_nil _ some
      have shared : entity ∈ founder.entityRefs := by
        rw [← List.mem_insertionSort (· ≤ ·), ← entities, List.mem_insertionSort]
        exact named
      have collide := Collides.mk ⟨bare, bare'⟩ ⟨some, entities⟩ ⟨fingerprint, title, title'⟩
      refine rank_of_title title (covers.fingerprint _ title') named (covers.entities entity shared)
        ⟨?_, ?_⟩
      · have first : row.projection.firstSeenAt ≤ founder.time := covers.first
        by_contra early
        exact apart (collide (.inl (straddle_of_bucket dated' dated buckets (by omega))))
      · have latest : founder.time ≤ row.projection.latestSeenAt := covers.latest
        by_contra late
        exact apart (collide (.inr (straddle_of_bucket dated dated' buckets.symm (by omega)).symm))

end Related

/-! ### Decisions -/

section Decisions

variable {normalizer : Normalizer} {incoming : EvidenceProjection}
  {candidates candidates' : List CandidateProjection}

/-- Some are related most closely if any are related. -/
theorem best_eq_nil {ranked : List (Nat × MatchRule × Uuid)} : best ranked = [] ↔ ranked = [] := by
  constructor
  · intro none
    by_contra any
    obtain ⟨first, member⟩ := List.exists_mem_of_ne_nil _ any
    obtain ⟨least, inside, below⟩ := ranked.toFinset.exists_min_image (fun entry => entry.1)
      ⟨first, List.mem_toFinset.2 member⟩
    have chosen : least ∈ best ranked := by
      refine List.mem_filter.2 ⟨List.mem_toFinset.1 inside, List.all_eq_true.2 fun entry held => ?_⟩
      exact decide_eq_true (below entry (List.mem_toFinset.2 held))
    rw [none] at chosen
    exact absurd chosen List.not_mem_nil
  · rintro rfl
    rfl

theorem mem_ranked {entry : Nat × MatchRule × Uuid}
    (member : entry ∈ ranked normalizer incoming candidates) :
    ∃ candidate ∈ candidates, rank normalizer incoming candidate = some (entry.1, entry.2.1) ∧
      entry.2.2 = candidate.id := by
  obtain ⟨candidate, inside, made⟩ := List.mem_filterMap.1 member
  obtain ⟨⟨place, rule⟩, related, rfl⟩ := Option.map_eq_some_iff.1 made
  exact ⟨candidate, inside, related, rfl⟩

/-- **There is a new candidate only if no candidate is related.** -/
theorem unrelated_of_new (new : (matchExisting normalizer incoming candidates).matchRule =
      .newCandidate) : ∀ candidate ∈ candidates, rank normalizer incoming candidate = none := by
  have unranked : ranked normalizer incoming candidates = [] := by
    unfold matchExisting at new
    dsimp only at new
    split at new
    · next nothing => exact best_eq_nil.1 nothing
    · next place rule id single =>
      have member : (place, rule, id) ∈ best (ranked normalizer incoming candidates) :=
        single ▸ List.mem_singleton_self _
      obtain ⟨candidate, -, related, -⟩ := mem_ranked (List.mem_of_mem_filter member)
      exact absurd new (rank_rule related)
    · exact nomatch new
  intro candidate member
  have absent := List.filterMap_eq_nil_iff.1 unranked candidate member
  exact Option.map_eq_none_iff.1 absent

/-- Those that are related most closely are the same in any order. -/
theorem best_perm {ranked ranked' : List (Nat × MatchRule × Uuid)} (perm : ranked.Perm ranked') :
    (best ranked).Perm (best ranked') := by
  have same : (fun entry : Nat × MatchRule × Uuid => ranked.all (entry.1 ≤ ·.1)) =
      fun entry => ranked'.all (entry.1 ≤ ·.1) := by
    funext entry
    rw [Bool.eq_iff_iff, List.all_eq_true, List.all_eq_true]
    exact forall_congr' fun other => imp_congr_left perm.mem_iff
  unfold best
  rw [same]
  exact perm.filter _

/-- **The decision does not depend on the order of the candidates.** -/
theorem matchExisting_perm (perm : candidates.Perm candidates') :
    matchExisting normalizer incoming candidates = matchExisting normalizer incoming candidates' := by
  have nearest : (best (ranked normalizer incoming candidates)).Perm
      (best (ranked normalizer incoming candidates')) := best_perm (perm.filterMap _)
  unfold matchExisting
  generalize best (ranked normalizer incoming candidates) = left at nearest ⊢
  generalize best (ranked normalizer incoming candidates') = right at nearest ⊢
  match left, right with
  | [], right => rw [List.nil_perm.1 nearest]
  | [first], right => rw [List.singleton_perm.1 nearest]
  | _ :: _ :: _, [] => exact nomatch nearest.length_eq
  | _ :: _ :: _, [_] => exact nomatch nearest.length_eq
  | _ :: _ :: _, _ :: _ :: _ => rfl

/-- **A candidate is chosen only if it alone is related most closely.** -/
theorem chosen_unique {id : Uuid}
    (chosen : (matchExisting normalizer incoming candidates).candidateId = some id) :
    ∃ before candidate after place, candidates = before ++ candidate :: after ∧ candidate.id = id ∧
      rank normalizer incoming candidate =
        some (place, (matchExisting normalizer incoming candidates).matchRule) ∧
      ∀ other ∈ before ++ after, ∀ place' rule, rank normalizer incoming other = some (place', rule) →
        place < place' := by
  unfold matchExisting at chosen ⊢
  dsimp only at chosen ⊢
  split at chosen
  · cases chosen
  · next place rule chosenId single =>
    obtain rfl := Option.some.inj chosen
    obtain ⟨front, back, split, apart, least, apart'⟩ := List.filter_eq_cons_iff.1 single
    obtain ⟨before, rest, here, fronts, others⟩ := List.filterMap_eq_append_iff.1 split
    obtain ⟨between, candidate, after, there, silent, made, backs⟩ :=
      List.filterMap_eq_cons_iff.1 others
    obtain ⟨⟨place', rule'⟩, related, same⟩ := Option.map_eq_some_iff.1 made
    obtain ⟨rfl, rest'⟩ := Prod.mk.inj same
    obtain ⟨rfl, named⟩ := Prod.mk.inj rest'
    refine ⟨before ++ between, candidate, after, place', ?_, named, ?_, ?_⟩
    · rw [here, there, List.append_assoc]
    · exact related
    · intro other member place rule held
      have entry : ((rank normalizer incoming other).map fun found =>
          (found.1, found.2, other.id)) = some (place, rule, other.id) := by
        rw [held]
        rfl
      have inside : (place, rule, other.id) ∈ front ∨ (place, rule, other.id) ∈ back := by
        rcases List.mem_append.1 member with left | right
        · rcases List.mem_append.1 left with left | middle
          · exact .inl (fronts ▸ List.mem_filterMap.2 ⟨other, left, entry⟩)
          · have impossible := (silent other middle).symm.trans entry
            cases impossible
        · exact .inr (backs ▸ List.mem_filterMap.2 ⟨other, right, entry⟩)
      have worse : ¬ ((ranked normalizer incoming candidates).all (place ≤ ·.1)) = true := by
        rcases inside with left | right
        · exact apart _ left
        · exact List.filter_eq_nil_iff.1 apart' _ right
      rw [List.all_eq_true] at worse
      push Not at worse
      obtain ⟨entry', listed, below⟩ := worse
      have bound := of_decide_eq_true (List.all_eq_true.1 least entry' listed)
      have beyond : ¬ place ≤ entry'.1 := fun within => below (decide_eq_true within)
      dsimp only at bound
      omega
  · cases chosen

/-- The anchor of a decision is that of the item. -/
theorem matchExisting_anchor (incoming : EvidenceProjection) (candidates : List CandidateProjection) :
    ∃ ambiguous, (matchExisting normalizer incoming candidates).anchor =
        deriveAnchor normalizer incoming ambiguous ∧
      ((matchExisting normalizer incoming candidates).matchRule = .newCandidate →
        ambiguous = false) := by
  unfold matchExisting
  dsimp only
  split
  · exact ⟨false, rfl, fun _ => rfl⟩
  · exact ⟨false, rfl, fun _ => rfl⟩
  · exact ⟨true, rfl, fun new => nomatch new⟩

end Decisions

/-! ### What a candidate keeps -/

section Founded

variable {normalizer : Normalizer} {candidate : EventCandidate} {value other : EvidenceProjection}
  {decision : MatchDecision}

theorem mem_merged {held more : List String} {text : String} :
    text ∈ merged held more ↔ text ∈ held ∨ text ∈ more := by
  rw [merged, List.mem_insertionSort, List.mem_dedup, List.mem_append]

/-- A refresh only adds. -/
theorem Covers.refreshed (covers : Covers normalizer candidate value) :
    Covers normalizer (candidate.refreshed other decision) value where
  signatures signature member := mem_merged.2 (.inl (covers.signatures signature member))
  fingerprint fingerprint given := by
    have held := covers.fingerprint fingerprint given
    unfold EventCandidate.refreshed
    dsimp only
    split
    · exact mem_merged.2 (.inl held)
    · exact held
  entities entity member := mem_merged.2 (.inl (covers.entities entity member))
  assets asset member := mem_merged.2 (.inl (covers.assets asset member))
  topics topic member := mem_merged.2 (.inl (covers.topics topic member))
  first := (min_le_left ..).trans covers.first
  latest := covers.latest.trans (le_max_left ..)

/-- A recount leaves what a candidate has. -/
theorem Covers.recounted (covers : Covers normalizer candidate value) (active : List ActiveEvidence)
    (sourcePriority : Option Int) :
    Covers normalizer (candidate.recounted active sourcePriority) value :=
  ⟨covers.signatures, covers.fingerprint, covers.entities, covers.assets, covers.topics,
    covers.first, covers.latest⟩

/-- A new candidate has what its item has. -/
theorem covers_newCandidate (decides : decision.signatures = evidenceSignatures normalizer value ∧
      decision.titleFingerprint = titleFingerprint normalizer value.title) (id : Uuid) :
    Covers normalizer (newCandidate value decision id) value where
  signatures signature member := by
    show signature ∈ decision.signatures
    rw [decides.1]
    exact member
  fingerprint fingerprint given := by
    show fingerprint ∈ decision.titleFingerprint.toList
    rw [decides.2, given]
    exact List.mem_singleton_self _
  entities _ member := member
  assets _ member := member
  topics _ member := member
  first := le_rfl
  latest := le_rfl

/-- **A candidate has the key of an evidence item, and all that this item has.** -/
def Founded (normalizer : Normalizer) (evidence : List EvidenceRow) (candidate : EventCandidate) :
    Prop :=
  ∃ founder ∈ evidence, ∃ ambiguous,
    candidate.clusterKey = (deriveAnchor normalizer founder.projection ambiguous).clusterKey ∧
      Covers normalizer candidate founder.projection

variable {evidence : List EvidenceRow} {tables after : Tables} {job : Job}

/-- A candidate that has been refreshed and recounted is founded as it was. -/
theorem Founded.refreshed (founded : Founded normalizer evidence candidate)
    (active : List ActiveEvidence) (sourcePriority : Option Int) :
    Founded normalizer evidence
      ((candidate.refreshed other decision).recounted active sourcePriority) := by
  obtain ⟨founder, inside, ambiguous, key, covers⟩ := founded
  exact ⟨founder, inside, ambiguous, key, covers.refreshed.recounted active sourcePriority⟩

/-- One candidate is rewritten. -/
theorem founded_replace (founded : ∀ row ∈ tables.candidates, Founded normalizer evidence row)
    (rewritten : Founded normalizer evidence candidate) :
    ∀ row ∈ (tables.replace candidate).candidates, Founded normalizer evidence row := by
  intro row member
  obtain ⟨old, inside, rfl⟩ := Table.mem_modify.1 member
  split
  · exact rewritten
  · exact founded old inside

/-- **Every change keeps the candidates founded.** -/
theorem founded_changes (founded : ∀ row ∈ tables.candidates, Founded normalizer evidence row)
    (changes : Changes normalizer evidence tables job after) :
    ∀ row ∈ after.candidates, Founded normalizer evidence row := by
  have recounted : ∀ row ∈ tables.candidates, ∀ active sourcePriority,
      Founded normalizer evidence (row.recounted active sourcePriority) := by
    intro row member active sourcePriority
    obtain ⟨founder, inside, ambiguous, key, covers⟩ := founded row member
    exact ⟨founder, inside, ambiguous, key, covers.recounted active sourcePriority⟩
  cases changes with
  | unchanged => exact founded
  | matched read unassociated held new =>
      exact founded_replace founded ((founded _ (Table.mem_of_find _ held)).refreshed _ _)
  | @created _ _ _ projection candidate read unassociated made unfound new =>
      have decides := matchExisting_signatures normalizer projection
        (tables.candidates.map (·.projection))
      obtain ⟨ambiguous, anchor, -⟩ := @matchExisting_anchor normalizer projection
        (tables.candidates.map (·.projection))
      have own : Founded normalizer evidence candidate := by
        obtain ⟨founder, found, rfl⟩ := Option.map_eq_some_iff.1 read
        subst made
        exact ⟨founder, List.mem_of_find?_eq_some found, ambiguous,
          congrArg StableAnchor.clusterKey anchor, covers_newCandidate decides _⟩
      refine @founded_replace _ _ _ (tables.addCandidate candidate) (fun row member => ?_)
        (own.refreshed _ _)
      rcases List.mem_append.1 member with old | added
      · exact founded row old
      · exact List.mem_singleton.1 added ▸ own
  | parted member active pair held =>
      exact founded_replace founded (recounted _ (Table.mem_of_find _ held) _ _)
  | @regrouped link source target _ _ removedAt different read member active pair only sourceHeld
      targetHeld new =>
      have left : ∀ row ∈ (tables.parted evidence source link.id removedAt).candidates,
          Founded normalizer evidence row :=
        founded_replace founded (recounted _ (Table.mem_of_find _ sourceHeld) _ _)
      exact founded_replace left ((founded _ (Table.mem_of_find _ targetHeld)).refreshed _ _)

end Founded

/-! ### Every run of calls -/

/-- **The matcher and the anchors agree**, after any calls one after another: where there is to be a
new candidate, of an item that collides with none, no candidate has its key, so that it is created;
the decision does not depend on the order of the candidates, and chooses one that alone is related
most closely. -/
theorem matcher_agrees {normalizer : Normalizer} (free : CollisionFree normalizer)
    (evidence : List EvidenceRow) (supply : Supply) (jobs : List Job)
    (dated : ∀ row ∈ evidence, IsDatetime row.projection.time) :
    let store := (opened evidence supply).calls normalizer jobs
    (∀ incoming, IsDatetime incoming.time →
      (∀ row ∈ evidence, ¬ Collides normalizer incoming row.projection) →
      (store.tables.decision normalizer incoming).matchRule = .newCandidate →
      (∀ candidate ∈ store.candidates,
        candidate.clusterKey ≠ (deriveAnchor normalizer incoming false).clusterKey) ∧
      ∃ id, ((EventCandidateService.createOrGet incoming
        (store.tables.decision normalizer incoming)).run.alone perform store).outcome =
          .ok (newCandidate incoming (store.tables.decision normalizer incoming) id, "created")) ∧
    (∀ incoming candidates candidates', candidates.Perm candidates' →
      matchExisting normalizer incoming candidates = matchExisting normalizer incoming candidates') ∧
    ∀ incoming candidates id, (matchExisting normalizer incoming candidates).candidateId = some id →
      ∃ before candidate after place, candidates = before ++ candidate :: after ∧
        candidate.id = id ∧
        rank normalizer incoming candidate =
          some (place, (matchExisting normalizer incoming candidates).matchRule) ∧
        ∀ other ∈ before ++ after, ∀ place' rule,
          rank normalizer incoming other = some (place', rule) → place < place' := by
  obtain ⟨idle, -, founded⟩ := @calls_invariant normalizer _
    (fun tables => ∀ row ∈ tables.candidates, Founded normalizer evidence row)
    (opened_idle evidence supply) (fun _ member => absurd member List.not_mem_nil)
    (fun _ _ _ _ changes founded => founded_changes founded changes) jobs
  refine ⟨fun incoming dated' apart new => ?_,
    fun incoming candidates candidates' perm => matchExisting_perm perm,
    fun incoming candidates id chosen => chosen_unique chosen⟩
  have keys : ∀ candidate ∈ ((opened evidence supply).calls normalizer jobs).candidates,
      candidate.clusterKey ≠ (deriveAnchor normalizer incoming false).clusterKey := by
    intro candidate member same
    obtain ⟨founder, inside, ambiguous, key, covers⟩ := founded candidate member
    exact rank_of_sameKey free covers (dated founder inside) dated' (apart founder inside)
      (key.symm.trans same) (unrelated_of_new new _ (List.mem_map_of_mem member))
  refine ⟨keys, ?_⟩
  obtain ⟨ambiguous, anchor, certain⟩ := @matchExisting_anchor normalizer incoming
    (((opened evidence supply).calls normalizer jobs).tables.candidates.map (·.projection))
  obtain rfl := certain new
  obtain ⟨after, -, done⟩ := createOrGet_does incoming
    (((opened evidence supply).calls normalizer jobs).tables.decision normalizer incoming) _ idle.during
  rcases done with ⟨candidate, -, -, held, taken⟩ | ⟨id, -, -, created, -⟩
  · exact absurd (taken.trans (congrArg StableAnchor.clusterKey anchor))
      (keys candidate (Table.mem_of_find _ held))
  · exact ⟨id, created⟩

/-- A text in blocks of two characters, none of them a colon. -/
def coded (text : List Char) : List Char :=
  text.flatMap fun c => if c = ':' then ['1', ';'] else ['0', c]

theorem coded_injective {first second rest rest' : List Char}
    (same : coded first ++ '2' :: rest = coded second ++ '2' :: rest') :
    first = second ∧ rest = rest' := by
  induction first generalizing second with
  | nil =>
      cases second with
      | nil => exact ⟨rfl, (List.cons.inj same).2⟩
      | cons c second =>
          by_cases colon : c = ':'
          · simp [coded, colon] at same
          · simp [coded, colon] at same
  | cons c first ih =>
      cases second with
      | nil =>
          by_cases colon : c = ':'
          · simp [coded, colon] at same
          · simp [coded, colon] at same
      | cons c' second =>
          have block : c = c' ∧ coded first ++ '2' :: rest = coded second ++ '2' :: rest' := by
            by_cases colon : c = ':'
            · by_cases colon' : c' = ':'
              · simp only [coded, List.flatMap_cons, colon, colon', if_true] at same ⊢
                simpa using same
              · simp [coded, colon, colon'] at same
            · by_cases colon' : c' = ':'
              · simp [coded, colon, colon'] at same
              · simp only [coded, List.flatMap_cons, colon, colon', if_false] at same ⊢
                simpa using same
          obtain ⟨rfl, others⟩ := block
          obtain ⟨rfl, rfl⟩ := ih others
          exact ⟨rfl, rfl⟩

/-- A hash that keeps everything, in blocks, and titles of one word. -/
def blocks : Normalizer where
  sha256 text := String.ofList (coded text.toList)
  canonicalizeUrl url := url
  words title := if title = "" then [] else [title]
  listText texts := String.ofList (texts.flatMap fun text => coded text.toList ++ ['2'])

theorem blocks_collisionFree : CollisionFree blocks where
  sha256 first second same := by
    have texts : coded first.toList = coded second.toList := String.ofList_injective same
    exact String.toList_inj.1 (@coded_injective _ _ [] [] (by rw [texts])).1
  digits text member := by
    have inside : ':' ∈ coded text.toList := by simpa [blocks] using member
    obtain ⟨c, -, block⟩ := List.mem_flatMap.1 inside
    by_cases colon : c = ':'
    · simp [colon] at block
    · simp [colon, eq_comm] at block
  listText first second same := by
    have texts := String.ofList_injective same
    induction first generalizing second with
    | nil =>
        cases second with
        | nil => rfl
        | cons text second => simp at texts
    | cons text first ih =>
        cases second with
        | nil => simp at texts
        | cons text' second =>
            rw [List.flatMap_cons, List.flatMap_cons, List.append_assoc, List.append_assoc] at texts
            obtain ⟨heads, tails⟩ := coded_injective texts
            rw [String.toList_inj.1 heads, ih second (congrArg String.ofList tails) tails]

/-- A report, without an identity or a URL, at a time. -/
def noted (id : Uuid) (hash : String) (time : Int) : EvidenceProjection :=
  ⟨id, "official_rss", none, hash, true, none, some "Grid alert", some time, time, ["PJM"], [], [],
    none⟩

/-- Of two reports of one title and a day, the second one is a new candidate beside that of the first
if they are of two days. -/
theorem matcher_agrees_noted :
    let evidence : List EvidenceRow := [⟨noted 1 "g" evening, 11⟩, ⟨filed, 12⟩]
    let incoming := noted 3 "h" (nextEvening + 2)
    let store := (opened evidence collected.supply).calls blocks [.process 1, .process 2]
    store.candidates.length = 2 ∧ (∀ candidate ∈ store.candidates,
      candidate.clusterKey ≠ (deriveAnchor blocks incoming false).clusterKey) := by
  refine ⟨by decide +kernel, ?_⟩
  have agrees := (matcher_agrees blocks_collisionFree
    [⟨noted 1 "g" evening, 11⟩, ⟨filed, 12⟩] collected.supply [.process 1, .process 2]
    (by decide +kernel)).1 (noted 3 "h" (nextEvening + 2)) (by decide +kernel)
  refine (agrees (fun row member collide => ?_) (by decide +kernel)).1
  rcases collide.times with times | times
  · exact absurd times.1 (by decide +kernel)
  · exact absurd times.1 (by decide +kernel)

/-- **The exception**: the first report is processed, and the second one, that of the next evening, is
to be a new candidate, but the first one has its key. -/
theorem taken_key :
    let evidence : List EvidenceRow := [⟨noted 1 "g" evening, 11⟩, ⟨noted 2 "h" nextEvening, 11⟩]
    let store := (opened evidence collected.supply).calls blocks [.process 1]
    let incoming := noted 2 "h" nextEvening
    CollisionFree blocks ∧ (store.tables.decision blocks incoming).matchRule = .newCandidate ∧
      store.candidates.map (·.clusterKey) = [(deriveAnchor blocks incoming false).clusterKey] ∧
      (((EventCandidateService.createOrGet incoming (store.tables.decision blocks incoming)).run.alone
        perform store).outcome.map Prod.snd).toOption = some "concurrent_existing" :=
  ⟨blocks_collisionFree, by decide +kernel, by decide +kernel, by decide +kernel⟩

end NewsCollect.EventIntelligence
