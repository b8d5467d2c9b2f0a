/-
**What is left of a packet that is too large.**

The oldest revisions of a packet are left out one by one until its text fits the budget of bytes. The
text has the digest, the counts and the reason in it, which change with every revision that is left
out: the digest is as long as another, and the first reason is shorter than the last, so that a packet
that was too large under the first is too large under the last.

* `textSize`: the bytes of the text of a value, in whatever order its members are written.
* `prepared`, `build_eq_shrink`: what a packet is made of, before its revisions are counted.
* `shrink_cases`: what is left is the longest that fits.
* `truncation_maximal`: the packet of an item, or the error.
-/

import NewsCollect.Proof.LegacyIdentity
import NewsCollect.Proof.Packets

namespace NewsCollect.RichEvidence

open Calendar Collection Contract Evidence Providers SafeProjection Text Unordered

/-! ### The size of a text -/

section Sizes

variable (library : StandardLibrary)

theorem utf8ByteSize_intercalate (texts : List String) :
    (",".intercalate texts).utf8ByteSize =
      (texts.map String.utf8ByteSize).sum + (texts.length - 1) := by
  induction texts with
  | nil => rfl
  | cons first rest ih =>
      cases rest with
      | nil => simp
      | cons second rest =>
          have comma : (",".utf8ByteSize) = 1 := rfl
          rw [String.intercalate_cons_cons, String.utf8ByteSize_append, String.utf8ByteSize_append, ih,
            comma]
          simp only [List.map_cons, List.sum_cons, List.length_cons]
          omega

/-- The bytes of a text in quotes. -/
def quotedSize (text : String) : Nat :=
  String.utf8Len ('"' :: text.toList.flatMap escapeControl ++ ['"'])

theorem utf8ByteSize_plainQuoted (text : String) :
    (plainQuoted text).utf8ByteSize = quotedSize text := String.utf8ByteSize_ofList _

mutual

/-- The bytes of the text of a value. -/
def textSize : Json → Nat
  | .null => 4
  | .bool value => if value then 4 else 5
  | .int value => (toString value).utf8ByteSize
  | .float numerator scale => (library.floatText numerator scale).utf8ByteSize
  | .special _ => 4
  | .str text => quotedSize text
  | .arr items => itemsSize items + (items.length - 1) + 2
  | .obj members => membersSize members + (members.length - 1) + 2

def itemsSize : List Json → Nat
  | [] => 0
  | item :: items => textSize item + itemsSize items

def membersSize : List (String × Json) → Nat
  | [] => 0
  | (key, value) :: members =>
      quotedSize key + 1 + textSize value + membersSize members

end

variable {library}

theorem membersSize_append (first second : List (String × Json)) :
    membersSize library (first ++ second) =
      membersSize library first + membersSize library second := by
  induction first with
  | nil => simp [membersSize]
  | cons entry first ih =>
      rw [List.cons_append, membersSize, membersSize, ih]
      omega

/-- The bytes of a member of an object. -/
def memberSize (entry : String × String) : Nat :=
  quotedSize entry.1 + 1 + entry.2.utf8ByteSize

/-- The order of the members does not count. -/
theorem utf8ByteSize_members (texts : List (String × String)) :
    ("\x7b" ++ ",".intercalate ((texts.mergeSort fun left right => left.1 ≤ right.1).map fun entry =>
        plainQuoted entry.1 ++ ":" ++ entry.2) ++ "\x7d").utf8ByteSize =
      (texts.map memberSize).sum + (texts.length - 1) + 2 := by
  have sorted : (texts.mergeSort fun left right => left.1 ≤ right.1).Perm texts :=
    List.mergeSort_perm ..
  have each : (fun entry : String × String =>
      (plainQuoted entry.1 ++ ":" ++ entry.2).utf8ByteSize) = memberSize := by
    funext entry
    rw [String.utf8ByteSize_append, String.utf8ByteSize_append, utf8ByteSize_plainQuoted]
    rfl
  have opening : ("\x7b").utf8ByteSize = 1 := rfl
  have closing : ("\x7d").utf8ByteSize = 1 := rfl
  rw [String.utf8ByteSize_append, String.utf8ByteSize_append, utf8ByteSize_intercalate, List.map_map,
    List.length_map, List.length_mergeSort, show String.utf8ByteSize ∘ (fun entry : String × String =>
      plainQuoted entry.1 ++ ":" ++ entry.2) = memberSize from each, (sorted.map memberSize).sum_nat,
    opening, closing]
  omega

mutual

/-- A text has the bytes that are counted. -/
theorem utf8ByteSize_of_plainText : ∀ (value : Json) {text : String},
    plainText library value = some text → text.utf8ByteSize = textSize library value
  | .null, _, rfl => rfl
  | .bool value, _, written => by
      obtain rfl := Option.some.inj written
      cases value <;> rfl
  | .int _, _, rfl => rfl
  | .float _ _, _, rfl => rfl
  | .special value, _, written => by
      cases value with
      | minusZero =>
          obtain rfl := Option.some.inj written
          rfl
      | _ => exact absurd written nofun
  | .str text, _, rfl => utf8ByteSize_plainQuoted text
  | .arr items, _, written => by
      obtain ⟨texts, known, rfl⟩ := Option.map_eq_some_iff.1 written
      obtain ⟨length, sizes⟩ := utf8ByteSize_of_plainItems items known
      have opening : ("[").utf8ByteSize = 1 := rfl
      have closing : ("]").utf8ByteSize = 1 := rfl
      rw [String.utf8ByteSize_append, String.utf8ByteSize_append, utf8ByteSize_intercalate, sizes,
        length, textSize, opening, closing]
      omega
  | .obj members, _, written => by
      obtain ⟨texts, known, rfl⟩ := Option.map_eq_some_iff.1 written
      obtain ⟨length, sizes⟩ := utf8ByteSize_of_plainMembers members known
      rw [utf8ByteSize_members, sizes, length, textSize]

theorem utf8ByteSize_of_plainItems : ∀ (items : List Json) {texts : List String},
    plainItems library items = some texts →
      texts.length = items.length ∧ (texts.map String.utf8ByteSize).sum = itemsSize library items
  | [], _, rfl => ⟨rfl, rfl⟩
  | item :: items, _, written => by
      simp only [plainItems, Option.bind_eq_bind, Option.bind_eq_some_iff, Option.pure_def,
        Option.some.injEq] at written
      obtain ⟨text, head, rest, tail, rfl⟩ := written
      obtain ⟨length, sizes⟩ := utf8ByteSize_of_plainItems items tail
      rw [List.map_cons, List.sum_cons, utf8ByteSize_of_plainText item head, sizes, itemsSize]
      exact ⟨congrArg (· + 1) length, rfl⟩

theorem utf8ByteSize_of_plainMembers : ∀ (members : List (String × Json))
    {texts : List (String × String)}, plainMembers library members = some texts →
      texts.length = members.length ∧ (texts.map memberSize).sum = membersSize library members
  | [], _, rfl => ⟨rfl, rfl⟩
  | (key, value) :: members, _, written => by
      simp only [plainMembers, Option.bind_eq_bind, Option.bind_eq_some_iff, Option.pure_def,
        Option.some.injEq] at written
      obtain ⟨text, head, rest, tail, rfl⟩ := written
      obtain ⟨length, sizes⟩ := utf8ByteSize_of_plainMembers members tail
      rw [List.map_cons, List.sum_cons, memberSize, utf8ByteSize_of_plainText value head, sizes,
        membersSize]
      exact ⟨congrArg (· + 1) length, rfl⟩

end

/-- The text of a digest is as long as that of another. -/
theorem quotedSize_hash {digest : String} (hash : Evidence.isHash digest = true) :
    quotedSize digest = 66 := by
  simp only [Evidence.isHash, bounded, Bool.and_eq_true, decide_eq_true_eq, List.all_eq_true] at hash
  obtain ⟨⟨least, most⟩, digits⟩ := hash
  have plain : ∀ c ∈ digest.toList, escapeControl c = [c] ∧ c.utf8Size = 1 := by
    intro c member
    have known : ∀ n : Fin 128, (isDigit (Char.ofNat n) ||
        (97 ≤ (Char.ofNat n).toNat && (Char.ofNat n).toNat ≤ 102)) = true →
          escapeControl (Char.ofNat n) = [Char.ofNat n] ∧ (Char.ofNat n).utf8Size = 1 := by
      decide
    have digit := digits c member
    have below : c.toNat < 128 := by
      simp only [isDigit, Bool.or_eq_true, Bool.and_eq_true, decide_eq_true_eq] at digit
      omega
    exact ascii_forall (fun c => (isDigit c || (97 ≤ c.toNat && c.toNat ≤ 102)) = true →
      escapeControl c = [c] ∧ c.utf8Size = 1) known below (by simpa using digit)
  have same : digest.toList.flatMap escapeControl = digest.toList := by
    rw [List.flatMap_congr fun c member => (plain c member).1, List.flatMap_singleton']
  have size : ∀ chars : List Char, (∀ c ∈ chars, c.utf8Size = 1) →
      String.utf8Len chars = chars.length := by
    intro chars single
    induction chars with
    | nil => rfl
    | cons c chars ih =>
        rw [String.utf8Len_cons, single c (List.mem_cons_self ..),
          ih fun other member => single other (List.mem_cons_of_mem _ member), List.length_cons]
  rw [quotedSize, same, size _ fun c member => ?_]
  · simp only [List.cons_append, List.length_cons, List.length_append, List.length_nil]
    omega
  · rcases List.mem_append.1 member with inside | last
    · rcases List.mem_cons.1 inside with rfl | inside
      · rfl
      · exact (plain c inside).2
    · obtain rfl := List.mem_singleton.1 last
      rfl

/-! ### What can be written -/

/-- Two values are joined where both are there. -/
theorem isSome_both {α β γ : Type} (first : Option α) (second : Option β) (join : α → β → γ) :
    (do let left ← first; let right ← second; pure (join left right)).isSome =
      (first.isSome && second.isSome) := by
  cases first <;> cases second <;> rfl

mutual

/-- What is written in ASCII is written in full. -/
theorem plainText_isSome : ∀ value : Json,
    (plainText library value).isSome = (canonicalText library value).isSome
  | .null | .bool _ | .int _ | .float _ _ | .str _ => rfl
  | .special value => by cases value <;> rfl
  | .arr items => by
      rw [plainText, canonicalText, Option.isSome_map, Option.isSome_map, plainItems_isSome items]
  | .obj members => by
      rw [plainText, canonicalText, Option.isSome_map, Option.isSome_map,
        plainMembers_isSome members]

theorem plainItems_isSome : ∀ items : List Json,
    (plainItems library items).isSome = (canonicalItems library items).isSome
  | [] => rfl
  | item :: items => by
      rw [plainItems, canonicalItems, isSome_both, isSome_both, plainText_isSome item,
        plainItems_isSome items]

theorem plainMembers_isSome : ∀ members : List (String × Json),
    (plainMembers library members).isSome = (canonicalMembers library members).isSome
  | [] => rfl
  | (key, value) :: members => by
      rw [plainMembers, canonicalMembers, isSome_both, isSome_both _ _ fun first rest =>
        (key, first) :: rest, plainText_isSome value, plainMembers_isSome members]

end

/-- A value that `json.dumps` does not refuse. -/
def Writable (library : StandardLibrary) (value : Json) : Prop := (plainText library value).isSome

@[simp] theorem writable_str (text : String) : Writable library (.str text) := rfl

@[simp] theorem writable_int (value : Int) : Writable library (.int value) := rfl

@[simp] theorem writable_bool (value : Bool) : Writable library (.bool value) := rfl

@[simp] theorem writable_null : Writable library .null := rfl

@[simp] theorem writable_uuid (id : Uuid) : Writable library (uuidJson id) := rfl

@[simp] theorem writable_instant (instant : Int) : Writable library (instantJson instant) := rfl

@[simp] theorem writable_option {α : Type} {write : α → Json} {value : Option α}
    (each : ∀ value, Writable library (write value)) : Writable library (optionJson write value) := by
  cases value with
  | none => rfl
  | some value => exact each value

@[simp] theorem writable_arr {items : List Json} :
    Writable library (.arr items) ↔ ∀ item ∈ items, Writable library item := by
  rw [Writable, plainText, Option.isSome_map]
  induction items with
  | nil => simp [plainItems]
  | cons item items ih =>
      rw [List.forall_mem_cons, ← ih, plainItems, isSome_both, Bool.and_eq_true, Writable]

@[simp] theorem writable_obj {members : Object} :
    Writable library (.obj members) ↔ ∀ entry ∈ members, Writable library entry.2 := by
  rw [Writable, plainText, Option.isSome_map]
  induction members with
  | nil => simp [plainMembers]
  | cons entry members ih =>
      obtain ⟨key, value⟩ := entry
      rw [List.forall_mem_cons, ← ih, plainMembers, isSome_both, Bool.and_eq_true, Writable]

end Sizes

/-! ### The facts of a revision -/

section Facts

variable {library : StandardLibrary} {provider operation : String} {version : Int}
  {payload result : Object}

theorem exists_of_timestamp {value form : Json} (done : timestamp value = .ok form) :
    ∃ instant, inRange instant = true ∧ form = .str (String.ofList (isoFormat instant 0)) := by
  obtain ⟨text, accepted, rfl⟩ := map_eq_ok.1 done
  obtain ⟨-, here, offset, -, -, inside, rfl⟩ := timestampOf_eq_ok.1 accepted
  exact ⟨_, inside, rfl⟩

/-- Validated facts are of an instant. -/
theorem published_of_validate
    (accepted : validateFactualPayload library provider operation version payload = .ok result) :
    ∃ instant, inRange instant = true ∧
      result.get "published_at" = .str (String.ofList (isoFormat instant 0)) := by
  have dated {keys steps record found} (ordered : Ordered steps)
      (contracted : contract keys steps record = .ok found)
      (member : .field "published_at" timestamp ∈ steps) :=
    exists_of_timestamp (normal_of_run ordered (contract_eq_ok.1 contracted).2 member)
  obtain ⟨-, -, cases⟩ := validate_cases accepted
  rcases cases with ⟨-, -, news⟩ | ⟨-, -, quote⟩ | ⟨-, -, company⟩ | ⟨-, -, retail⟩ | ⟨-, -, rto⟩ |
    ⟨-, -, filing⟩
  · exact dated (ordered_marketaux library) news (by simp [marketauxSteps])
  · exact dated ordered_quote quote (by simp [quoteSteps])
  · exact dated (ordered_companyNews library) company (by simp [companyNewsSteps])
  · exact dated ordered_eia retail (by simp [eiaSteps])
  · exact dated (ordered_rto library) rto (by simp [rtoSteps])
  · obtain ⟨inner, contracted, -, file⟩ := sec_eq_ok filing
    have found := dated ordered_sec contracted (by simp [secSteps])
    rcases file with ⟨-, rfl⟩ | ⟨reference, -, -, -, rfl⟩
    · exact found
    · rwa [Object.get_set_ne (by decide)]

/-- The file of a filing is the only field that may be added. -/
theorem get_fields (facts : TypedFacts) {key : String} (other : key ≠ "submissions_file") :
    facts.fields.get key = facts.values.get key := by
  rw [TypedFacts.fields]
  split
  · have absent : List.lookup key [("submissions_file", Json.null)] = none := by
      simp [List.lookup, beq_eq_false_iff_ne.2 other]
    rw [Object.get, Object.get, List.lookup_append, absent, Option.or_none]
  · rfl

/-- Validated facts have an older identity where their operation has. -/
theorem legacy_of_validate {facts : TypedFacts}
    (accepted : validateFactualPayload library provider operation version payload = .ok facts.values)
    (old : legacyOpaqueIdentityOperations.contains (provider, operation) = true) :
    ∃ identity, legacyProviderItemIdentity library provider operation facts.fields =
      .ok identity := by
  have found {value : IdentityValue} (known : legacyIdentityValue provider facts.fields = .ok value)
      (whole : value.isWhole = true) : ∃ identity,
        legacyProviderItemIdentity library provider operation facts.fields = .ok identity := by
    rw [legacyProviderItemIdentity, old, known]
    exact ⟨_, check_eq_ok.2 ⟨rfl, bind_eq_ok.2 ⟨value, rfl, check_eq_ok.2 ⟨by rw [whole]; rfl, rfl⟩⟩⟩⟩
  obtain ⟨-, -, cases⟩ := validate_cases accepted
  rcases cases with ⟨rfl, rfl, news⟩ | ⟨rfl, rfl, quote⟩ | ⟨rfl, rfl, -⟩ | ⟨rfl, rfl, retail⟩ |
    ⟨rfl, rfl, -⟩ | ⟨rfl, rfl, filing⟩
  · have form : marketauxIdentity (payload.get "provider_item_id") =
        .ok (facts.values.get "provider_item_id") :=
      normal_of_run (ordered_marketaux library) (contract_eq_ok.1 news).2 (by simp [marketauxSteps])
    rw [marketauxIdentity] at form
    split at form
    · next identity known =>
        obtain ⟨there, again⟩ := marketauxIdentity?_again known
        refine @found (.single (.str identity)) ?_ (by simp [IdentityValue.isWhole, isPresent, there])
        rw [legacyIdentityValue, if_pos rfl, get_fields facts (by decide), ← Except.ok.inj form, again]
    · cases form
  · have ran := (contract_eq_ok.1 quote).2
    obtain ⟨code, read, same⟩ := map_eq_ok.1 (normal_of_run ordered_quote ran
      (show .field "symbol" symbol ∈ quoteSteps by simp [quoteSteps]))
    obtain ⟨-, capitals, -, -, shape, rfl⟩ := symbolOf_eq_ok.1 read
    have time : providerTimestamp (facts.values.get "provider_timestamp") = .ok () :=
      holds_of_run ordered_quote ran (show .check ["provider_timestamp"] (fun values =>
        providerTimestamp (values.headD .null)) ∈ quoteSteps by simp [quoteSteps, checkField])
    have there : String.ofList capitals ≠ "" := fun empty =>
      (headed_eq_true shape).1 (String.ofList_eq_empty_iff.1 empty)
    have counted : ∃ seconds, facts.values.get "provider_timestamp" = .int seconds := by
      cases held : facts.values.get "provider_timestamp" with
      | int seconds => exact ⟨seconds, rfl⟩
      | _ => rw [held] at time; cases time
    obtain ⟨seconds, counted⟩ := counted
    refine @found (.parts [.str (String.ofList capitals), .int seconds]) ?_
      (by simp [IdentityValue.isWhole, isPresent, there])
    simp [legacyIdentityValue, get_fields facts, ← same, counted]
  · exact absurd old (by decide)
  · have ran := (contract_eq_ok.1 retail).2
    have month : eiaPeriod (facts.values.get "period") = .ok () :=
      holds_of_run ordered_eia ran (show .check ["period"] (fun values =>
        eiaPeriod (values.headD .null)) ∈ eiaSteps by simp [eiaSteps, checkField])
    have dated : ∃ period, facts.values.get "period" = .str period ∧ period ≠ "" := by
      cases held : facts.values.get "period" with
      | str period =>
          rw [held, eiaPeriod, require_eq_ok, isMonth, Bool.and_eq_true] at month
          refine ⟨period, rfl, fun empty => ?_⟩
          have long := length_of_shaped month.1
          rw [empty] at long
          exact absurd long (by decide)
      | _ => rw [held] at month; cases month
    obtain ⟨period, dated, there⟩ := dated
    have facetAt (key : String) (member : .field key facet ∈ eiaSteps) :
        ∃ form, facts.values.get key = .str form ∧ form ≠ "" := by
      obtain ⟨form, read, same⟩ := map_eq_ok.1 (normal_of_run ordered_eia ran member)
      obtain ⟨normalized, -, -, some, rfl⟩ := facetOf_eq_ok.1 read
      exact ⟨_, same.symm, fun empty => some (String.ofList_eq_empty_iff.1 empty)⟩
    obtain ⟨geography, placed, there'⟩ := facetAt "geography" (by simp [eiaSteps])
    obtain ⟨sector, sorted, there''⟩ := facetAt "sector" (by simp [eiaSteps])
    refine @found (.parts [.str period, .str geography, .str sector]) ?_
      (by simp [IdentityValue.isWhole, isPresent, there, there', there''])
    simp [legacyIdentityValue, get_fields facts, dated, placed, sorted]
  · exact absurd old (by decide)
  · obtain ⟨inner, contracted, -, file⟩ := sec_eq_ok filing
    obtain ⟨accession, read, same⟩ := map_eq_ok.1 (normal_of_run ordered_sec
      (contract_eq_ok.1 contracted).2 (show .field "accession_number" (text 20) ∈ secSteps by
        simp [secSteps]))
    obtain ⟨raw, -, rfl, some, -⟩ := textOf_eq_ok.1 read
    have numbered : facts.values.get "accession_number" =
        .str (String.ofList (collapse raw.toList)) := by
      rw [same]
      rcases file with ⟨-, held⟩ | ⟨reference, -, -, -, held⟩
      · rw [held]
      · rw [held, Object.get_set_ne (by decide)]
    refine @found (.single (.str (String.ofList (collapse raw.toList)))) ?_ ?_
    · simp [legacyIdentityValue, get_fields facts, numbered]
    · simp [IdentityValue.isWhole, isPresent, some]

end Facts

/-! ### Assembling -/

section Assembled

variable {library : StandardLibrary} {draft : Draft} {revisions : List EvidenceRevision}
  {reason : String} {packet : RichEvidencePacket}

/-- The packet of a draft, under its digest. -/
def packetOf (draft : Draft) (mode : String) (published : Int) (revisions : List EvidenceRevision)
    (reason digest : String) : RichEvidencePacket where
  packetVersion := 1
  packetDigest := digest
  evidenceId := draft.evidence.id
  rawItemId := draft.raw.id
  provider := draft.evidence.provider
  operationKey := draft.current.revision.operationKey
  evidenceKind := draft.evidence.evidenceKind
  providerItemType := draft.evidence.providerItemType
  accessLevel := draft.evidence.accessLevel
  identityMode := mode
  retentionClass := draft.raw.envelope.retentionClass
  canonicalEventTime := draft.evidence.eventTime
  canonicalObservedAt := draft.evidence.observedAt
  currentPublishedAt := published
  currentObservedAt := draft.current.revision.observedAt
  provenance :=
    { sourceId := draft.evidence.sourceId
      sourceAccountId := draft.evidence.sourceAccountId
      collectionTargetId := draft.current.target.map Target.id
      firstPersistenceRunId := draft.raw.collectionRunId
      configRevision := draft.current.revision.configRevision
      providerContractVersion := draft.current.revision.providerContractVersion }
  content := draft.content
  current := draft.current.revision
  revisions := revisions
  quality := draft.current.revision.quality
  missingFields := draft.missing
  blockedFields := draft.blocked
  truncation := ⟨revisions.length < draft.total, draft.total, revisions.length, reason⟩

theorem packetDigest_packetOf (draft : Draft) (mode : String) (published : Int)
    (revisions : List EvidenceRevision) (reason digest : String) :
    (packetOf draft mode published revisions reason digest).packetDigest = digest := rfl

/-- The reason is told in the last of the members. -/
theorem material_packetOf (draft : Draft) (mode : String) (published : Int)
    (revisions : List EvidenceRevision) (reason digest : String) :
    material (packetOf draft mode published revisions reason digest) =
      (material (packetOf draft mode published revisions "" "")).take 21 ++
        [("truncation", truncationJson
          ⟨revisions.length < draft.total, draft.total, revisions.length, reason⟩)] := rfl

theorem canonicalJson_eq_ok {value : Json} {text : String} :
    canonicalJson library value = .ok text ↔ plainText library value = some text := by
  rw [canonicalJson]
  cases plainText library value with
  | none => exact ⟨nofun, nofun⟩
  | some found => simp

/-- The digest is that of the text without it. -/
theorem assemble_eq_ok :
    assemble library draft revisions reason = .ok packet ↔
      ∃ mode published text, identityMode library draft.evidence draft.current.revision = .ok mode ∧
        factsPublishedAt draft.current.revision.facts = .ok published ∧
        plainText library (.obj (material packet)) = some text ∧
        packet = packetOf draft mode published revisions reason (library.sha256 text) := by
  constructor
  · intro made
    obtain ⟨mode, moded, rest⟩ := bind_eq_ok.1 made
    obtain ⟨published, dated, rest⟩ := bind_eq_ok.1 rest
    obtain ⟨text, written, rest⟩ := bind_eq_ok.1 rest
    obtain rfl := pure_eq_ok.1 rest
    exact ⟨mode, published, text, moded, dated, canonicalJson_eq_ok.1 written, rfl⟩
  · rintro ⟨mode, published, text, moded, dated, written, rfl⟩
    exact bind_eq_ok.2 ⟨mode, moded, bind_eq_ok.2 ⟨published, dated,
      bind_eq_ok.2 ⟨text, canonicalJson_eq_ok.2 written, rfl⟩⟩⟩

theorem writable_revision {revision : EvidenceRevision}
    (facts : Writable library (.obj revision.facts.fields)) :
    Writable library (revisionJson revision) := by
  rw [revisionJson, writable_obj]
  simp [facts]

theorem writable_material (current : Writable library (.obj packet.current.facts.fields))
    (each : ∀ revision ∈ packet.revisions, Writable library (.obj revision.facts.fields)) :
    Writable library (.obj (material packet)) := by
  rw [writable_obj, material]
  simp only [List.forall_mem_cons, List.not_mem_nil, false_implies, implies_true, and_true]
  have revisions : Writable library (.arr (packet.revisions.map revisionJson)) := by
    rw [writable_arr]
    intro item member
    obtain ⟨revision, inside, rfl⟩ := List.mem_map.1 member
    exact writable_revision (each revision inside)
  simp [provenanceJson, contentJson, truncationJson, revisions, writable_revision current]

/-- What a draft has where its packets can be assembled. -/
structure Ready (library : StandardLibrary) (draft : Draft) : Prop where
  mode : ∃ mode, identityMode library draft.evidence draft.current.revision = .ok mode
  published : ∃ published, factsPublishedAt draft.current.revision.facts = .ok published
  current : Writable library (.obj draft.current.revision.facts.fields)

/-- The bytes of a packet of some revisions. -/
def Sized (library : StandardLibrary) (draft : Draft) (revisions : List EvidenceRevision)
    (reason : String) (size : Nat) : Prop :=
  ∃ packet, assemble library draft revisions reason = .ok packet ∧
    encodedSize library packet = .ok size

theorem encodedSize_eq_ok {size : Nat} :
    encodedSize library packet = .ok size ↔
      ∃ text, plainText library (packetJson packet) = some text ∧ text.utf8ByteSize = size := by
  rw [encodedSize, bind_eq_ok]
  simp only [canonicalJson_eq_ok, pure_eq_ok]

theorem exists_sized (ready : Ready library draft)
    (each : ∀ revision ∈ revisions, Writable library (.obj revision.facts.fields))
    (reason : String) : ∃ size, Sized library draft revisions reason size := by
  obtain ⟨mode, moded⟩ := ready.mode
  obtain ⟨published, dated⟩ := ready.published
  have written (digest : String) : Writable library
      (.obj (material (packetOf draft mode published revisions reason digest))) :=
    writable_material ready.current each
  obtain ⟨text, known⟩ := Option.isSome_iff_exists.1 (written "")
  have whole : Writable library
      (packetJson (packetOf draft mode published revisions reason (library.sha256 text))) := by
    rw [packetJson, writable_obj]
    intro entry member
    rcases List.mem_append.1 member with inside | last
    · exact writable_obj.1 (written _) entry inside
    · rw [List.mem_singleton.1 last]
      exact writable_str _
  obtain ⟨full, encoded⟩ := Option.isSome_iff_exists.1 whole
  exact ⟨_, packetOf draft mode published revisions reason (library.sha256 text),
    assemble_eq_ok.2 ⟨mode, published, text, moded, dated, known, rfl⟩,
    encodedSize_eq_ok.2 ⟨full, encoded, rfl⟩⟩

/-- The digest adds the same to the text of every packet. -/
theorem textSize_packetOf {mode digest : String} {published : Int}
    (hash : Evidence.isHash digest = true) :
    textSize library (packetJson (packetOf draft mode published revisions reason digest)) =
      textSize library (.obj (material (packetOf draft mode published revisions reason ""))) + 83 := by
  have name : quotedSize "packet_digest" = 15 := by decide
  rw [packetJson, material_packetOf, material_packetOf draft mode published revisions reason ""]
  simp only [packetDigest_packetOf, textSize, membersSize_append, membersSize, List.length_append,
    List.length_cons, List.length_nil, quotedSize_hash hash, name]
  omega

/-- A packet is no smaller under a longer reason. -/
theorem sized_mono (hashes : ∀ text, Evidence.isHash (library.sha256 text) = true)
    {shorter longer : String}
    (sizes : quotedSize shorter ≤ quotedSize longer)
    {size other : Nat} (first : Sized library draft revisions shorter size)
    (second : Sized library draft revisions longer other) : size ≤ other := by
  obtain ⟨packet, made, counted⟩ := first
  obtain ⟨packet', made', counted'⟩ := second
  obtain ⟨mode, published, text, moded, dated, -, rfl⟩ := assemble_eq_ok.1 made
  obtain ⟨mode', published', text', moded', dated', -, rfl⟩ := assemble_eq_ok.1 made'
  obtain rfl := Except.ok.inj (moded.symm.trans moded')
  obtain rfl := Except.ok.inj (dated.symm.trans dated')
  obtain ⟨full, encoded, rfl⟩ := encodedSize_eq_ok.1 counted
  obtain ⟨full', encoded', rfl⟩ := encodedSize_eq_ok.1 counted'
  rw [utf8ByteSize_of_plainText _ encoded, utf8ByteSize_of_plainText _ encoded',
    textSize_packetOf (hashes text), textSize_packetOf (hashes text'), material_packetOf,
    material_packetOf draft mode published revisions longer]
  simp only [textSize, membersSize_append, membersSize, truncationJson, List.length_append,
    List.length_cons, List.length_nil]
  omega

/-! ### Leaving out revisions -/

/-- The packet of these revisions has more bytes than it may have. -/
def Exceeds (library : StandardLibrary) (maxBytes : Nat) (draft : Draft)
    (revisions : List EvidenceRevision) (reason : String) : Prop :=
  ∃ size, Sized library draft revisions reason size ∧ maxBytes < size

/-- The reason of a packet that these are left in: another one once a revision has been left out. -/
def reasonOf (first : String) (selected left : List EvidenceRevision) : String :=
  if left.length = selected.length then first else "serialized_size_budget"

/-- **What is left is the longest that fits**, unless the last one alone is too large. -/
theorem shrink_cases {maxBytes : Nat} (ready : Ready library draft)
    (each : ∀ revision ∈ revisions, Writable library (.obj revision.facts.fields))
    (some : revisions ≠ []) (first : String) :
    (shrink library maxBytes draft revisions first =
        richError "rich_evidence_packet_budget_exceeded" ∧
      Exceeds library maxBytes draft [revisions.getLast some]
        (reasonOf first revisions [revisions.getLast some])) ∨
    ∃ left packet size, shrink library maxBytes draft revisions first = .ok packet ∧
      left <:+ revisions ∧ left ≠ [] ∧
      assemble library draft left (reasonOf first revisions left) = .ok packet ∧
      encodedSize library packet = .ok size ∧ size ≤ maxBytes ∧
      ∀ longer, longer <:+ revisions → left.length < longer.length →
        Exceeds library maxBytes draft longer (reasonOf first revisions longer) := by
  induction revisions generalizing first with
  | nil => exact absurd rfl some
  | cons oldest rest ih =>
      obtain ⟨size, packet, made, counted⟩ := exists_sized ready each first
      have step : shrink library maxBytes draft (oldest :: rest) first =
          if size ≤ maxBytes then .ok packet
          else if rest.isEmpty then richError "rich_evidence_packet_budget_exceeded"
          else shrink library maxBytes draft rest "serialized_size_budget" := by
        rw [shrink, made]
        change (encodedSize library packet >>= _) = _
        rw [counted]
        rfl
      have whole (list : List EvidenceRevision) (suffix : list <:+ oldest :: rest)
          (long : (oldest :: rest).length ≤ list.length) : list = oldest :: rest :=
        suffix.eq_of_length_le long
      have same : reasonOf first (oldest :: rest) (oldest :: rest) = first := if_pos rfl
      rw [step]
      by_cases fits : size ≤ maxBytes
      · rw [if_pos fits]
        refine .inr ⟨oldest :: rest, packet, size, rfl, List.suffix_rfl, some, same.symm ▸ made,
          counted, fits, fun longer suffix long => ?_⟩
        exact absurd suffix.length_le (not_le.2 long)
      rw [if_neg fits]
      have concluded : Exceeds library maxBytes draft (oldest :: rest) first :=
        ⟨size, ⟨packet, made, counted⟩, not_le.1 fits⟩
      cases rest with
      | nil => exact .inl ⟨rfl, by simpa [reasonOf] using concluded⟩
      | cons next others =>
          have there : next :: others ≠ [] := List.cons_ne_nil next others
          have again (list : List EvidenceRevision) :
              reasonOf "serialized_size_budget" (next :: others) list = "serialized_size_budget" :=
            ite_self _
          have dropped (list : List EvidenceRevision) (short : list.length ≤ (next :: others).length) :
              reasonOf first (oldest :: next :: others) list = "serialized_size_budget" := by
            refine if_neg fun long => ?_
            rw [long] at short
            exact absurd short (by simp)
          rw [if_neg (by simp)]
          rcases ih (fun revision member => each revision (List.mem_cons_of_mem _ member)) there
            "serialized_size_budget" with ⟨raised, large⟩ | ⟨left, found, bytes, kept, suffix, left_ne,
              assembled, measured, within, longest⟩
          · refine .inl ⟨raised, ?_⟩
            rw [again] at large
            rw [List.getLast_cons there, dropped _ (by simp)]
            exact large
          · rw [again] at assembled
            refine .inr ⟨left, found, bytes, kept, suffix.trans (List.suffix_cons ..), left_ne, ?_,
              measured, within, fun longer longer_suffix long => ?_⟩
            · rwa [dropped _ suffix.length_le]
            rcases List.suffix_cons_iff.1 longer_suffix with rfl | inside
            · exact same.symm ▸ concluded
            · rw [dropped _ inside.length_le, ← again longer]
              exact longest longer inside long

end Assembled

/-! ### The packet of an item -/

section Prepared

variable (library : StandardLibrary)

/-- **An item with valid revisions**: what its packet is made of, with the revisions in their order,
before the budgets are asked. -/
def prepared (inputs : PacketInputs) (evidence : EvidenceItem) :
    Result (Draft × List EvidenceRevision) := do
  let rows := inputs.rows evidence.id
  require (!rows.isEmpty) .richEvidenceError "rich_evidence_linked_projection_missing"
  let raw ← rawOf inputs evidence
  let revised ← rows.mapM (checkRow library evidence raw)
  require (sameOperation revised) .richEvidenceError "rich_evidence_operation_conflict"
  let sorted := revised.insertionSort Earlier
  let revisions := sorted.map Revised.revision
  let current ← orRaise sorted.getLast? .indexError "list index out of range"
  let operation := current.revision.operationKey
  let version := current.revision.providerContractVersion
  let policy ← factualOperationPolicy evidence.provider operation (some version)
  require (policy.retention.contains raw.envelope.retentionClass) .richEvidenceError
    "rich_evidence_retention_policy_invalid"
  let canonical ← orRaise (only (revisions.filter fun revision =>
      (Table.find (fun row => row.link.id) rows revision.linkId).any fun row =>
        row.link.canonicalEvidence)) .richEvidenceError "rich_evidence_canonical_adoption_invalid"
  checkTimes evidence canonical
  let content ← contentReference evidence raw.envelope.retentionClass rows revisions operation
    version inputs.contents
  let (missing, blocked) := availability current.revision.facts
  pure (⟨evidence, raw, current, content, missing, blocked, revisions.length⟩, revisions)

/-- The last revisions, as many as there may be. -/
def lastOf (most : Nat) (revisions : List EvidenceRevision) : List EvidenceRevision :=
  revisions.drop (revisions.length - most)

/-- The reason of a packet that this many revisions are left in. -/
def finalReason (limits : Limits) (total left : Nat) : String :=
  if left = min limits.maxRevisions total then
    if left < total then "revision_budget" else "none"
  else "serialized_size_budget"

variable {library} {limits : Limits} {inputs : PacketInputs} {evidence : EvidenceItem} {draft : Draft}
  {revisions : List EvidenceRevision}

theorem build_eq_shrink : build library limits inputs evidence =
    prepared library inputs evidence >>= fun item =>
      shrink library limits.maxSerializedBytes item.1 (lastOf limits.maxRevisions item.2)
        (if (lastOf limits.maxRevisions item.2).length < item.2.length then "revision_budget"
          else "none") := by
  simp only [build, buildSorted, prepared, lastOf, bind_assoc, pure_bind]
  rfl

/-- Facts that are still what they were have been validated, and can be written. -/
theorem facts_of_checkFacts {projection : Projection} {facts : TypedFacts}
    {quality : ProjectionQuality} (read : checkFacts library projection = .ok (facts, quality)) :
    (∃ version payload, validateFactualPayload library projection.provider projection.operationKey
        version payload = .ok facts.values) ∧ Writable library (.obj facts.fields) := by
  rw [checkFacts] at read
  split at read
  · next normal classified =>
      obtain ⟨normalized, found⟩ := normal
      rw [pure_bind] at read
      obtain ⟨-, read⟩ := check_eq_ok.1 read
      obtain ⟨hash, hashed, read⟩ := bind_eq_ok.1 read
      obtain ⟨-, read⟩ := check_eq_ok.1 read
      obtain ⟨typed, kinded, read⟩ := bind_eq_ok.1 read
      obtain ⟨rfl, rfl⟩ := Prod.mk.inj (pure_eq_ok.1 read)
      obtain ⟨result, accepted, same⟩ := bind_eq_ok.1 classified
      obtain ⟨rfl, -⟩ := Prod.mk.inj (pure_eq_ok.1 same)
      have values : typed.values = result := by
        rw [typedFacts] at kinded
        split at kinded
        · rw [← Except.ok.inj kinded]
        · exact absurd kinded nofun
      have written : Writable library (.obj result) := by
        rw [canonicalProjectionHash] at hashed
        split at hashed
        · next text known => rw [Writable, plainText_isSome, known]; rfl
        · exact absurd hashed nofun
      refine ⟨⟨_, _, values ▸ accepted⟩, ?_⟩
      rw [writable_obj] at written ⊢
      intro entry member
      rw [TypedFacts.fields, values] at member
      split at member
      · rcases List.mem_append.1 member with inside | added
        · exact written entry inside
        · rw [List.mem_singleton.1 added]
          exact writable_null
      · exact written entry member
  · split at read
    · exact absurd read nofun
    · exact absurd read nofun

/-- A revision has facts that have been validated, of the provider of the item. -/
theorem facts_of_checkRow {raw : RawItem} {row : LinkedRow} {revised : Revised}
    (checked : checkRow library evidence raw row = .ok revised) :
    (∃ version payload, validateFactualPayload library evidence.provider
        revised.revision.operationKey version payload = .ok revised.revision.facts.values) ∧
      Writable library (.obj revised.revision.facts.fields) := by
  obtain ⟨valid, rest⟩ := check_eq_ok.1 checked
  obtain ⟨⟨facts, quality⟩, read, made⟩ := bind_eq_ok.1 rest
  obtain rfl := pure_eq_ok.1 made
  obtain ⟨expected, -, valid⟩ := bind_eq_ok.1 valid
  obtain ⟨fits, -⟩ := check_eq_ok.1 valid
  rw [require_eq_ok, Bool.and_eq_true, Bool.and_eq_true] at fits
  have together : row.projection.provider = evidence.provider := by
    have fits := fits.2
    simp only [fitsTogether, Bool.and_eq_true, beq_iff_eq] at fits
    tauto
  obtain ⟨⟨version, payload, accepted⟩, written⟩ := facts_of_checkFacts read
  exact ⟨⟨version, payload, together ▸ accepted⟩, written⟩

/-- The time of facts that have been validated is read again. -/
theorem factsPublishedAt_of_validate {operation : String} {version : Int} {payload : Object}
    {facts : TypedFacts} (accepted : validateFactualPayload library evidence.provider operation version
      payload = .ok facts.values) : ∃ published, factsPublishedAt facts = .ok published := by
  obtain ⟨instant, inside, dated⟩ := published_of_validate accepted
  refine ⟨instant, ?_⟩
  rw [factsPublishedAt, dated]
  dsimp only
  rw [String.toList_ofList, replaceZ_isoFormat, fromIsoFormat_isoFormat inside]
  dsimp only
  rw [sub_zero, if_pos inside]

/-- **What is prepared**: the checked revisions of the item, from the oldest to the current one. -/
structure Prepared (library : StandardLibrary) (inputs : PacketInputs) (evidence : EvidenceItem)
    (draft : Draft) (revisions : List EvidenceRevision) : Prop where
  checked : ∃ raw revised, rawOf inputs evidence = .ok raw ∧
    (inputs.rows evidence.id).mapM (checkRow library evidence raw) = .ok revised ∧
    revisions = (revised.insertionSort Earlier).map Revised.revision
  ordered : revisions.Pairwise fun left right => left.observedAt < right.observedAt ∨
    left.observedAt = right.observedAt ∧ left.projectionId ≤ right.projectionId
  current : revisions.getLast? = some draft.current.revision
  item : draft.evidence = evidence ∧ draft.total = revisions.length

theorem prepared_of_eq_ok (made : prepared library inputs evidence = .ok (draft, revisions)) :
    Prepared library inputs evidence draft revisions := by
  obtain ⟨-, made⟩ := check_eq_ok.1 made
  obtain ⟨raw, held, made⟩ := bind_eq_ok.1 made
  obtain ⟨revised, checked, made⟩ := bind_eq_ok.1 made
  obtain ⟨-, made⟩ := check_eq_ok.1 made
  obtain ⟨current, last, made⟩ := bind_eq_ok.1 made
  obtain ⟨policy, -, made⟩ := bind_eq_ok.1 made
  obtain ⟨-, made⟩ := check_eq_ok.1 made
  obtain ⟨canonical, -, made⟩ := bind_eq_ok.1 made
  obtain ⟨-, made⟩ := check_eq_ok.1 made
  obtain ⟨content, -, made⟩ := bind_eq_ok.1 made
  obtain ⟨rfl, rfl⟩ := Prod.mk.inj (pure_eq_ok.1 made)
  rw [orRaise_eq_ok] at last
  exact
    { checked := ⟨raw, revised, held, checked, rfl⟩
      ordered := List.pairwise_map.2 (List.pairwise_insertionSort Earlier revised)
      current := by rw [List.getLast?_map, last]; rfl
      item := ⟨rfl, rfl⟩ }

theorem Prepared.revision (item : Prepared library inputs evidence draft revisions)
    {revision : EvidenceRevision} (member : revision ∈ revisions) :
    (∃ version payload, validateFactualPayload library evidence.provider revision.operationKey
        version payload = .ok revision.facts.values) ∧
      Writable library (.obj revision.facts.fields) := by
  obtain ⟨raw, revised, -, checked, rfl⟩ := item.checked
  obtain ⟨one, inside, rfl⟩ := List.mem_map.1 member
  obtain ⟨row, -, made⟩ := exists_of_mapM_ok checked ((List.mem_insertionSort Earlier).1 inside)
  exact facts_of_checkRow made

/-- A packet of an item that has been prepared can be assembled. -/
theorem Prepared.ready (item : Prepared library inputs evidence draft revisions) :
    Ready library draft := by
  obtain ⟨⟨version, payload, accepted⟩, written⟩ :=
    item.revision (List.mem_of_getLast? item.current)
  refine ⟨?_, factsPublishedAt_of_validate accepted, written⟩
  rw [item.item.1, identityMode]
  split
  · exact ⟨_, rfl⟩
  · next old =>
      have known : legacyOpaqueIdentityOperations.contains
          (evidence.provider, draft.current.revision.operationKey) = true := by simpa using old
      obtain ⟨identity, legacy⟩ := legacy_of_validate accepted known
      exact ⟨_, bind_eq_ok.2 ⟨identity, legacy, rfl⟩⟩

/-- **What a packet has**: the longest end of the revisions that fits. -/
structure LongestFit (library : StandardLibrary) (limits : Limits) (draft : Draft)
    (revisions : List EvidenceRevision) (packet : RichEvidencePacket) : Prop where
  suffix : packet.revisions <:+ revisions
  bounded : packet.revisions.length ≤ limits.maxRevisions
  current : packet.current = draft.current.revision ∧
    packet.revisions.getLast? = some draft.current.revision
  fits : ∃ size, encodedSize library packet = .ok size ∧ size ≤ limits.maxSerializedBytes
  longest : ∀ longer, longer <:+ revisions → packet.revisions.length < longer.length →
    longer.length ≤ limits.maxRevisions →
      Exceeds library limits.maxSerializedBytes draft longer packet.truncation.reason
  truncation : packet.truncation =
    ⟨packet.revisions.length < revisions.length, revisions.length, packet.revisions.length,
      finalReason limits revisions.length packet.revisions.length⟩
  assembled : assemble library draft packet.revisions packet.truncation.reason = .ok packet
  digest : ∃ text, canonicalJson library (.obj (material packet)) = .ok text ∧
    packet.packetDigest = library.sha256 text

/-- The packet of an item, or the error of its current revision. -/
theorem build_cases (limits : Limits) (hashes : ∀ text, Evidence.isHash (library.sha256 text) = true)
    (valid : prepared library inputs evidence = .ok (draft, revisions)) :
    build library limits inputs evidence = richError "rich_evidence_packet_budget_exceeded" ∧
        Exceeds library limits.maxSerializedBytes draft [draft.current.revision]
          (finalReason limits revisions.length 1) ∨
      ∃ packet, build library limits inputs evidence = .ok packet ∧
        LongestFit library limits draft revisions packet := by
  have item := prepared_of_eq_ok valid
  obtain ⟨least, -⟩ := limits.revisions_bound
  have some : revisions ≠ [] := fun empty => by simpa [empty] using item.current
  have last : revisions.getLast some = draft.current.revision :=
    Option.some.inj ((List.getLast?_eq_some_getLast some).symm.trans item.current)
  have positive : 0 < revisions.length := List.length_pos_iff.2 some
  -- the revisions that are tried first
  have length : (lastOf limits.maxRevisions revisions).length =
      min limits.maxRevisions revisions.length := by
    rw [lastOf, List.length_drop]
    omega
  have selected : lastOf limits.maxRevisions revisions <:+ revisions := List.drop_suffix ..
  have selected_ne : lastOf limits.maxRevisions revisions ≠ [] := by
    rw [← List.length_pos_iff, length]
    omega
  have selected_last : (lastOf limits.maxRevisions revisions).getLast selected_ne =
      draft.current.revision := by
    rw [← last]
    exact List.getLast_drop selected_ne
  have reason (left : List EvidenceRevision) : reasonOf
      (if (lastOf limits.maxRevisions revisions).length < revisions.length then "revision_budget"
        else "none") (lastOf limits.maxRevisions revisions) left =
      finalReason limits revisions.length left.length := by
    rw [reasonOf, finalReason, length]
    split
    · next same => rw [same]
    · rfl
  rw [build_eq_shrink, valid]
  change shrink library limits.maxSerializedBytes draft (lastOf limits.maxRevisions revisions)
    _ = _ ∧ _ ∨ ∃ packet, shrink library limits.maxSerializedBytes draft
      (lastOf limits.maxRevisions revisions) _ = .ok packet ∧ _
  have each : ∀ revision ∈ lastOf limits.maxRevisions revisions,
      Writable library (.obj revision.facts.fields) :=
    fun revision member => (item.revision (selected.subset member)).2
  rcases @shrink_cases library draft _ limits.maxSerializedBytes item.ready each selected_ne
    (if (lastOf limits.maxRevisions revisions).length < revisions.length then "revision_budget"
        else "none") with ⟨raised, large⟩ | ⟨left, packet, size, kept, suffix, left_ne, assembled,
      counted, fits, longest⟩
  · rw [reason, selected_last] at large
    exact .inl ⟨raised, large⟩
  · rw [reason] at assembled
    obtain ⟨mode, published, text, moded, dated, written, made⟩ := assemble_eq_ok.1 assembled
    have kept_last : left.getLast? = Option.some draft.current.revision := by
      rw [List.getLast?_eq_some_getLast left_ne, ← selected_last]
      exact congrArg Option.some (suffix.getLast left_ne)
    have short := suffix.length_le
    rw [length] at short
    have told : packet.revisions = left := by rw [made, packetOf]
    have truncated : packet.truncation = ⟨left.length < revisions.length, revisions.length,
        left.length, finalReason limits revisions.length left.length⟩ := by
      rw [made, packetOf, item.item.2]
    refine .inr ⟨packet, kept, told ▸ suffix.trans selected, told ▸ by omega,
      ⟨by rw [made, packetOf], told ▸ kept_last⟩, ⟨size, counted, fits⟩, fun longer inside long few => ?_,
      by rw [truncated, told], ?_, ⟨text, canonicalJson_eq_ok.2 written, by rw [made, packetOf]⟩⟩
    · rw [told] at long
      -- a longer end is one of those that were tried, the first of them under a shorter reason
      have tried : longer <:+ lastOf limits.maxRevisions revisions :=
        List.suffix_of_suffix_length_le inside selected (by
          rw [length]
          have := inside.length_le
          omega)
      obtain ⟨bytes, sized, more⟩ := longest longer tried long
      have changed : finalReason limits revisions.length left.length = "serialized_size_budget" := by
        rw [finalReason, if_neg]
        have := tried.length_le
        omega
      rw [truncated]
      change Exceeds library limits.maxSerializedBytes draft longer
        (finalReason limits revisions.length left.length)
      rw [changed]
      obtain ⟨others, again⟩ := exists_sized item.ready (fun revision member =>
        each revision (tried.subset member)) "serialized_size_budget"
      refine ⟨others, again, more.trans_le (sized_mono hashes ?_ sized again)⟩
      rw [reason, finalReason]
      split
      · split <;> decide
      · exact le_rfl
    · rw [truncated, told]
      exact assembled

/-- **Truncation is maximal and honest.** The packet of an item with valid revisions has the longest
end of them that fits, or the current one alone is too large. -/
theorem truncation_maximal (library : StandardLibrary) (limits : Limits) (inputs : PacketInputs)
    (evidence : EvidenceItem) (draft : Draft) (revisions : List EvidenceRevision)
    (hashes : ∀ text, Evidence.isHash (library.sha256 text) = true)
    (valid : prepared library inputs evidence = .ok (draft, revisions)) :
    Prepared library inputs evidence draft revisions ∧
      (build library limits inputs evidence = richError "rich_evidence_packet_budget_exceeded" ∧
          Exceeds library limits.maxSerializedBytes draft [draft.current.revision]
            (finalReason limits revisions.length 1) ∨
        ∃ packet, build library limits inputs evidence = .ok packet ∧
          LongestFit library limits draft revisions packet) :=
  ⟨prepared_of_eq_ok valid, build_cases limits hashes valid⟩

end Prepared

/-! ### News with two revisions -/

/-- The item that has this title: the first one has two. -/
def itemOf (title : String) : String :=
  if title = "Guidance" then "company-news:2" else "company-news:1"

/-- The facts of an item of news under a title. -/
def reportedFacts (title : String) : Object :=
  [("canonical_url", .null), ("category", .str "company"), ("provider_item_id", .str (itemOf title)),
    ("published_at", .str "2024-01-02T03:04:05+00:00"), ("source_identity", .str "wire"),
    ("summary_coverage", .str "blocked"), ("symbol", .str "MSFT"), ("title", .str title)]

/-- The text of the facts. -/
def reportedText (title : String) : String :=
  "\x7b" ++ ",".intercalate ["\"canonical_url\":null", "\"category\":\"company\"",
    quoted "provider_item_id" ++ ":" ++ quoted (itemOf title), "\"published_at\":\"2024-01-02T03:04:05+00:00\"",
    "\"source_identity\":\"wire\"", "\"summary_coverage\":\"blocked\"", "\"symbol\":\"MSFT\"",
    quoted "title" ++ ":" ++ quoted title] ++ "\x7d"

/-- The hash of the facts. -/
def reportedHash (title : String) : String :=
  if title = "Earnings" then "29570f5e39c6c9a327148f4f6063757b4279f95f13bb6f0f5322ac7adc40370f"
  else if title = "Results" then "9a7e3a8c376be351c5ec2dd720252383054acb52e933006acf8cf2420ff1678a"
  else "b0a687836fabcc00a7f3b2ab9a9c4806eb8fa9597776005f31d236aaacd61a30"

/-- The digests of the facts, of the packets of the first item with two revisions and with one, and of
the packet of the second item. -/
def reportDigests : StandardLibrary :=
  { silentLibrary with
    sha256 := fun text =>
      if text = reportedText "Earnings" then reportedHash "Earnings"
      else if text = reportedText "Results" then reportedHash "Results"
      else if text = reportedText "Guidance" then reportedHash "Guidance"
      else if 3000 < text.length then
        "d4fd16e0de46142a40a021c44e9410b51c27ee3dbe7c3082dd013ae83146f350"
      else if 2550 < text.length then
        "e91c0df53d4aede90a1f57144a8928e3c443335ccf83e5b72f72866baff37b13"
      else "6961f21180951ddc6fde4746ea3c6d6dee088d4ae0738432ec0778d550cf2e81" }

theorem isHash_reportDigests (text : String) : Evidence.isHash (reportDigests.sha256 text) = true := by
  have known : ∀ digest ∈ [reportedHash "Earnings", reportedHash "Results", reportedHash "Guidance",
      "d4fd16e0de46142a40a021c44e9410b51c27ee3dbe7c3082dd013ae83146f350",
      "e91c0df53d4aede90a1f57144a8928e3c443335ccf83e5b72f72866baff37b13",
      "6961f21180951ddc6fde4746ea3c6d6dee088d4ae0738432ec0778d550cf2e81"],
      Evidence.isHash digest = true := by decide
  refine known _ ?_
  simp only [reportDigests]
  split
  · simp
  · split
    · simp
    · split
      · simp
      · split
        · simp
        · split <;> simp

/-- The projection of the news under a title. -/
def reportedProjection (id observationId : Uuid) (title : String) : Projection :=
  { newsProjection id observationId 1 (reportedHash title) with
    rawItemId := if title = "Guidance" then 41 else 40
    factualPayload := reportedFacts title }

def reportedEvidence : EvidenceItem :=
  { newsEvidence with
    providerItemHash := reportedHash "Earnings"
    contentPresence := expectedContent (reportedFacts "Earnings") }

/-- The second item. -/
def guidanceEvidence : EvidenceItem :=
  { newsEvidence with
    id := 51
    rawItemId := 41
    providerItemId := some "company-news:2"
    providerItemHash := reportedHash "Guidance"
    contentPresence := expectedContent (reportedFacts "Guidance") }

def guidanceLink : EvidenceProjectionLink :=
  { newsLink 82 72 true with evidenceItemId := some 51 }

def guidanceObservation : Observation :=
  { newsObservation 62 2 (reportedHash "Guidance") with rawItemId := 41 }

/-- The raw items behind the news. -/
def reportedRaw : RawItem := ⟨40, 10, none, 30, ⟨none, 0, none, none, none, none, "metadata_only"⟩⟩

def guidanceRaw : RawItem := ⟨41, 10, none, 30, ⟨none, 0, none, none, none, none, "metadata_only"⟩⟩

/-- The tables with two items of news, of which the first has had its title revised. -/
def reportedNews : Store :=
  { newsStore [newsLink 80 70 true, newsLink 81 71 false, guidanceLink] with
    rawItems := [reportedRaw, guidanceRaw]
    observations := [newsObservation 60 2 (reportedHash "Earnings"),
      { newsObservation 61 2 (reportedHash "Results") with observedAt := 1 }, guidanceObservation]
    projections := [reportedProjection 70 60 "Earnings", reportedProjection 71 61 "Results",
      reportedProjection 72 62 "Guidance"]
    evidenceItems := [reportedEvidence, guidanceEvidence] }

def reportedRevision (linkId projectionId observationId : Uuid) (title : String) (observedAt : Int) :
    EvidenceRevision where
  linkId := linkId
  projectionId := projectionId
  observationId := observationId
  projectionHash := reportedHash title
  projectionSchemaVersion := 1
  operationKey := "company_news"
  providerContractVersion := 2
  collectionTargetId := none
  configRevision := none
  linkedAt := some 0
  observedAt := observedAt
  quality := .partialFacts
  facts := ⟨.finnhubCompanyNews, reportedFacts title⟩

/-- The facts are given in the order of their names. -/
theorem canonicalText_report (title : String) :
    canonicalText reportDigests (.obj (reportedFacts title)) = some (reportedText title) := by
  have sorted : [("canonical_url", "null"), ("category", quoted "company"),
      ("provider_item_id", quoted (itemOf title)),
      ("published_at", quoted "2024-01-02T03:04:05+00:00"), ("source_identity", quoted "wire"),
      ("summary_coverage", quoted "blocked"), ("symbol", quoted "MSFT"),
      ("title", quoted title)].Pairwise fun left right => decide (left.1 ≤ right.1) = true := by
    simp
  rw [canonicalText, reportedFacts]
  simp only [canonicalMembers, canonicalText]
  change some _ = _
  dsimp only
  rw [List.mergeSort_of_pairwise sorted]
  rfl

theorem checkFacts_report {title : String} (told : title ∈ ["Earnings", "Results", "Guidance"])
    (id other : Uuid) :
    checkFacts reportDigests (reportedProjection id other title) =
      .ok (⟨.finnhubCompanyNews, reportedFacts title⟩, .partialFacts) := by
  have each : ∀ title ∈ ["Earnings", "Results", "Guidance"],
      normalizeAndClassify reportDigests "finnhub" "company_news" 1 (reportedFacts title) =
          .ok (reportedFacts title, .partialFacts) ∧
        reportDigests.sha256 (reportedText title) = reportedHash title ∧
        (Json.obj (reportedFacts title)).eq (.obj (reportedFacts title)) = true := by
    decide +kernel
  obtain ⟨normal, digest, same⟩ := each title told
  have hash : canonicalProjectionHash reportDigests (reportedFacts title) =
      .ok (reportedHash title) := by
    rw [canonicalProjectionHash, canonicalText_report]
    exact congrArg Except.ok digest
  rw [checkFacts, show normalizeAndClassify reportDigests (reportedProjection id other title).provider
    (reportedProjection id other title).operationKey
    (reportedProjection id other title).projectionSchemaVersion
    (reportedProjection id other title).factualPayload = _ from normal]
  exact check_eq_ok.2 ⟨require_eq_ok.2 same, bind_eq_ok.2 ⟨_, hash, check_eq_ok.2
    ⟨require_eq_ok.2 (by rw [Bool.and_eq_true, beq_iff_eq]; exact ⟨rfl, rfl⟩), rfl⟩⟩⟩

/-- The run that has found the news. -/
def reportedRun : Run :=
  ⟨30, 10, none, none, .normal, none, 0, some 0, .succeeded, 1, 1, 1, none, none, 1, 0, 0, none, none, 0⟩

/-- The facts without a value, and those that are not told. -/
theorem availability_report {title : String} (told : title ∈ ["Earnings", "Results", "Guidance"]) :
    availability ⟨.finnhubCompanyNews, reportedFacts title⟩ = (["canonical_url"], ["summary"]) := by
  have each : ∀ title ∈ ["Earnings", "Results", "Guidance"],
      (((⟨.finnhubCompanyNews, reportedFacts title⟩ : TypedFacts).fields.filter fun entry =>
          isNull entry.2).map Prod.fst = ["canonical_url"]) ∧
        (((⟨.finnhubCompanyNews, reportedFacts title⟩ : TypedFacts).fields.filter fun entry =>
          entry.2.eq (.str "blocked")).map fun entry => withoutCoverage entry.1) = ["summary"] := by
    decide
  obtain ⟨missing, blocked⟩ := each title told
  rw [availability, missing, blocked, sortedNames, sortedNames, List.mergeSort_singleton,
    List.mergeSort_singleton]

/-- What the packet of the news is made of. -/
def reportedDraft : Draft :=
  ⟨reportedEvidence, reportedRaw, ⟨reportedRevision 81 71 61 "Results" 1, reportedRun, none⟩,
    ⟨none, none, false, "unavailable", false⟩, ["canonical_url"], ["summary"], 2⟩

def reportedRevisions : List EvidenceRevision :=
  [reportedRevision 80 70 60 "Earnings" 0, reportedRevision 81 71 61 "Results" 1]

theorem prepared_report : prepared reportDigests (tables reportedNews) reportedEvidence =
    .ok (reportedDraft, reportedRevisions) := by
  have first : checkRow reportDigests reportedEvidence reportedRaw
      ⟨newsLink 80 70 true, reportedProjection 70 60 "Earnings",
        newsObservation 60 2 (reportedHash "Earnings"), reportedRun, none⟩ =
      .ok ⟨reportedRevision 80 70 60 "Earnings" 0, reportedRun, none⟩ :=
    check_eq_ok.2 ⟨rfl, bind_eq_ok.2 ⟨_, checkFacts_report (by decide) 70 60, rfl⟩⟩
  have second : checkRow reportDigests reportedEvidence reportedRaw
      ⟨newsLink 81 71 false, reportedProjection 71 61 "Results",
        { newsObservation 61 2 (reportedHash "Results") with observedAt := 1 }, reportedRun, none⟩ =
      .ok ⟨reportedRevision 81 71 61 "Results" 1, reportedRun, none⟩ :=
    check_eq_ok.2 ⟨rfl, bind_eq_ok.2 ⟨_, checkFacts_report (by decide) 71 61, rfl⟩⟩
  have absent : availability (reportedRevision 81 71 61 "Results" 1).facts =
      (["canonical_url"], ["summary"]) := availability_report (by decide)
  have checked : ((tables reportedNews).rows reportedEvidence.id).mapM
      (checkRow reportDigests reportedEvidence reportedRaw) =
      .ok [⟨reportedRevision 80 70 60 "Earnings" 0, reportedRun, none⟩,
        ⟨reportedRevision 81 71 61 "Results" 1, reportedRun, none⟩] :=
    mapM_cons_ok.2 ⟨_, _, first, mapM_cons_ok.2 ⟨_, _, second, rfl, rfl⟩, rfl⟩
  refine check_eq_ok.2 ⟨rfl, bind_eq_ok.2 ⟨reportedRaw, rfl, bind_eq_ok.2 ⟨_, checked,
    check_eq_ok.2 ⟨rfl, bind_eq_ok.2
      ⟨⟨reportedRevision 81 71 61 "Results" 1, reportedRun, none⟩, rfl, bind_eq_ok.2 ⟨_, rfl, check_eq_ok.2
      ⟨rfl, bind_eq_ok.2 ⟨_, rfl, check_eq_ok.2 ⟨rfl, bind_eq_ok.2
        ⟨⟨none, none, false, "unavailable", false⟩, rfl, ?_⟩⟩⟩⟩⟩⟩⟩⟩⟩⟩
  rw [absent]
  rfl

/-- An item whose current revision fits the budget has a packet. -/
theorem report_built {store : Store} {evidence : EvidenceItem} {draft : Draft}
    {revisions : List EvidenceRevision}
    (valid : prepared reportDigests (tables store) evidence = .ok (draft, revisions))
    (moded : identityMode reportDigests draft.evidence draft.current.revision = .ok "canonical")
    (dated : factsPublishedAt draft.current.revision.facts = .ok 63839761445000000)
    (fits : textSize reportDigests (.obj (material (packetOf draft "canonical" 63839761445000000
      [draft.current.revision] (finalReason reportedLimits revisions.length 1) ""))) + 83 ≤ 3000) :
    ∃ packet, build reportDigests reportedLimits (tables store) evidence = .ok packet := by
  rcases build_cases reportedLimits isHash_reportDigests valid with
    ⟨-, size, ⟨packet, made, counted⟩, large⟩ | ⟨packet, built, -⟩
  · obtain ⟨mode, published, text, moded', dated', -, rfl⟩ := assemble_eq_ok.1 made
    obtain ⟨full, encoded, rfl⟩ := encodedSize_eq_ok.1 counted
    obtain rfl : "canonical" = mode := Except.ok.inj (moded.symm.trans moded')
    obtain rfl : 63839761445000000 = published := Except.ok.inj (dated.symm.trans dated')
    rw [utf8ByteSize_of_plainText _ encoded, textSize_packetOf (isHash_reportDigests _)] at large
    exact absurd fits (not_le.2 large)
  · exact ⟨packet, built⟩

theorem reportedNews_built : ∃ packet, build reportDigests reportedLimits (tables reportedNews)
    reportedEvidence = .ok packet :=
  report_built prepared_report rfl (by decide) (by decide)

/-- The packet of the news has as much as fits. -/
theorem truncation_maximal_report :
    ∃ packet, build reportDigests reportedLimits (tables reportedNews) reportedEvidence = .ok packet ∧
      LongestFit reportDigests reportedLimits reportedDraft reportedRevisions packet := by
  obtain ⟨packet, built⟩ := reportedNews_built
  obtain ⟨-, ⟨raised, -⟩ | found⟩ := truncation_maximal reportDigests reportedLimits
    (tables reportedNews) reportedEvidence reportedDraft reportedRevisions isHash_reportDigests
    prepared_report
  · rw [raised] at built
    exact absurd built nofun
  · exact found

end NewsCollect.RichEvidence
