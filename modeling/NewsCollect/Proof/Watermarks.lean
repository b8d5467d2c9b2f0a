/-
**The watermark of a bounded target.**

A bounded fetch takes the greatest pair of texts among its cursor and its facts, and the control plane
compares instants. The times of facts are texts that `isoformat` has written in UTC, whatever the
provider has sent, and such texts are ordered as their instants are.

* `position_of_valid`: the time and the identity of a fact.
* `latest_spec`: the pair that is taken.
* `Emitted`: the cursors that fetches of one adapter hand on.
* `watermark_is_successor`: the next cursor is the greatest position, and is never refused.
-/

import NewsCollect.Providers.BreadthResult
import NewsCollect.Proof.CursorOrders
import NewsCollect.Proof.Progress

namespace NewsCollect.Providers

open Calendar Collection Contract SafeProjection Text
open Evidence (IsCanonical instantOf moment moment_lt_iff moment_le_iff inOrder_of_canonical
  publishedTime_of_canonical keyLe_iff)

/-! ### The time and the identity of a fact -/

section Facts

variable {library : StandardLibrary} {payload fact value form : Object}

theorem canonical_of_timestamp {value form : Json} (done : timestamp value = .ok form) :
    ∃ published, form = .str published ∧ IsCanonical published := by
  obtain ⟨text, accepted, rfl⟩ := map_eq_ok.1 done
  obtain ⟨raw, here, offset, -, -, inside, rfl⟩ := timestampOf_eq_ok.1 accepted
  exact ⟨_, rfl, here - offset, inside, String.toList_ofList⟩

/-- A text that is accepted is not empty. -/
theorem ne_empty_of_textOf {maximum : Nat} {value : Json} {normalized : String}
    (accepted : textOf maximum value = .ok normalized) : normalized ≠ "" := by
  obtain ⟨raw, -, rfl, some, -⟩ := textOf_eq_ok.1 accepted
  exact fun empty => some (String.ofList_eq_empty_iff.1 empty)

theorem named_of_opaqueId {value form : Json} (done : opaqueId value = .ok form) :
    ∃ identity, form = .str identity ∧ identity ≠ "" := by
  obtain ⟨normalized, accepted, rest⟩ := bind_eq_ok.1 done
  split at rest
  · exact absurd rest nofun
  · obtain rfl := pure_eq_ok.1 rest
    exact ⟨normalized, rfl, ne_empty_of_textOf accepted⟩

theorem named_of_marketauxIdentity {value form : Json} (done : marketauxIdentity value = .ok form) :
    ∃ identity, form = .str identity ∧ identity ≠ "" := by
  rw [marketauxIdentity] at done
  split at done
  · next identity found =>
    obtain rfl := Except.ok.inj done
    refine ⟨identity, rfl, ?_⟩
    unfold marketauxIdentity? at found
    split at found
    · split at found
      · next shape =>
        obtain rfl := Option.some.inj found
        exact fun empty => (headed_eq_true shape).1 (String.ofList_eq_empty_iff.1 empty)
      · cases found
    · cases found
  · cases done

/-- A position: a time that `isoformat` has written, and an identity. -/
def IsPosition (position : String × String) : Prop :=
  IsCanonical position.1 ∧ position.2 ≠ ""

/-- What has this position. -/
def HasPosition (fact : Object) (position : String × String) : Prop :=
  fact.get "published_at" = .str position.1 ∧ fact.get "provider_item_id" = .str position.2 ∧
    IsPosition position

theorem position_of_contract {keys : List String} {steps : List (Step PyError)}
    (ordered : Ordered steps) (accepted : contract keys steps payload = .ok fact)
    (dated : .field "published_at" timestamp ∈ steps)
    (named : ∃ identity, fact.get "provider_item_id" = .str identity ∧ identity ≠ "") :
    ∃ position, HasPosition fact position := by
  obtain ⟨published, written, canonical⟩ :=
    canonical_of_timestamp (normal_of_run ordered (contract_eq_ok.1 accepted).2 dated)
  obtain ⟨identity, same, some⟩ := named
  exact ⟨(published, identity), written, same, canonical, some⟩

/-- **A validated fact has a position**, whatever its contract. -/
theorem position_of_valid {provider operation : String} {version : Int}
    (accepted : validateFactualPayload library provider operation version payload = .ok fact) :
    ∃ position, HasPosition fact position := by
  obtain ⟨-, -, cases⟩ := validate_cases accepted
  rcases cases with ⟨-, -, accepted⟩ | ⟨-, -, accepted⟩ | ⟨-, -, accepted⟩ | ⟨-, -, accepted⟩ |
    ⟨-, -, accepted⟩ | ⟨-, -, accepted⟩
  · refine position_of_contract (ordered_marketaux library) accepted (by simp [marketauxSteps]) ?_
    exact named_of_marketauxIdentity (normal_of_run (ordered_marketaux library)
      (contract_eq_ok.1 accepted).2 (by simp [marketauxSteps]))
  · refine position_of_contract ordered_quote accepted (by simp [quoteSteps]) ?_
    have named := holds_of_run ordered_quote (contract_eq_ok.1 accepted).2
      (show .check ["symbol", "provider_timestamp", "provider_item_id"] quoteIdentity ∈ quoteSteps by
        simp [quoteSteps])
    simp only [List.map_cons, List.map_nil] at named
    unfold quoteIdentity at named
    split at named
    · next symbol seconds identity same =>
      obtain ⟨-, -, rfl⟩ : _ ∧ _ ∧ fact.get "provider_item_id" = identity := by simpa using same
      rw [exactly, require_eq_ok, Json.eq_str] at named
      exact ⟨_, named, by simp⟩
    · cases named
  · refine position_of_contract (ordered_companyNews library) accepted (by simp [companyNewsSteps]) ?_
    exact named_of_opaqueId (normal_of_run (ordered_companyNews library)
      (contract_eq_ok.1 accepted).2 (by simp [companyNewsSteps]))
  · refine position_of_contract ordered_eia accepted (by simp [eiaSteps]) ?_
    exact named_of_opaqueId (normal_of_run ordered_eia (contract_eq_ok.1 accepted).2
      (by simp [eiaSteps]))
  · refine position_of_contract (ordered_rto library) accepted (by simp [rtoSteps]) ?_
    have named := holds_of_run (ordered_rto library) (contract_eq_ok.1 accepted).2
      (show .check ["period", "region", "metric", "series_identity", "provider_item_id"]
          (rtoSeries library) ∈ rtoSteps library by
        simp [rtoSteps])
    simp only [List.map_cons, List.map_nil] at named
    unfold rtoSeries at named
    split at named
    · next period region metric series identity same =>
      obtain ⟨-, -, -, -, rfl⟩ : _ ∧ _ ∧ _ ∧ _ ∧ fact.get "provider_item_id" = identity := by
        simpa using same
      obtain ⟨expected, -, named⟩ := bind_eq_ok.1 named
      obtain ⟨-, named⟩ := check_eq_ok.1 named
      rw [exactly, require_eq_ok, Json.eq_str] at named
      exact ⟨_, named, by simp [rtoIdentity]⟩
    · cases named
  · obtain ⟨inner, contracted, -, file⟩ := sec_eq_ok accepted
    have inside : ∃ position, HasPosition inner position := by
      refine position_of_contract ordered_sec contracted (by simp [secSteps]) ?_
      have named := holds_of_run ordered_sec (contract_eq_ok.1 contracted).2
        (show .check ["provider_item_id", "accession_number"] secIdentity ∈ secSteps by
          simp [secSteps])
      obtain ⟨accession, read, same⟩ := map_eq_ok.1 (normal_of_run ordered_sec
        (contract_eq_ok.1 contracted).2
        (show .field "accession_number" (text 20) ∈ secSteps by simp [secSteps]))
      simp only [List.map_cons, List.map_nil, ← same, secIdentity] at named
      rw [exactly, require_eq_ok, Json.eq_str] at named
      exact ⟨accession, named, ne_empty_of_textOf read⟩
    rcases file with ⟨-, rfl⟩ | ⟨reference, -, -, -, rfl⟩
    · exact inside
    · obtain ⟨position, dated, named, holds⟩ := inside
      refine ⟨position, ?_, ?_, holds⟩
      · rw [Object.get_set_ne (by decide), dated]
      · rw [Object.get_set_ne (by decide), named]

end Facts

/-! ### The facts of a page -/

section Pages

variable {library : StandardLibrary} {digest : Object → String} {loads : String → Result Json}
  {adapter : BreadthAdapter}

/-- Every fact of a page has a position. -/
theorem positions_of_factsOf {page : Page} {facts : Rows}
    (read : BreadthAdapter.factsOf library adapter page = .ok facts) :
    ∀ fact ∈ facts.payloads, ∃ position, HasPosition fact position := by
  obtain ⟨checked, ran, read⟩ := bind_eq_ok.1 read
  obtain ⟨kept, distinct, read⟩ := bind_eq_ok.1 read
  obtain rfl := pure_eq_ok.1 read
  have known : ∀ fact ∈ checked.payloads, ∃ position, HasPosition fact position := by
    refine @foldlM_preserves _ _ _ _ (fun rows : Rows =>
      ∀ fact ∈ rows.payloads, ∃ position, HasPosition fact position) _ ?_ _ _ ran
      (List.forall_mem_nil _)
    intro rows payload _ next stepped before
    unfold BreadthAdapter.checkPayload at stepped
    split at stepped
    · next normal accepted =>
      obtain rfl := pure_eq_ok.1 stepped
      exact List.forall_mem_append.2
        ⟨before, List.forall_mem_singleton.2 (position_of_valid accepted)⟩
    · split at stepped
      · split at stepped
        · obtain ⟨hash, -, stepped⟩ := bind_eq_ok.1 stepped
          obtain rfl := pure_eq_ok.1 stepped
          exact before
        · exact absurd stepped nofun
      · exact absurd stepped nofun
  intro fact member
  rcases mem_of_deduplicate distinct member with inside | none
  · exact known fact inside
  · exact absurd none List.not_mem_nil

/-- What is noted of a fact with this position. -/
def watermarkOf (position : String × String) : Object :=
  [("provider_item_id", .str position.2), ("published_at", .str position.1)]

theorem metadataOf_eq {fact : Object} {position : String × String}
    (has : HasPosition fact position) : BreadthAdapter.metadataOf fact = watermarkOf position := by
  rw [BreadthAdapter.metadataOf, has.1, has.2.1]
  rfl

/-- The positions of facts. -/
theorem exists_positions {facts : List Object}
    (known : ∀ fact ∈ facts, ∃ position, HasPosition fact position) :
    ∃ positions : List (String × String), (∀ position ∈ positions, IsPosition position) ∧
      facts.map BreadthAdapter.metadataOf = positions.map watermarkOf := by
  induction facts with
  | nil => exact ⟨[], List.forall_mem_nil _, rfl⟩
  | cons fact facts ih =>
      obtain ⟨first, rest⟩ := List.forall_mem_cons.1 known
      obtain ⟨position, has⟩ := first
      obtain ⟨positions, holds, same⟩ := ih rest
      refine ⟨position :: positions, List.forall_mem_cons.2 ⟨has.2.2, holds⟩, ?_⟩
      rw [List.map_cons, List.map_cons, metadataOf_eq has, same]

/-! ### The greatest pair -/

theorem positionOf_watermarkOf (position : String × String) :
    BreadthAdapter.positionOf (.obj (watermarkOf position)) = .ok position := rfl

/-- `max` over the notes takes the greatest pair of texts. -/
theorem latest_spec (positions : List (String × String)) :
    BreadthAdapter.latest (positions.map fun position => .obj (watermarkOf position)) =
      .ok (if positions = [] then none else some (.obj (watermarkOf (latestPosition positions)))) := by
  have scanned : ∀ (rest : List (String × String)) (held : String × String),
      ((rest.map fun position => Json.obj (watermarkOf position)).foldlM
        (fun (held : (String × String) × Json) value => do
          let position ← BreadthAdapter.positionOf value
          pure (if keyLe position held.1 then held else (position, value)))
        (held, Json.obj (watermarkOf held)) : Result ((String × String) × Json)) =
      .ok (rest.foldl (fun held position => if keyLe position held then held else position) held,
        .obj (watermarkOf (rest.foldl (fun held position =>
          if keyLe position held then held else position) held))) := by
    intro rest
    induction rest with
    | nil => exact fun held => rfl
    | cons next rest ih =>
        intro held
        rw [List.map_cons, List.foldlM_cons, positionOf_watermarkOf, List.foldl_cons]
        by_cases before : keyLe next held = true
        · rw [if_pos before, ← ih held]
          show (pure (if keyLe next held = true then _ else _) >>= _) = _
          rw [if_pos before]
          rfl
        · rw [if_neg before, ← ih next]
          show (pure (if keyLe next held = true then _ else _) >>= _) = _
          rw [if_neg before]
          rfl
  match positions with
  | [] => rfl
  | [position] => rfl
  | first :: second :: rest =>
      rw [if_neg (List.cons_ne_nil _ _)]
      exact bind_eq_ok.2 ⟨first, rfl, bind_eq_ok.2 ⟨_, scanned (second :: rest) first, rfl⟩⟩

/-- The text of a cursor. -/
def watermarkText (library : StandardLibrary) (position : String × String) : String :=
  sortedText library (.obj (watermarkOf position))

/-- The text, key by key. -/
theorem watermarkText_eq (position : String × String) : watermarkText library position =
    "\x7b\"provider_item_id\": " ++ quoted position.2 ++ ", \"published_at\": " ++
      quoted position.1 ++ "\x7d" := by
  have spelled : sortedMembers library (watermarkOf position) =
      [("provider_item_id", quoted position.2), ("published_at", quoted position.1)] := rfl
  have members : (sortedMembers library (watermarkOf position)).mergeSort
      (fun left right => left.1 ≤ right.1) =
      [("provider_item_id", quoted position.2), ("published_at", quoted position.1)] := by
    rw [spelled, List.mergeSort_of_pairwise (by simp)]
  rw [watermarkText, sortedText, members]
  have key : quoted "provider_item_id" = "\"provider_item_id\"" := rfl
  have key' : quoted "published_at" = "\"published_at\"" := rfl
  have pair : ∀ first last : String, ", ".intercalate [first, last] = first ++ ", " ++ last :=
    fun _ _ => rfl
  have front : "\x7b\"provider_item_id\": " = "\x7b" ++ "\"provider_item_id\"" ++ ": " := rfl
  have middle : ", \"published_at\": " = ", " ++ "\"published_at\"" ++ ": " := rfl
  rw [List.map_cons, List.map_cons, List.map_nil, pair, key, key', front, middle]
  simp only [String.append_assoc]

theorem watermarkText_ne_empty (position : String × String) :
    watermarkText library position ≠ "" := by
  intro empty
  have letters := congrArg String.toList empty
  rw [watermarkText, sortedText] at letters
  simp at letters

/-- **The next cursor** is that of the greatest pair among the old one and the facts. -/
theorem nextCursor_spec {held : Option (String × String)} {facts : List Object}
    {positions : List (String × String)}
    (noted : facts.map BreadthAdapter.metadataOf = positions.map watermarkOf)
    (reads : ∀ position ∈ held, loads (watermarkText library position) =
      .ok (.obj (watermarkOf position))) :
    BreadthAdapter.nextCursor (held.map (watermarkText library)) facts loads (sortedText library) =
      .ok (if held.toList ++ positions = [] then none
        else some (watermarkText library (latestPosition (held.toList ++ positions)))) := by
  have values : (facts.map fun fact => Json.obj (BreadthAdapter.metadataOf fact)) =
      positions.map fun position => Json.obj (watermarkOf position) := by
    have lifted := congrArg (List.map Json.obj) noted
    rwa [List.map_map, List.map_map] at lifted
  cases held with
  | none =>
      rw [Option.map_none, BreadthAdapter.nextCursor, values, latest_spec, Option.toList_none,
        List.nil_append]
      by_cases empty : positions = []
      · rw [if_pos empty, if_pos empty]
        rfl
      · rw [if_neg empty, if_neg empty]
        rfl
  | some position =>
      have read := reads position rfl
      have scanned := latest_spec (position :: positions)
      rw [if_neg (List.cons_ne_nil _ _), List.map_cons] at scanned
      rw [Option.map_some, BreadthAdapter.nextCursor, if_neg (watermarkText_ne_empty position),
        values, read]
      refine bind_eq_ok.2 ⟨_, rfl, bind_eq_ok.2 ⟨_, scanned, ?_⟩⟩
      rfl

/-! ### The results of a fetch -/

/-- A fetch reads a page, or has an error. -/
theorem fetch_cases {transport : Sent → Transported} {request : ProviderFetchRequest}
    {result : ProviderFetchResult}
    (fetched : adapter.fetch library digest loads transport request = .ok result) :
    (∃ error, result = adapter.failed error) ∨
      ∃ prepared response, adapter.readPage library digest loads request prepared response =
        .ok result := by
  unfold BreadthAdapter.fetch at fetched
  split at fetched
  · split at fetched
    · exact .inl ⟨_, (Except.ok.inj fetched).symm⟩
    · exact absurd fetched nofun
  · next prepared _ =>
    split at fetched
    · exact .inl ⟨_, (Except.ok.inj fetched).symm⟩
    · exact .inl ⟨_, (Except.ok.inj fetched).symm⟩
    · exact .inl ⟨_, (Except.ok.inj fetched).symm⟩
    · next response _ =>
      unfold BreadthAdapter.receive at fetched
      split at fetched
      · exact .inl ⟨_, (Except.ok.inj fetched).symm⟩
      · split at fetched
        · next read =>
          obtain rfl := Except.ok.inj fetched
          exact .inr ⟨prepared, response, read⟩
        · split at fetched
          · exact .inl ⟨_, (Except.ok.inj fetched).symm⟩
          · exact absurd fetched nofun

/-- What a page that is read hands on. -/
theorem readPage_eq_ok {request : ProviderFetchRequest} {prepared : Prepared} {response : Response}
    {result : ProviderFetchResult}
    (read : adapter.readPage library digest loads request prepared response = .ok result) :
    ∃ facts : List Object, (∀ fact ∈ facts, ∃ position, HasPosition fact position) ∧
      BreadthAdapter.nextCursor request.cursor facts loads (sortedText library) =
        .ok result.nextCursor ∧
      result.safeErrors = [] ∧
      result.sanitizedMetadata = facts.map BreadthAdapter.metadataOf := by
  obtain ⟨page, -, read⟩ := bind_eq_ok.1 read
  obtain ⟨facts, found, read⟩ := bind_eq_ok.1 read
  obtain ⟨next, moved, read⟩ := bind_eq_ok.1 read
  obtain ⟨continuation, -, made⟩ := bind_eq_ok.1 read
  unfold ProviderFetchResult.make at made
  split at made
  · split at made
    · split at made
      · obtain rfl := Except.ok.inj made
        exact ⟨facts.payloads, positions_of_factsOf found, moved, rfl, rfl⟩
      · cases made
    · cases made
  · cases made

end Pages

/-! ### The cursors of an adapter -/

section Cursors

variable (library : StandardLibrary) (digest : Object → String) (reader : Reader)
  (adapter : BreadthAdapter) (written : Set (String × String))

/-- The cursors of these positions are read as they were written. -/
def ReadsBack : Prop :=
  ∀ position ∈ written, reader.loads (watermarkText library position) =
    .ok (.obj (watermarkOf position))

/-- **The cursors of an adapter**: none, or what one of its fetches has handed on under such a
cursor. -/
inductive Emitted : Option String → Prop where
  | start : Emitted none
  | fetch {transport : Sent → Transported} {request : ProviderFetchRequest}
      {result : ProviderFetchResult} (held : Emitted request.cursor)
      (fetched : adapter.fetch library digest reader.loads transport request = .ok result)
      (inside : ∀ position ∈ Evidence.positions result, position ∈ written) :
      Emitted result.nextCursor

/-- **A legal successor of a cursor**, after rows of these positions. -/
structure LegalSuccessor (cursor next : Option String) (rows : List CursorPosition) : Prop where
  decodes : decodeCursor reader next = .ok (position? reader next)
  empty : next = none → cursor = none ∧ rows = []
  greatest : ∀ latest ∈ position? reader next,
    latest ∈ (position? reader cursor).toList ++ rows ∧
      ∀ position ∈ (position? reader cursor).toList ++ rows, position ≤ latest
  accepted : ∃ action, decideCursor reader .compound cursor next =
    .ok (action, position? reader next)

variable {library digest reader adapter written}

/-- The position in a cursor that is read as it was written. -/
theorem decodeCursor_watermarkText {position : String × String} (holds : IsPosition position)
    (read : reader.loads (watermarkText library position) = .ok (.obj (watermarkOf position))) :
    decodeCursor reader (some (watermarkText library position)) = .ok (some (moment position)) := by
  obtain ⟨⟨instant, inside, spelled⟩, named⟩ := holds
  have dated := publishedTime_of_canonical inside spelled
  have parts : cursorParts reader (watermarkText library position) =
      .ok ((instant, some 0), position.2) := by
    rw [cursorParts, read]
    show (do
      let time ← publishedTime position.1
      pure (time, position.2)) = _
    rw [dated]
    rfl
  have decoded : Collection.decodePosition reader (watermarkText library position) =
      .ok (moment position) := by
    rw [Collection.decodePosition, parts]
    show (if position.2 = "" then _ else _) = _
    rw [if_neg named, moment, instantOf, dated]
  rw [decodeCursor, decoded]
  rfl

theorem positions_eq {result : ProviderFetchResult} {positions : List (String × String)}
    (noted : result.sanitizedMetadata = positions.map watermarkOf) :
    Evidence.positions result = positions := by
  rw [Evidence.positions, noted, List.map_map]
  exact List.map_id positions

/-- **What one fetch does to a cursor**: it fails, or it takes the greatest pair. -/
theorem fetch_spec {transport : Sent → Transported} {request : ProviderFetchRequest}
    {result : ProviderFetchResult} {held : Option (String × String)}
    (cursor : request.cursor = held.map (watermarkText library))
    (reads : ∀ position ∈ held, reader.loads (watermarkText library position) =
      .ok (.obj (watermarkOf position)))
    (fetched : adapter.fetch library digest reader.loads transport request = .ok result) :
    (∃ error, result = adapter.failed error) ∨
      result.safeErrors = [] ∧ (∀ position ∈ Evidence.positions result, IsPosition position) ∧
        result.nextCursor = (if held.toList ++ Evidence.positions result = [] then none
          else some (watermarkText library
            (latestPosition (held.toList ++ Evidence.positions result)))) := by
  rcases fetch_cases fetched with failed | ⟨prepared, response, read⟩
  · exact .inl failed
  · obtain ⟨facts, known, moved, clean, noted⟩ := readPage_eq_ok read
    obtain ⟨positions, holds, same⟩ := exists_positions known
    rw [positions_eq (noted.trans same)]
    rw [cursor, nextCursor_spec same reads] at moved
    exact .inr ⟨clean, holds, (Except.ok.inj moved).symm⟩

theorem latestPosition_mem {positions : List (String × String)} (some : positions ≠ []) :
    latestPosition positions ∈ positions := (Evidence.latestPosition_spec some).1

/-- An emitted cursor is the text of a position. -/
theorem Emitted.position {cursor : Option String} (reads : ReadsBack library reader written)
    (emitted : Emitted library digest reader adapter written cursor) :
    ∃ held : Option (String × String), cursor = held.map (watermarkText library) ∧
      ∀ position ∈ held, IsPosition position ∧ position ∈ written := by
  induction emitted with
  | start => exact ⟨none, rfl, nofun⟩
  | @fetch transport request result held fetched inside ih =>
      obtain ⟨before, cursor, known⟩ := ih
      rcases fetch_spec cursor (fun position member => reads position (known position member).2)
        fetched with ⟨error, rfl⟩ | ⟨-, holds, moved⟩
      · exact ⟨none, rfl, nofun⟩
      · rw [moved]
        by_cases empty : before.toList ++ Evidence.positions result = []
        · exact ⟨none, if_pos empty, nofun⟩
        · refine ⟨some _, if_neg empty, ?_⟩
          rintro position ⟨⟩
          rcases List.mem_append.1 (latestPosition_mem empty) with old | new
          · exact known _ (Option.mem_toList.1 old)
          · exact ⟨holds _ new, inside _ new⟩

/-- What a cursor of positions decodes to. -/
theorem decodeCursor_map {held : Option (String × String)}
    (reads : ReadsBack library reader written)
    (known : ∀ position ∈ held, IsPosition position ∧ position ∈ written) :
    decodeCursor reader (held.map (watermarkText library)) = .ok (held.map moment) := by
  cases held with
  | none => rfl
  | some position =>
      obtain ⟨holds, inside⟩ := known position rfl
      exact decodeCursor_watermarkText holds (reads position inside)

/-- The greatest pair of texts is the greatest position. -/
theorem moment_le_latest {positions : List (String × String)} {position : String × String}
    (holds : ∀ position ∈ positions, IsPosition position) (member : position ∈ positions) :
    moment position ≤ moment (latestPosition positions) := by
  have some : positions ≠ [] := List.ne_nil_of_mem member
  have order := @inOrder_of_canonical {text | ∃ position ∈ positions, position.1 = text} (by
    rintro text ⟨position, inside, rfl⟩
    exact (holds position inside).1)
  rw [moment_le_iff order ⟨position, member, rfl⟩ ⟨_, latestPosition_mem some, rfl⟩]
  exact (Evidence.latestPosition_spec some).2 position member

/-- A position that is not less than the old one is accepted. -/
theorem decidePosition_of_le {held : Option CursorPosition} {latest : CursorPosition}
    (most : ∀ position ∈ held, position ≤ latest) :
    ∃ action, decidePosition .compound held (some latest) = .ok (action, some latest) := by
  cases held with
  | none => exact ⟨.advance, rfl⟩
  | some previous =>
      rcases (most previous rfl).lt_or_eq with further | same
      · exact ⟨.advance, if_pos further⟩
      · exact ⟨.noNewItems, by rw [decidePosition, if_neg same.not_lt, if_pos ⟨same.symm, rfl⟩]⟩

/-- The greatest of an old position and of those of some rows is a legal successor. -/
theorem legalSuccessor_of_latest {held : Option (String × String)}
    {positions : List (String × String)} {next : Option String}
    (reads : ReadsBack library reader written)
    (known : ∀ position ∈ held, IsPosition position ∧ position ∈ written)
    (holds : ∀ position ∈ positions, IsPosition position ∧ position ∈ written)
    (moved : next = (if held.toList ++ positions = [] then none
      else some (watermarkText library (latestPosition (held.toList ++ positions))))) :
    LegalSuccessor reader (held.map (watermarkText library)) next (positions.map moment) := by
  have read := decodeCursor_map reads known
  have every : ∀ position ∈ held.toList ++ positions, IsPosition position ∧ position ∈ written :=
    List.forall_mem_append.2 ⟨fun position member => known position (Option.mem_toList.1 member),
      holds⟩
  have whole : (held.map moment).toList ++ positions.map moment =
      (held.toList ++ positions).map moment := by
    cases held <;> simp
  by_cases empty : held.toList ++ positions = []
  · obtain rfl : next = none := moved.trans (if_pos empty)
    obtain ⟨none, rfl⟩ := List.append_eq_nil_iff.1 empty
    obtain rfl := Option.toList_eq_nil_iff.1 none
    exact ⟨rfl, fun _ => ⟨rfl, rfl⟩, nofun, .unchanged, rfl⟩
  · obtain rfl := moved.trans (if_neg empty)
    have inside := every _ (latestPosition_mem empty)
    have readNew := decodeCursor_watermarkText inside.1 (reads _ inside.2)
    have most : ∀ position ∈ (held.toList ++ positions).map moment,
        position ≤ moment (latestPosition (held.toList ++ positions)) := by
      intro position member
      obtain ⟨pair, held, rfl⟩ := List.mem_map.1 member
      exact moment_le_latest (fun position member => (every position member).1) held
    refine ⟨?_, nofun, ?_, ?_⟩
    · rw [position?_of_decodeCursor readNew, readNew]
    · rw [position?_of_decodeCursor readNew, position?_of_decodeCursor read, whole]
      rintro latest ⟨⟩
      exact ⟨List.mem_map_of_mem (latestPosition_mem empty), most⟩
    · rw [position?_of_decodeCursor readNew]
      obtain ⟨action, decided⟩ := @decidePosition_of_le (held.map moment)
        (moment (latestPosition (held.toList ++ positions))) fun position member =>
          most position (whole ▸ List.mem_append_left _ (Option.mem_toList.2 member))
      exact ⟨action, decideCursor_eq_ok_iff.2 ⟨rfl, _, _, read, readNew, decided⟩⟩

/-- **The next cursor of a bounded fetch** is the greatest position of its cursor and its rows, and
the control plane never refuses it. A fetch that fails hands on no rows and no cursor. -/
theorem watermark_is_successor {transport : Sent → Transported} {request : ProviderFetchRequest}
    {result : ProviderFetchResult} (reads : ReadsBack library reader written)
    (emitted : Emitted library digest reader adapter written request.cursor)
    (fetched : adapter.fetch library digest reader.loads transport request = .ok result)
    (inside : ∀ position ∈ Evidence.positions result, position ∈ written) :
    result.safeErrors = [] ∧ (∀ position ∈ Evidence.positions result, IsPosition position) ∧
        LegalSuccessor reader request.cursor result.nextCursor
          ((Evidence.positions result).map moment) ∨
      result.safeErrors ≠ [] ∧ Evidence.positions result = [] ∧ result.nextCursor = none ∧
        decideCursor reader .compound request.cursor result.nextCursor = .ok (.unchanged, none) := by
  obtain ⟨held, cursor, known⟩ := emitted.position reads
  rcases fetch_spec cursor (fun position member => reads position (known position member).2)
    fetched with ⟨error, rfl⟩ | ⟨clean, holds, moved⟩
  · refine .inr ⟨List.cons_ne_nil _ _, rfl, rfl, ?_⟩
    rw [cursor]
    exact decideCursor_eq_ok_iff.2 ⟨rfl, _, none, decodeCursor_map reads known, rfl, rfl⟩
  · refine .inl ⟨clean, holds, ?_⟩
    rw [cursor]
    exact legalSuccessor_of_latest reads known
      (fun position member => ⟨holds position member, inside position member⟩) moved

end Cursors

/-! ### Prices of one state -/

section Prices

/-- Prices of January and February. -/
def priceConfig : Object :=
  [("frequency", .str "monthly"), ("geographies", .arr [.str "CA"]), ("sectors", .arr [.str "RES"]),
    ("window_mode", .str "fixed_window"), ("start", .str "2024-01-01"), ("end", .str "2024-02-01")]

def priceAdapter : BreadthAdapter := ⟨"eia", "electricity_retail_sales", some "EIA_API_KEY"⟩

def priceRequest (cursor : Option String) : ProviderFetchRequest where
  cursor := cursor
  config := priceConfig
  limit := 5
  deadlineAt := 0
  maxResponseBytes := 4096
  requestTimeoutSeconds := 10
  continuation := none
  targetId := 1
  configRevision := 1
  operationConfigVersion := 1
  providerContractVersion := 2
  cursorVersion := 2
  runMode := .normal

/-- A row of prices. -/
def priceRow (period : String) : Json :=
  .obj [("stateid", .str "CA"), ("sectorid", .str "RES"), ("period", .str period),
    ("price", .int 12), ("price-units", .str "cents per kilowatthour")]

/-- An answer with the prices of these months. -/
def priceAnswer (months : List String) (_ : Sent) : Transported :=
  .answered ⟨200, none, 0, .obj [("response", .obj [("total", .int months.length),
    ("data", .arr (months.map priceRow))])]⟩

def january : String × String := ("2024-01-01T00:00:00+00:00", "2024-01:CA:RES")

def february : String × String := ("2024-02-01T00:00:00+00:00", "2024-02:CA:RES")

/-- The text of the cursor of January. -/
def januaryText : String :=
  "\x7b\"provider_item_id\": \"2024-01:CA:RES\", \"published_at\": \"2024-01-01T00:00:00+00:00\"\x7d"

/-- What reads the cursors of the two months. -/
def priceReader : Reader where
  loads text := .ok (.obj (watermarkOf (if text = januaryText then january else february)))
  str _ := ""

theorem watermarkText_january : watermarkText silentLibrary january = januaryText := by
  rw [watermarkText_eq]
  rfl

theorem price_reads : ReadsBack silentLibrary priceReader {january, february} := by
  rintro position (rfl | rfl)
  · rw [watermarkText_january]
    rfl
  · have other : watermarkText silentLibrary february ≠ januaryText := by
      rw [watermarkText_eq]
      decide
    show Except.ok (Json.obj (watermarkOf (if _ then january else february))) = _
    rw [if_neg other]

/-- What a fetch of prices notes. -/
def pricesOf (months : List String) (cursor : Option String) :
    Option (List ProviderAdapterError × List (String × String)) :=
  (priceAdapter.fetch silentLibrary (fun _ => "") priceReader.loads (priceAnswer months)
    (priceRequest cursor)).toOption.map fun result => (result.safeErrors, Evidence.positions result)

theorem fetched_of_pricesOf {months : List String} {cursor : Option String}
    {positions : List (String × String)} (noted : pricesOf months cursor = some ([], positions)) :
    ∃ result, priceAdapter.fetch silentLibrary (fun _ => "") priceReader.loads (priceAnswer months)
      (priceRequest cursor) = .ok result ∧ result.safeErrors = [] ∧
        Evidence.positions result = positions := by
  obtain ⟨result, fetched, same⟩ := Option.map_eq_some_iff.1 noted
  obtain ⟨clean, rows⟩ := Prod.mk.inj same
  refine ⟨result, ?_, clean, rows⟩
  cases ran : priceAdapter.fetch silentLibrary (fun _ => "") priceReader.loads (priceAnswer months)
    (priceRequest cursor) with
  | ok other =>
      rw [ran] at fetched
      exact congrArg Except.ok (Option.some.inj fetched)
  | error raised =>
      rw [ran] at fetched
      exact absurd fetched nofun

/-- The cursor of January has been emitted. -/
theorem january_emitted : Emitted silentLibrary (fun _ => "") priceReader priceAdapter
    {january, february} (some januaryText) := by
  obtain ⟨result, fetched, clean, rows⟩ := @fetched_of_pricesOf ["2024-01"] none [january]
    (by decide +kernel)
  have moved : result.nextCursor = some januaryText := by
    rcases @fetch_spec _ _ priceReader _ _ (priceRequest none) _ none rfl nofun fetched with
      ⟨error, rfl⟩ | ⟨-, -, moved⟩
    · exact absurd clean (List.cons_ne_nil _ _)
    · rw [moved, rows, if_neg (by simp), ← watermarkText_january]
      rfl
  rw [← moved]
  exact .fetch .start fetched (by simp [rows])

/-- February is the successor of January. -/
theorem watermark_is_successor_prices : ∃ result,
    priceAdapter.fetch silentLibrary (fun _ => "") priceReader.loads
      (priceAnswer ["2024-02", "2024-01"]) (priceRequest (some januaryText)) = .ok result ∧
    LegalSuccessor priceReader (some januaryText) result.nextCursor
      [moment february, moment january] := by
  obtain ⟨result, fetched, clean, rows⟩ := @fetched_of_pricesOf ["2024-02", "2024-01"]
    (some januaryText) [february, january] (by decide +kernel)
  refine ⟨result, fetched, ?_⟩
  rcases watermark_is_successor price_reads january_emitted fetched (by simp [rows]) with
    ⟨-, -, legal⟩ | ⟨failed, -⟩
  · rw [rows] at legal
    exact legal
  · exact absurd clean failed

/-- **A fetch that fails hands on no cursor**, though the target has one. -/
theorem failed_fetch_has_no_cursor : ∃ result,
    Emitted silentLibrary (fun _ => "") priceReader priceAdapter {january, february}
      (priceRequest (some januaryText)).cursor ∧
    priceAdapter.fetch silentLibrary (fun _ => "") priceReader.loads
      (fun _ => .answered ⟨503, none, 0, .null⟩) (priceRequest (some januaryText)) = .ok result ∧
    ¬ LegalSuccessor priceReader (some januaryText) result.nextCursor
      ((Evidence.positions result).map moment) := by
  refine ⟨priceAdapter.failed ⟨.upstreamError, "provider_upstream_failed", true, none⟩,
    january_emitted, rfl, fun legal => ?_⟩
  exact absurd (legal.empty rfl).1 nofun

end Prices

end NewsCollect.Providers
