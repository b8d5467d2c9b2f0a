/-
**The two orders of cursors.**

The control plane orders two cursors by the instants and the identities in them, the legacy runner
by their texts, and the adapters of the first version choose the cursor of a page by its text. The
texts of quotes, prices and filings are written by `isoformat` in UTC, and are ordered as their
instants are; the texts of news are those the provider sent, in any form it may choose.

* `Accepts`: the texts of the items of an adapter.
* `InOrder`: texts that are ordered as the instants they denote.
* `OrdersAgree`, `PagesAreLatest`: the two decisions agree, and every page has the cursor of its
  latest position.
* `cursor_orders_agree_iff`: this is so where the texts are in order.
* `news_orders_differ`: news whose texts are not.
-/

import NewsCollect.Collection.ProviderAdapter
import NewsCollect.Library.IsoOrder
import NewsCollect.Proof.LegacyIdentity

namespace NewsCollect.Evidence

open Calendar Collection Contract Providers SafeProjection Text

/-! ### Texts and instants -/

/-- The instant a text denotes. -/
def instantOf (text : String) : Int :=
  match publishedTime text with
  | .ok (here, some offset) => here - offset
  | _ => 0

/-- A text of an instant, as `isoformat` writes it in UTC. -/
def IsCanonical (text : String) : Prop :=
  ∃ instant, inRange instant = true ∧ text.toList = isoFormat instant 0

/-- **The texts of the items of an adapter.** -/
def Accepts (library : StandardLibrary) (adapter : FirstAdapter) (text : String) : Prop :=
  ∃ item, Emits library adapter item ∧ item.position.1 = text

/-- **Texts in the order of their instants.** -/
def InOrder (texts : Set String) : Prop :=
  ∀ left ∈ texts, ∀ right ∈ texts, left < right ↔ instantOf left < instantOf right

theorem publishedTime_of_canonical {text : String} {instant : Int} (inside : inRange instant = true)
    (written : text.toList = isoFormat instant 0) :
    publishedTime text = .ok (instant, some 0) := by
  rw [publishedTime, written, replaceZ_isoFormat, fromIsoFormat_isoFormat inside]

theorem string_lt_iff {left right : String} : left < right ↔ left.toList < right.toList := Iff.rfl

/-- Texts that `isoformat` has written are in order. -/
theorem inOrder_of_canonical {texts : Set String} (canonical : ∀ text ∈ texts, IsCanonical text) :
    InOrder texts := by
  intro left inside right inside'
  obtain ⟨first, range, written⟩ := canonical left inside
  obtain ⟨last, range', written'⟩ := canonical right inside'
  rw [string_lt_iff, written, written', isoFormat_lt_iff range range', instantOf, instantOf,
    publishedTime_of_canonical range written, publishedTime_of_canonical range' written']
  simp

/-! ### The texts of an adapter -/

section Accepted

variable {library : StandardLibrary} {adapter : FirstAdapter} {item : Item} {text : String}

/-- What `iso_timestamp` returns is written in UTC, unless it has read a text with an offset. -/
theorem canonical_of_isoTimestamp {value : Json} {published : String}
    (dated : isoTimestamp value = some published) :
    IsCanonical published ∨ ∃ raw here offset, value = .str raw ∧
      fromIsoFormat (if (replaceZ raw.toList).length = 7 ∧ (replaceZ raw.toList)[4]? = some '-' then
        replaceZ raw.toList ++ ['-', '0', '1'] else replaceZ raw.toList) = some (here, offset) ∧
      published.toList = isoFormat here (offset.getD 0) := by
  have ofNumber {numerator : Int} {scale : Nat}
      (dated : (if inRange (timestampMicros numerator scale) then
        some (String.ofList (isoFormat (timestampMicros numerator scale) 0)) else none) =
        some published) : IsCanonical published := by
    split at dated
    · next inside =>
      obtain rfl := Option.some.inj dated
      exact ⟨_, inside, String.toList_ofList⟩
    · exact absurd dated nofun
  unfold isoTimestamp at dated
  dsimp only at dated
  split at dated
  · exact .inl (ofNumber dated)
  · exact .inl (ofNumber dated)
  · exact .inl (ofNumber dated)
  · next raw =>
    split at dated
    · exact absurd dated nofun
    · obtain ⟨⟨here, offset⟩, read, rfl⟩ := Option.map_eq_some_iff.1 dated
      exact .inr ⟨raw, here, offset, rfl, read, String.toList_ofList⟩
  · exact absurd dated nofun

/-- The month of a price becomes its first day. -/
theorem canonical_of_month {value : Json} {published : String}
    (dated : isoTimestamp value = some published)
    (month : isMonth (strOf library value).toList = true) : IsCanonical published := by
  rcases canonical_of_isoTimestamp dated with canonical | ⟨raw, here, offset, rfl, read, written⟩
  · exact canonical
  · have shape : _ = true := (Bool.and_eq_true_iff.1 month).1
    change shaped _ raw.toList = true at shape
    have plain : replaceZ raw.toList = raw.toList := by
      refine replaceZ_eq_self fun c member => ?_
      rintro rfl
      rcases mem_of_isMonth shape 'Z' member with digit | dash
      · exact absurd digit (by decide)
      · exact absurd dash (by decide)
    obtain ⟨y₁, y₂, y₃, y₄, m₁, m₂, spelled, digit⟩ :
        ∃ y₁ y₂ y₃ y₄ m₁ m₂, raw.toList = [y₁, y₂, y₃, y₄, '-', m₁, m₂] ∧ isDecimal m₁ = true := by
      revert shape
      rcases raw.toList with _ | ⟨y₁, _ | ⟨y₂, _ | ⟨y₃, _ | ⟨y₄, _ | ⟨d, _ | ⟨m₁, _ | ⟨m₂, _ | ⟨_, _⟩⟩⟩⟩⟩⟩⟩⟩ <;>
        simp [shaped]
      intro _ _ _ _ dash digit _
      exact ⟨dash, digit⟩
    rw [plain, spelled, if_pos ⟨rfl, rfl⟩] at read
    obtain ⟨date, same⟩ := fromIsoFormat_ten (by rfl) (by rfl) (by
      rintro week
      obtain rfl : m₁ = 'W' := by simpa using week
      exact absurd digit (by decide)) read
    obtain ⟨rfl, rfl⟩ := Prod.mk.inj same
    exact ⟨date.start, date.inRange_start, written⟩

/-- The date of a filing is its day. -/
theorem canonical_of_date {value : Json} {published : String}
    (dated : isoTimestamp value = some published)
    (day : secFilingDate (.str (strOf library value)) = .ok ()) : IsCanonical published := by
  rcases canonical_of_isoTimestamp dated with canonical | ⟨raw, here, offset, rfl, read, written⟩
  · exact canonical
  · rw [secFilingDate, require_eq_ok, Option.any_eq_true] at day
    obtain ⟨date, -, same⟩ := day
    have spelled : raw.toList = date.text := (beq_iff_eq.1 same).symm
    rw [spelled, replaceZ_text, if_neg (by rw [Date.length_text]; simp), fromIsoFormat_text] at read
    obtain ⟨rfl, rfl⟩ := Prod.mk.inj (Option.some.inj read)
    exact ⟨date.start, date.inRange_start, written⟩

theorem position_eq {published identity : String}
    (dated : item.metadata.get "published_at" = .str published)
    (named : item.metadata.get "provider_item_id" = .str identity) :
    item.position = (published, identity) := by
  rw [Item.position, strAt, strAt, dated, named]
  rfl

/-- **The texts of quotes, prices and filings** are written in UTC. -/
theorem canonical_of_accepts (other : adapter ≠ .marketaux)
    (accepted : Accepts library adapter text) : IsCanonical text := by
  obtain ⟨item, emitted, rfl⟩ := accepted
  cases adapter with
  | marketaux => exact absurd rfl other
  | finnhub =>
      obtain ⟨symbol, code, published, seconds, -, dated, -, -, -, named, time⟩ :=
        values_of_quote emitted
      rw [position_eq dated named]
      rcases canonical_of_isoTimestamp time with canonical | ⟨raw, here, offset, impossible, -⟩
      · exact canonical
      · exact absurd impossible nofun
  | eia =>
      obtain ⟨published, geography, sector, value, facet, facet', dated, -, -, -, time, month, -, -,
        -, named⟩ := values_of_price emitted
      rw [position_eq dated named]
      exact canonical_of_month time month
  | secEdgar =>
      obtain ⟨accession, published, value, -, named, -, dated, time, day⟩ :=
        values_of_filing emitted
      rw [position_eq dated named]
      exact canonical_of_date time day

/-- A text an adapter accepts denotes an instant. -/
theorem dated_of_accepts (accepted : Accepts library adapter text) :
    ∃ here offset, publishedTime text = .ok (here, some offset) := by
  by_cases news : adapter = .marketaux
  · subst news
    obtain ⟨item, emitted, rfl⟩ := accepted
    obtain ⟨identity, published, form, -, named, -, dated, time⟩ := values_of_news emitted
    rw [position_eq dated named]
    obtain ⟨spelled, read, -⟩ := map_eq_ok.1 time
    simp only [timestampOf] at read
    split at read
    · next here offset found => exact ⟨here, offset, by rw [publishedTime, found]⟩
    · cases read
  · obtain ⟨instant, inside, written⟩ := canonical_of_accepts news accepted
    exact ⟨instant, 0, publishedTime_of_canonical inside written⟩

end Accepted

/-! ### The two orders -/

/-- The position that a pair of texts denotes. -/
def moment (position : String × String) : CursorPosition := ⟨instantOf position.1, position.2⟩

/-- `decide_cursor` answers with this action. -/
def Decides (reader : Reader) (strategy : CursorStrategy) (current candidate : String)
    (action : CursorAction) : Prop :=
  ∃ position, decideCursor reader strategy (some current) (some candidate) =
    .ok (action, position)

/-- **The two decisions agree** on the cursors of these texts and identities. -/
def OrdersAgree (library : StandardLibrary) (reader : Reader) (adapter : FirstAdapter)
    (strategy : CursorStrategy) (texts ids : Set String) : Prop :=
  ∀ current ∈ texts ×ˢ ids, ∀ candidate ∈ texts ×ˢ ids,
    (Decides reader strategy (positionCursor library current) (positionCursor library candidate)
        .advance ↔
      classify reader.loads adapter.provider (some (positionCursor library current))
        (positionCursor library candidate) = .ok .advance) ∧
    (adapter.provider ∈ snapshotProviders →
      (Decides reader strategy (positionCursor library current) (positionCursor library candidate)
          .noNewItems ↔
        classify reader.loads adapter.provider (some (positionCursor library current))
          (positionCursor library candidate) = .ok .unchanged))

/-- The positions of the items of a result. -/
def positions (result : ProviderFetchResult) : List (String × String) :=
  result.sanitizedMetadata.map fun metadata =>
    (strAt metadata "published_at", strAt metadata "provider_item_id")

/-- The cursor after a page is that of its latest position. -/
def NextIsLatest (library : StandardLibrary) (result : ProviderFetchResult) : Prop :=
  ∃ latest ∈ positions result, result.nextCursor = some (positionCursor library latest) ∧
    ∀ position ∈ positions result, moment position ≤ moment latest

/-- **The pages of these texts** have the cursor of their latest position. -/
def PagesAreLatest (library : StandardLibrary) (adapter : FirstAdapter) (texts : Set String) :
    Prop :=
  ∀ loads transport now credential request result,
    adapter.fetch library loads transport now credential request = .ok result →
    result.safeErrors = [] → (∀ position ∈ positions result, position.1 ∈ texts) →
    NextIsLatest library result

/-- The cursors of these texts and identities are read as they were written. -/
def Reads (library : StandardLibrary) (reader : Reader) (texts ids : Set String) : Prop :=
  ∀ position ∈ texts ×ˢ ids, reader.loads (positionCursor library position) =
    .ok (.obj [("provider_item_id", .str position.2), ("published_at", .str position.1)])

section Orders

theorem keyLe_iff {left right : String × String} : keyLe left right = true ↔
    toLex left ≤ toLex right := by
  simp [keyLe, Prod.Lex.toLex_le_toLex]

theorem moment_lt {left right : String × String} : moment left < moment right ↔
    instantOf left.1 < instantOf right.1 ∨ instantOf left.1 = instantOf right.1 ∧
      left.2 < right.2 :=
  Prod.Lex.toLex_lt_toLex

variable {texts ids : Set String}

/-- Texts in order are told apart by their instants. -/
theorem instantOf_eq_iff (order : InOrder texts) {left right : String} (first : left ∈ texts)
    (last : right ∈ texts) : instantOf left = instantOf right ↔ left = right := by
  refine ⟨fun same => ?_, fun same => same ▸ rfl⟩
  rcases lt_trichotomy left right with less | equal | greater
  · exact absurd ((order left first right last).1 less) (by omega)
  · exact equal
  · exact absurd ((order right last left first).1 greater) (by omega)

/-- Positions of texts in order are ordered as their pairs of texts. -/
theorem moment_lt_iff (order : InOrder texts) {left right : String × String}
    (first : left.1 ∈ texts) (last : right.1 ∈ texts) :
    moment left < moment right ↔ toLex left < toLex right := by
  rw [moment_lt, instantOf_eq_iff order first last, ← order left.1 first right.1 last,
    Prod.Lex.toLex_lt_toLex]

theorem moment_le_iff (order : InOrder texts) {left right : String × String}
    (first : left.1 ∈ texts) (last : right.1 ∈ texts) :
    moment left ≤ moment right ↔ toLex left ≤ toLex right := by
  rw [← not_lt, moment_lt_iff order last first, not_lt]

/-! ### The latest of a page -/

/-- `max` keeps the greatest of what it has seen. -/
theorem foldl_keyLe_spec (rest : List (String × String)) (held : String × String) :
    rest.foldl (fun held position => if keyLe position held then held else position) held ∈
        held :: rest ∧
      ∀ position ∈ held :: rest, toLex position ≤ toLex
        (rest.foldl (fun held position => if keyLe position held then held else position) held) := by
  induction rest generalizing held with
  | nil => simp
  | cons next rest ih =>
      rw [List.foldl_cons]
      by_cases before : keyLe next held = true
      · rw [if_pos before]
        obtain ⟨member, most⟩ := ih held
        refine ⟨?_, fun position inside => ?_⟩
        · rcases List.mem_cons.1 member with same | inside
          · exact List.mem_cons.2 (.inl same)
          · exact List.mem_cons_of_mem _ (List.mem_cons_of_mem _ inside)
        · rcases List.mem_cons.1 inside with rfl | inside
          · exact most _ List.mem_cons_self
          · rcases List.mem_cons.1 inside with rfl | inside
            · exact (keyLe_iff.1 before).trans (most _ List.mem_cons_self)
            · exact most _ (List.mem_cons_of_mem _ inside)
      · rw [if_neg before]
        obtain ⟨member, most⟩ := ih next
        refine ⟨List.mem_cons_of_mem _ member, fun position inside => ?_⟩
        rcases List.mem_cons.1 inside with rfl | inside
        · exact (le_of_not_ge (mt keyLe_iff.2 before)).trans (most _ List.mem_cons_self)
        · exact most _ inside

/-- The pair a page chooses is one of its pairs, and none is greater. -/
theorem latestPosition_spec {positions : List (String × String)} (there : positions ≠ []) :
    latestPosition positions ∈ positions ∧
      ∀ position ∈ positions, toLex position ≤ toLex (latestPosition positions) := by
  cases positions with
  | nil => exact absurd rfl there
  | cons first rest => exact foldl_keyLe_spec rest first

theorem positions_resultOf (library : StandardLibrary) (provider : String) (items : List Item)
    (more : Bool) :
    positions (resultOf library provider items more) = items.map Item.position := by
  rw [positions, resultOf, List.map_map]
  rfl

/-- Where texts are in order, every page has the cursor of its latest position. -/
theorem pagesAreLatest_of_inOrder (library : StandardLibrary) (adapter : FirstAdapter)
    (order : InOrder texts) : PagesAreLatest library adapter texts := by
  intro loads transport now credential request result fetched clean inside
  rcases items_of_fetch fetched with ⟨error, rfl⟩ | ⟨items, more, rfl, some, -⟩
  · exact absurd clean (List.cons_ne_nil _ _)
  · rw [NextIsLatest, positions_resultOf] at *
    obtain ⟨member, most⟩ := latestPosition_spec (mt List.map_eq_nil_iff.1 some)
    refine ⟨_, member, rfl, fun position held => ?_⟩
    exact (moment_le_iff order (inside position held) (inside _ member)).2 (most position held)

/-! ### The two decisions -/

variable {library : StandardLibrary} {reader : Reader} {adapter : FirstAdapter}
  {strategy : CursorStrategy} {current candidate : String × String}

/-- The position in a cursor that is read as it was written. -/
theorem decodeCursor_eq (reads : Reads library reader texts ids)
    (accepted : ∀ text ∈ texts, Accepts library adapter text) (named : ∀ id ∈ ids, id ≠ "")
    (inside : current ∈ texts ×ˢ ids) :
    decodeCursor reader (some (positionCursor library current)) = .ok (some (moment current)) := by
  obtain ⟨here, offset, dated⟩ := dated_of_accepts (accepted _ inside.1)
  have parts : cursorParts reader (positionCursor library current) =
      .ok ((here, some offset), current.2) := by
    rw [cursorParts, reads current inside]
    show (do
      let time ← publishedTime current.1
      pure (time, current.2)) = _
    rw [dated]
    rfl
  have position : decodePosition reader (positionCursor library current) =
      .ok (moment current) := by
    rw [Collection.decodePosition, parts]
    show (if current.2 = "" then _ else _) = _
    rw [if_neg (named _ inside.2), moment, instantOf, dated]
  rw [decodeCursor, position]
  rfl

/-- The pair in a cursor that is read as it was written. -/
theorem cursorValue_eq (reads : Reads library reader texts ids) (inside : current ∈ texts ×ˢ ids) :
    cursorValue reader.loads (positionCursor library current) = .ok (some current) := by
  rw [cursorValue, reads current inside]
  rfl

/-- The control plane decides on the positions. -/
theorem decides_iff (reads : Reads library reader texts ids)
    (accepted : ∀ text ∈ texts, Accepts library adapter text) (named : ∀ id ∈ ids, id ≠ "")
    (decides : strategy.decides = true) (repeats : strategy.repeats = true)
    (first : current ∈ texts ×ˢ ids) (last : candidate ∈ texts ×ˢ ids) :
    (Decides reader strategy (positionCursor library current) (positionCursor library candidate)
      .advance ↔ moment current < moment candidate) ∧
    (Decides reader strategy (positionCursor library current) (positionCursor library candidate)
      .noNewItems ↔ moment candidate = moment current) := by
  have decided : decideCursor reader strategy (some (positionCursor library current))
      (some (positionCursor library candidate)) =
      decidePosition strategy (some (moment current)) (some (moment candidate)) := by
    rw [decideCursor, decides, decodeCursor_eq reads accepted named first,
      decodeCursor_eq reads accepted named last]
    rfl
  simp only [Decides, decided, decidePosition, repeats, and_true]
  by_cases less : moment current < moment candidate
  · simp [less, less.ne']
  · by_cases same : moment candidate = moment current
    · simp [same]
    · simp [less, same, raise]

/-- A policy orders the pairs of texts. -/
theorem classifyRepeated_eq {repeated : CursorRelation} (reads : Reads library reader texts ids)
    (first : current ∈ texts ×ˢ ids) (last : candidate ∈ texts ×ˢ ids) :
    classifyRepeated reader.loads repeated (some (positionCursor library current))
      (positionCursor library candidate) =
    .ok (if toLex current < toLex candidate then .advance
      else if candidate = current then repeated else .invalid) := by
  simp only [classifyRepeated, cursorValue_eq reads first, cursorValue_eq reads last]
  show Except.ok _ = _
  congr 1
  by_cases same : candidate = current
  · simp [same, keyLe_iff]
  · by_cases less : toLex current < toLex candidate
    · simp [same, less, keyLe_iff.2 less.le]
    · have after : keyLe current candidate = false := by
        rw [← Bool.not_eq_true, keyLe_iff, le_iff_lt_or_eq]
        rintro (before | equal)
        · exact less before
        · exact same (toLex.injective equal).symm
      simp [same, less, after]

/-- The legacy runner decides on the texts. -/
theorem classify_iff (reads : Reads library reader texts ids) (first : current ∈ texts ×ˢ ids)
    (last : candidate ∈ texts ×ˢ ids) :
    (classify reader.loads adapter.provider (some (positionCursor library current))
      (positionCursor library candidate) = .ok .advance ↔ toLex current < toLex candidate) ∧
    (adapter.provider ∈ snapshotProviders →
      (classify reader.loads adapter.provider (some (positionCursor library current))
        (positionCursor library candidate) = .ok .unchanged ↔ candidate = current)) := by
  unfold classify
  split
  · rw [SnapshotCursorPolicy.classify, classifyRepeated_eq reads first last]
    by_cases less : toLex current < toLex candidate
    · have other : candidate ≠ current := fun same => by simp [same] at less
      simp [less, other]
    · by_cases same : candidate = current <;> simp [less, same]
  · next other =>
    rw [StrictCursorPolicy.classify, classifyRepeated_eq reads first last]
    refine ⟨?_, fun snapshot => absurd snapshot other⟩
    by_cases less : toLex current < toLex candidate
    · simp [less]
    · simp [less]

/-- The strategies of the first version repeat the cursor they have. -/
theorem strategy_of_resolve {contract : OperationContract}
    (contracted : buildOperationRegistry.resolve adapter.provider adapter.operation 1 1 =
      .ok contract) :
    contract.cursorStrategy.decides = true ∧ contract.cursorStrategy.repeats = true := by
  cases adapter <;>
  · obtain rfl := Except.ok.inj contracted
    exact ⟨rfl, rfl⟩

end Orders

variable {library : StandardLibrary} {reader : Reader} {adapter : FirstAdapter}
  {contract : OperationContract} {texts ids : Set String}

/-- **The two orders of cursors agree where the texts of a provider are ordered as the instants they
denote**, and only there. The texts of quotes, prices and filings are. -/
theorem cursor_orders_agree_iff
    (contracted : buildOperationRegistry.resolve adapter.provider adapter.operation 1 1 =
      .ok contract)
    (accepted : ∀ text ∈ texts, Accepts library adapter text) (named : ∀ id ∈ ids, id ≠ "")
    (given : ids.Nonempty) (reads : Reads library reader texts ids) :
    (OrdersAgree library reader adapter contract.cursorStrategy texts ids ∧
      PagesAreLatest library adapter texts ↔ InOrder texts) ∧
    (adapter ≠ .marketaux → InOrder texts) := by
  obtain ⟨decides, repeats⟩ := strategy_of_resolve contracted
  refine ⟨⟨?_, fun order => ⟨?_, pagesAreLatest_of_inOrder library adapter order⟩⟩, fun other =>
    inOrder_of_canonical fun text inside => canonical_of_accepts other (accepted text inside)⟩
  · rintro ⟨agree, -⟩ left inside right inside'
    obtain ⟨id, known⟩ := given
    have first : (left, id) ∈ texts ×ˢ ids := ⟨inside, known⟩
    have last : (right, id) ∈ texts ×ˢ ids := ⟨inside', known⟩
    have same := (agree _ first _ last).1
    rw [(decides_iff reads accepted named decides repeats first last).1,
      (classify_iff reads first last).1, moment_lt, Prod.Lex.toLex_lt_toLex] at same
    simpa using same.symm
  · intro current first candidate last
    have decided := decides_iff reads accepted named decides repeats first last
    have classified := @classify_iff _ _ _ _ adapter _ _ reads first last
    refine ⟨by rw [decided.1, classified.1, moment_lt_iff order first.1 last.1], fun snapshot => ?_⟩
    rw [decided.2, classified.2 snapshot, moment, moment, CursorPosition.mk.injEq,
      instantOf_eq_iff order last.1 first.1, Prod.ext_iff]

/-! ### News with an offset -/

/-- A row of news with nothing but its identity and its time. -/
def bareRow (identity text : String) : Object :=
  [("published_at", .str text), ("uuid", .str identity)]

/-- What is left of it. -/
def bareItem (identity text : String) : Object :=
  [("provider_item_id", .str identity), ("published_at", .str text),
    ("field_names", .arr [.str "published_at", .str "uuid"]), ("source_identity", .null),
    ("display_title", .null), ("display_url", .null)]

theorem sanitizeItem_bareRow {identity text : String}
    (known : marketauxIdentity? (.str identity) = some identity) (there : text ≠ "")
    (plain : hasMarker text = false) :
    sanitizeItem library (bareRow identity text) = .ok (some (bareItem identity text)) := by
  have names : safeFieldNames (bareRow identity text) = [.str "published_at", .str "uuid"] := by
    have keys : Object.keys (bareRow identity text) = ["published_at", "uuid"] := rfl
    rw [safeFieldNames_of_sorted (by rw [keys]; decide) (by rw [keys]; decide),
      keys]
    rfl
  have identity' : Object.get (bareRow identity text) "uuid" = .str identity := rfl
  have published : Object.get (bareRow identity text) "published_at" = .str text := rfl
  rw [sanitizeItem, identity', published, known, names]
  show (if text = "" ∨ hasMarker text = true then _ else _) = _
  rw [if_neg (by simp [there, plain])]
  rfl

/-- News whose time is accepted. -/
theorem accepts_news (config : Object) {identity text : String}
    (known : marketauxIdentity? (.str identity) = some identity) (there : text ≠ "")
    (plain : hasMarker text = false)
    (valid : (validateFactualPayload library "marketaux" "news_all" 1
      (marketauxPayload config (bareItem identity text))).toOption.isSome = true) :
    Accepts library .marketaux text := by
  obtain ⟨facts, some⟩ := Option.isSome_iff_exists.1 valid
  have valid : validateFactualPayload library "marketaux" "news_all" 1
      (marketauxPayload config (bareItem identity text)) = .ok facts := by
    revert some
    cases validateFactualPayload library "marketaux" "news_all" 1
      (marketauxPayload config (bareItem identity text)) <;> simp [Except.toOption]
  refine ⟨_, ⟨config, ⟨200, none, 0, .null⟩, bareRow identity text, bind_eq_ok.2 ⟨_,
    attempt_of_eq_ok.2 (sanitizeItem_bareRow known there plain), bind_eq_ok.2 ⟨_,
      given_eq_ok.2 rfl, bind_eq_ok.2 ⟨facts, validated_eq_ok.2 valid, pure_eq_ok.2 rfl⟩⟩⟩⟩, rfl⟩

/-- The text of a cursor. -/
theorem positionCursor_eq (position : String × String) : positionCursor library position =
    "\x7b\"provider_item_id\":" ++ quoted position.2 ++ ",\"published_at\":" ++
      quoted position.1 ++ "\x7d" := by
  have members : (stableMembers library [("provider_item_id", .str position.2),
      ("published_at", .str position.1)]).mergeSort (fun left right => left.1 ≤ right.1) =
      [("provider_item_id", quoted position.2), ("published_at", quoted position.1)] := by
    have spelled : stableMembers library [("provider_item_id", .str position.2),
        ("published_at", .str position.1)] =
        [("provider_item_id", quoted position.2), ("published_at", quoted position.1)] := rfl
    rw [spelled, List.mergeSort_of_pairwise (by simp)]
  rw [positionCursor, stableText, members]
  have key : quoted "provider_item_id" = "\"provider_item_id\"" := by decide
  have key' : quoted "published_at" = "\"published_at\"" := by decide
  have pair : ∀ first last : String, ",".intercalate [first, last] = first ++ "," ++ last :=
    fun _ _ => rfl
  have front : "\x7b\"provider_item_id\":" = "\x7b" ++ "\"provider_item_id\"" ++ ":" := rfl
  have middle : ",\"published_at\":" = "," ++ "\"published_at\"" ++ ":" := rfl
  rw [List.map_cons, List.map_cons, List.map_nil, pair, key, key', front, middle]
  simp only [String.append_assoc]

/-- The identity of a news item. -/
def newsId : String := "0b7c1e62-6a0e-4c53-9f3a-1d2f4e5a6b70"

/-- Half past midnight an hour to the east is before midnight, though its text is after it. -/
def eastern : String := "2026-01-01T00:30:00+01:00"

def midnight : String := "2026-01-01T00:00:00Z"

/-- The text of the cursor of the item at this time. -/
def newsCursor (text : String) : String :=
  "\x7b\"provider_item_id\":\"" ++ newsId ++ "\",\"published_at\":\"" ++ text ++ "\"\x7d"

/-- What reads the cursors of the item. -/
def newsReader : Reader where
  loads text :=
    .ok (.obj [("provider_item_id", .str newsId),
      ("published_at", .str (if text = newsCursor eastern then eastern else midnight))])
  str _ := ""

theorem news_accepted : ∀ text ∈ ({eastern, midnight} : Set String),
    Accepts digests .marketaux text := by
  rintro text (rfl | rfl)
  · exact @accepts_news _ [("query", .str "oil")] newsId _ (by decide) (by decide)
      (by decide) (by decide +kernel)
  · exact @accepts_news _ [("query", .str "oil")] newsId _ (by decide) (by decide)
      (by decide) (by decide +kernel)

theorem news_reads : Reads digests newsReader {eastern, midnight} {newsId} := by
  rintro ⟨text, id⟩ ⟨rfl | rfl, rfl⟩
  · have written : positionCursor digests (eastern, newsId) = newsCursor eastern := by
      rw [positionCursor_eq]
      decide
    rw [written]
    rfl
  · have written : positionCursor digests (midnight, newsId) = newsCursor midnight := by
      rw [positionCursor_eq]
      decide
    rw [written]
    rfl

/-- **A cursor that the legacy runner advances to and the control plane rejects**, of news an hour
to the east of the news it has. -/
theorem news_orders_differ : ∃ contract,
    buildOperationRegistry.resolve "marketaux" "news_all" 1 1 = .ok contract ∧
    Accepts digests .marketaux midnight ∧ Accepts digests .marketaux eastern ∧
    classify newsReader.loads "marketaux" (some (positionCursor digests (midnight, newsId)))
      (positionCursor digests (eastern, newsId)) = .ok .advance ∧
    ¬ Decides newsReader contract.cursorStrategy (positionCursor digests (midnight, newsId))
      (positionCursor digests (eastern, newsId)) .advance := by
  have first : (midnight, newsId) ∈ ({eastern, midnight} : Set String) ×ˢ {newsId} := by simp
  have last : (eastern, newsId) ∈ ({eastern, midnight} : Set String) ×ˢ {newsId} := by simp
  have contracted : ∃ contract,
      buildOperationRegistry.resolve "marketaux" "news_all" 1 1 = .ok contract := ⟨_, rfl⟩
  obtain ⟨contract, contracted⟩ := contracted
  obtain ⟨decides, repeats⟩ := @strategy_of_resolve .marketaux contract contracted
  have named : ∀ id ∈ ({newsId} : Set String), id ≠ "" := by
    rintro id rfl
    decide
  refine ⟨contract, contracted, news_accepted _ first.1, news_accepted _ last.1,
    (@classify_iff _ _ _ _ .marketaux _ _ news_reads first last).1.2 (by decide),
    fun decided => ?_⟩
  rw [(decides_iff news_reads news_accepted named decides repeats first last).1] at decided
  exact absurd decided (by decide)

/-- The time of a quote, and an hour later. -/
def noonQuote : String := "2024-01-01T12:00:00+00:00"

def laterQuote : String := "2024-01-01T13:00:00+00:00"

/-- The identities of both quotes. -/
def noonId : String := "MSFT:1704110400"

def laterId : String := "MSFT:1704114000"

def quotePositions : List (String × String) :=
  [(noonQuote, noonId), (noonQuote, laterId), (laterQuote, noonId), (laterQuote, laterId)]

/-- The text of a cursor of the quotes. -/
def quoteCursor (position : String × String) : String :=
  "\x7b\"provider_item_id\":\"" ++ position.2 ++ "\",\"published_at\":\"" ++ position.1 ++ "\"\x7d"

/-- What reads the cursors of the quotes. -/
def quoteReader : Reader where
  loads text :=
    orRaise ((quotePositions.find? fun position => quoteCursor position == text).map fun position =>
      .obj [("provider_item_id", .str position.2), ("published_at", .str position.1)])
      .valueError "Expecting value"
  str _ := ""

/-- A quote of some second. -/
def quoteOf (seconds : Int) : Object :=
  [("c", .int 370), ("d", .int 1), ("dp", .int 1), ("h", .int 372), ("l", .int 366), ("o", .int 369),
    ("pc", .int 369), ("t", .int seconds)]

theorem accepts_quote {seconds : Int} {text : String}
    (read : (quoteItem digests "MSFT" ⟨200, none, 0, .obj (quoteOf seconds)⟩
      (quoteOf seconds)).toOption.map (fun item => item.position.1) = some text) :
    Accepts digests .finnhub text := by
  cases made : quoteItem digests "MSFT" ⟨200, none, 0, .obj (quoteOf seconds)⟩ (quoteOf seconds) with
  | error raised =>
      rw [made] at read
      exact absurd read nofun
  | ok item =>
      rw [made] at read
      exact ⟨item, ⟨_, _, _, made⟩, Option.some.inj read⟩

theorem quote_accepted : ∀ text ∈ ({noonQuote, laterQuote} : Set String),
    Accepts digests .finnhub text := by
  rintro text (rfl | rfl)
  · exact @accepts_quote 1704110400 _ (by decide +kernel)
  · exact @accepts_quote 1704114000 _ (by decide +kernel)

theorem quote_reads : Reads digests quoteReader {noonQuote, laterQuote} {noonId, laterId} := by
  have written : ∀ position ∈ quotePositions, "\x7b\"provider_item_id\":" ++ quoted position.2 ++
      ",\"published_at\":" ++ quoted position.1 ++ "\x7d" = quoteCursor position ∧
      quotePositions.find? (fun other => quoteCursor other == quoteCursor position) =
        some position := by
    decide
  rintro ⟨text, id⟩ ⟨time, identity⟩
  have member : (text, id) ∈ quotePositions := by
    rcases time with rfl | rfl <;> rcases identity with rfl | rfl <;> decide
  obtain ⟨spelled, found⟩ := written _ member
  rw [positionCursor_eq, spelled]
  exact orRaise_eq_ok.2 (congrArg (Option.map _) found)

/-- The orders agree on the cursors of two quotes, and both advance to the later one. -/
theorem cursor_orders_agree_quote : ∃ contract,
    buildOperationRegistry.resolve "finnhub" "quote" 1 1 = .ok contract ∧
    OrdersAgree digests quoteReader .finnhub contract.cursorStrategy {noonQuote, laterQuote}
      {noonId, laterId} ∧
    classify quoteReader.loads "finnhub" (some (positionCursor digests (noonQuote, noonId)))
      (positionCursor digests (laterQuote, laterId)) = .ok .advance ∧
    Decides quoteReader contract.cursorStrategy (positionCursor digests (noonQuote, noonId))
      (positionCursor digests (laterQuote, laterId)) .advance := by
  have contracted : ∃ contract, buildOperationRegistry.resolve "finnhub" "quote" 1 1 =
      .ok contract := ⟨_, rfl⟩
  obtain ⟨contract, contracted⟩ := contracted
  have named : ∀ id ∈ ({noonId, laterId} : Set String), id ≠ "" := by
    rintro id (rfl | rfl)
    · decide
    · decide
  have agree := @cursor_orders_agree_iff digests quoteReader .finnhub contract
    {noonQuote, laterQuote} {noonId, laterId} contracted quote_accepted named
    (Set.insert_nonempty _ _) quote_reads
  have orders := (agree.1.2 (agree.2 nofun)).1
  have first : (noonQuote, noonId) ∈ ({noonQuote, laterQuote} : Set String) ×ˢ {noonId, laterId} := by
    simp
  have last : (laterQuote, laterId) ∈ ({noonQuote, laterQuote} : Set String) ×ˢ {noonId, laterId} := by
    simp
  have advances : classify quoteReader.loads "finnhub"
      (some (positionCursor digests (noonQuote, noonId)))
      (positionCursor digests (laterQuote, laterId)) = .ok .advance :=
    (@classify_iff _ _ _ _ .finnhub _ _ quote_reads first last).1.2 (by decide)
  exact ⟨contract, contracted, orders, advances, (orders _ first _ last).1.2 advances⟩

end NewsCollect.Evidence
