/-
**A window read to its end.**

A bounded fetch reads one page, and names the state to continue from. The next request carries that
state and the cursor of the page; it is prepared like the first one, under the same configuration, and
stands one page further. So a run that asks page after page moves through the states of its operation.

* `Stands`: a request that its adapter prepares at a state.
* `Stands.prepared`, `Stands.moved`: the request that is sent, and the request behind a page.
* `requestBehind`, `pageReader`: how a run goes from a page to the next.
* `Ready.fetches`: **one page**. Where the answer can be read, the fetch hands on its facts and stands
  at the state behind it.
* `Legible`, `Gives`, `gathered`: rows that can be read, the results of their pieces, and what the
  results come to; `GivesFacts`, `gathered_payloads`: the same of payloads.
-/

import NewsCollect.Library.Paging
import NewsCollect.Proof.PageRows
import NewsCollect.Proof.RoundTrip

namespace NewsCollect.Providers

open Collection Firsts Paging SafeProjection Text

/-! ### The states of a request -/

section States

variable {operation : String} {config state : Object}

theorem statePage_bounds (grammar : Grammar operation config state) :
    1 ≤ statePage state ∧ statePage state ≤ 1000 := by
  have first : (1 : Int) ≤ 1 ∧ (1 : Int) ≤ 1000 := by decide
  cases grammar with
  | page number of least most =>
      have held : statePage [("page", .int number)] = number := rfl
      omega
  | files name files of named once few members =>
      rw [statePage, Object.getD_perm (nodup_of_grammar (.files name files of named once few members))
        members]
      exact first
  | resume current files key key' of named filer once few left right members =>
      rw [statePage, Object.getD_perm (nodup_of_grammar
        (.resume current files key key' of named filer once few left right members)) members]
      exact first
  | _ => exact first

theorem stateOffset_bounds (grammar : Grammar operation config state) :
    0 ≤ stateOffset state ∧ stateOffset state ≤ 10000000 := by
  have first : (0 : Int) ≤ 0 ∧ (0 : Int) ≤ 10000000 := by decide
  cases grammar with
  | offset number of least most =>
      have held : stateOffset [("offset", .int number)] = number := rfl
      omega
  | files name files of named once few members =>
      rw [stateOffset, Object.getD_perm
        (nodup_of_grammar (.files name files of named once few members)) members]
      exact first
  | resume current files key key' of named filer once few left right members =>
      rw [stateOffset, Object.getD_perm (nodup_of_grammar
        (.resume current files key key' of named filer once few left right members)) members]
      exact first
  | _ => exact first

end States

/-! ### Where a request stands -/

section Standing

variable {digest : Object → String} {adapter : BreadthAdapter} {request : ProviderFetchRequest}
  {config state : Object} {lineage : ContinuationLineage}

/-- **A request at a state**, under a configuration and for a lineage. -/
structure Stands (digest : Object → String) (adapter : BreadthAdapter)
    (request : ProviderFetchRequest) (config : Object) (lineage : ContinuationLineage)
    (state : Object) : Prop where
  credential : (adapter.credential.isSome && adapter.credential == credentialName adapter.provider) =
    true
  accepted : breadthConfig adapter.provider adapter.operation request.config = .ok config
  fixed : config.get "window_mode" = .str "fixed_window"
  limit : 1 ≤ request.limit ∧ request.limit ≤ 100
  bound : requestLineage request adapter.operation = .ok lineage
  held : BreadthAdapter.requestState digest adapter request config lineage = .ok state
  grammar : Grammar adapter.operation config state

/-- What is prepared at a state. -/
def preparedAt (config : Object) (lineage : ContinuationLineage) (state : Object) (sent : Sent) :
    Prepared :=
  ⟨config, lineage, state, statePage state, stateOffset state, sent⟩

theorem Stands.resolved (stands : Stands digest adapter request config lineage state) :
    Resolved adapter.provider adapter.operation config :=
  .of_accepted stands.accepted stands.fixed

/-- What is sent for a request at a state. -/
theorem Stands.prepared (stands : Stands digest adapter request config lineage state) {sent : Sent}
    (asked : params adapter.provider adapter.operation config request.limit (statePage state)
      (stateOffset state) state = .ok sent) :
    adapter.prepare digest request =
      .ok (preparedAt config lineage state sent) := by
  have page := statePage_bounds stands.grammar
  have offset := stateOffset_bounds stands.grammar
  unfold BreadthAdapter.prepare
  rw [stands.credential, stands.accepted, stands.bound]
  simp only [bind_eq_ok, require_eq_ok, exists_const, pure_eq_ok]
  refine ⟨trivial, config, rfl, ?_, ?_, lineage, rfl, state, stands.held, ?_, sent, asked, rfl⟩
  · rw [stands.fixed]
    simp
  · simpa using stands.limit
  · simpa using ⟨⟨⟨page.1, page.2⟩, offset.1⟩, offset.2⟩

/-- A request that is prepared without a state stands at the start. -/
theorem Stands.of_prepare {prepared : Prepared}
    (ready : adapter.prepare digest request = .ok prepared) (start : prepared.state = []) :
    Stands digest adapter request prepared.config prepared.lineage [] := by
  unfold BreadthAdapter.prepare at ready
  simp only [bind_eq_ok, require_eq_ok, exists_const, pure_eq_ok] at ready
  obtain ⟨credential, config, accepted, fixed, limit, lineage, bound, state, held, -, sent, -, rfl⟩ :=
    ready
  obtain rfl : state = [] := start
  exact ⟨credential, accepted, Json.eq_str.1 fixed, by simpa using limit, bound, held, .start⟩

/-- **The request behind a page** stands at the state the page has left. -/
theorem Stands.moved (stands : Stands digest adapter request config lineage state)
    (hex : ∀ config, isHash (digest config).toList = true) {next value : Object}
    (encoded : encodeContinuation digest adapter.provider adapter.operation config lineage next =
      .ok value) (grammar : Grammar adapter.operation config next) (cursor : Option String) :
    Stands digest adapter { request with cursor := cursor, continuation := some value } config lineage
      next where
  credential := stands.credential
  accepted := stands.accepted
  fixed := stands.fixed
  limit := stands.limit
  bound := stands.bound
  held := by
    have once := nodup_of_grammar grammar
    obtain ⟨rfl, -⟩ := (encode_eq_ok_iff stands.resolved (hex config) once).1 encoded
    exact decode_of_encode stands.resolved (hex config) once encoded
  grammar := grammar

end Standing

/-! ### From a page to the next -/

/-- The request behind a result: it carries the cursor and the continuation on. -/
def requestBehind (request : ProviderFetchRequest) (result : ProviderFetchResult) :
    Option ProviderFetchRequest :=
  if result.hasMore then
    some { request with cursor := result.nextCursor, continuation := result.continuation }
  else none

/-- What reads the pages of a run. -/
def pageReader (library : StandardLibrary) (digest : Object → String)
    (loads : String → Result Json) (adapter : BreadthAdapter) (transport : Sent → Transported) :
    Paging.Reader ProviderFetchRequest ProviderFetchResult PyError where
  fetch := adapter.fetch library digest loads transport
  behind := requestBehind

section Pages

variable {library : StandardLibrary} {digest : Object → String} {reader : Collection.Reader}
  {adapter : BreadthAdapter} {written : Set (String × String)} {request : ProviderFetchRequest}
  {config state : Object} {lineage : ContinuationLineage} {limit : Int}

/-- A cursor that carries no position, or one that is read as it was written. -/
def Carries (library : StandardLibrary) (written : Set (String × String)) (cursor : Option String) :
    Prop :=
  ∃ held : Option (String × String), cursor = held.map (watermarkText library) ∧
    ∀ position ∈ held, position ∈ written

/-- The positions of these facts are read as they were written. -/
def PositionsIn (written : Set (String × String)) (facts : List Object) : Prop :=
  ∀ fact ∈ facts, ∀ position, HasPosition fact position → position ∈ written

/-- **A request that is ready for the page of a state.** -/
structure Ready (library : StandardLibrary) (digest : Object → String) (adapter : BreadthAdapter)
    (written : Set (String × String)) (config : Object) (lineage : ContinuationLineage) (limit : Int)
    (state : Object) (request : ProviderFetchRequest) : Prop where
  stands : Stands digest adapter request config lineage state
  carries : Carries library written request.cursor
  limited : request.limit = limit

/-- **The result of a page**: its facts, and the hashes of the rows it rejects. -/
structure ResultOf (rejected : List String) (checked : Rows) (result : ProviderFetchResult) : Prop where
  clean : result.safeErrors = []
  facts : result.factualProjections = firsts identityOf checked.payloads
  rejected : result.rejectedRowHashes = rejected ++ checked.rejected

/-- The cursor behind facts whose positions are read as they were written. -/
theorem Carries.moved {cursor : Option String} {checked : Rows}
    (carries : Carries library written cursor) (back : ReadsBack library reader written)
    (inside : PositionsIn written checked.payloads)
    (known : ∀ fact ∈ firsts identityOf checked.payloads, ∃ position, HasPosition fact position) :
    ∃ next, BreadthAdapter.nextCursor cursor (firsts identityOf checked.payloads) reader.loads
      (sortedText library) = .ok next ∧ Carries library written next := by
  obtain ⟨held, rfl, known'⟩ := carries
  obtain ⟨positions, -, noted⟩ := exists_positions known
  have within : ∀ position ∈ positions, position ∈ written := by
    intro position member
    have named : watermarkOf position ∈
        (firsts identityOf checked.payloads).map BreadthAdapter.metadataOf :=
      noted ▸ List.mem_map_of_mem member
    obtain ⟨fact, member', same⟩ := List.mem_map.1 named
    obtain ⟨other, has⟩ := known fact member'
    obtain rfl : other = position := by
      rw [metadataOf_eq has] at same
      simp only [watermarkOf, List.cons.injEq, Prod.mk.injEq, Json.str.injEq, true_and,
        and_true] at same
      exact Prod.ext same.2 same.1
    exact inside fact (mem_of_mem_firsts member') other has
  rw [nextCursor_spec noted fun position member => back position (known' position member)]
  by_cases empty : held.toList ++ positions = []
  · rw [if_pos empty]
    exact ⟨none, rfl, none, rfl, fun position member => by cases member⟩
  · rw [if_neg empty]
    refine ⟨_, rfl, some (latestPosition (held.toList ++ positions)), rfl, ?_⟩
    rintro position ⟨⟩
    rcases List.mem_append.1 (latestPosition_mem empty) with old | new
    · exact known' _ (Option.mem_toList.1 old)
    · exact within _ new

/-- The result of fields whose rows are as many. -/
theorem make_eq_ok {fields : FetchFields} {facts : List Object} {response : Response}
    (raw : fields.rawItems = facts.map (adapter.rawEnvelope library response))
    (noted : fields.sanitizedMetadata = facts.map BreadthAdapter.metadataOf)
    (none : fields.displayProjections = []) (factual : fields.factualProjections = facts) :
    ∃ result : ProviderFetchResult, ProviderFetchResult.make fields = .ok result ∧
      result.toFetchFields = fields := by
  have metadata : fields.rawItems.length = fields.sanitizedMetadata.length := by
    rw [raw, noted, List.length_map, List.length_map]
  have counted : fields.rawItems.length = fields.factualProjections.length := by
    rw [raw, factual, List.length_map]
  unfold ProviderFetchResult.make
  rw [dif_pos metadata, dif_pos (.inl none), dif_pos (.inr counted)]
  exact ⟨_, rfl, rfl⟩

/-- The fields of the result of a page that is read. -/
theorem Ready.reads (ready : Ready library digest adapter written config lineage limit state request)
    (back : ReadsBack library reader written)
    {transport : Sent → Transported} {sent : Sent} {response : Response} {page : Page}
    {checked : Rows} {continuation : Option Object}
    (asked : params adapter.provider adapter.operation config limit (statePage state)
      (stateOffset state) state = .ok sent) (safe : sent.isSafe library = true)
    (answers : transport sent = .answered response)
    (good : statusError response.statusCode none = none)
    (read : payloads (rowRules library) adapter.provider adapter.operation response.body config
      limit.toNat (statePage state) (stateOffset state) state [] = .ok page)
    (valid : Checked library adapter page.payloads checked)
    (inside : PositionsIn written checked.payloads)
    (continued : adapter.continuationAfter digest (preparedAt config lineage state sent) page =
      .ok continuation) :
    ∃ result, adapter.fetch library digest reader.loads transport request = .ok result ∧
      ResultOf page.rejected checked result ∧ Carries library written result.nextCursor ∧
      result.hasMore = (page.more &&
        !adapter.isIncomplete (preparedAt config lineage state sent) page) ∧
      result.coverageIncomplete = adapter.isIncomplete (preparedAt config lineage state sent) page ∧
      result.continuation = continuation := by
  obtain ⟨stands, carries, rfl⟩ := ready
  have facts : adapter.factsOf library page =
      .ok ⟨firsts identityOf checked.payloads, page.rejected ++ checked.rejected⟩ :=
    factsOf_eq_ok.2 ⟨checked, valid, rfl⟩
  obtain ⟨cursor, moved, carries'⟩ := carries.moved back inside (positions_of_factsOf facts)
  obtain ⟨result, made, fields⟩ := @make_eq_ok library adapter
    { rawItems := (firsts identityOf checked.payloads).map (adapter.rawEnvelope library response)
      sanitizedMetadata := (firsts identityOf checked.payloads).map BreadthAdapter.metadataOf
      nextCursor := cursor
      hasMore := page.more && !adapter.isIncomplete (preparedAt config lineage state sent) page
      safeErrors := []
      provider := adapter.provider
      contractVersion := 2
      displayProjections := []
      factualProjections := firsts identityOf checked.payloads
      continuation := continuation
      rejectedRowHashes := page.rejected ++ checked.rejected
      coverageIncomplete := adapter.isIncomplete (preparedAt config lineage state sent) page }
    _ response rfl rfl rfl rfl
  have whole : adapter.readPage library digest reader.loads request
      (preparedAt config lineage state sent) response = .ok result :=
    bind_eq_ok.2 ⟨page, read, bind_eq_ok.2 ⟨_, facts, bind_eq_ok.2 ⟨cursor, moved,
      bind_eq_ok.2 ⟨continuation, continued, made⟩⟩⟩⟩
  refine ⟨result, ?_, ?_, ?_, ?_, ?_, ?_⟩
  · rw [BreadthAdapter.fetch, stands.prepared asked]
    dsimp only
    have sends : sendSafely library transport (preparedAt config lineage state sent).sent =
        .answered response := by
      rw [sendSafely, ← answers]
      exact if_pos safe
    rw [sends]
    dsimp only
    rw [BreadthAdapter.receive, good]
    dsimp only
    rw [whole]
  · exact ⟨by rw [fields], by rw [fields], by rw [fields]⟩
  · rw [fields]
    exact carries'
  · rw [fields]
  · rw [fields]
  · rw [fields]

/-- **One page.** Where the answer can be read, the fetch hands on the facts of its page. The
thousandth page of news apart, it leads to a request at the state behind the page if there is more,
and nowhere if there is not. -/
theorem Ready.fetches
    (ready : Ready library digest adapter written config lineage limit state request)
    (hex : ∀ config, isHash (digest config).toList = true)
    (hashed : ∀ text, (library.sha256 text).length = 64) (back : ReadsBack library reader written)
    {transport : Sent → Transported} {sent : Sent} {response : Response} {page : Page}
    {checked : Rows}
    (asked : params adapter.provider adapter.operation config limit (statePage state)
      (stateOffset state) state = .ok sent) (safe : sent.isSafe library = true)
    (answers : transport sent = .answered response)
    (good : statusError response.statusCode none = none)
    (names : (referenceNames response.body).Nodup)
    (read : payloads (rowRules library) adapter.provider adapter.operation response.body config
      limit.toNat (statePage state) (stateOffset state) state [] = .ok page)
    (valid : Checked library adapter page.payloads checked)
    (inside : PositionsIn written checked.payloads) :
    ∃ result, adapter.fetch library digest reader.loads transport request = .ok result ∧
      ResultOf page.rejected checked result ∧
      (page.more = false → requestBehind request result = none ∧ result.coverageIncomplete = false) ∧
      (page.more = true → adapter.provider = "marketaux" ∧ statePage state = 1000 →
        requestBehind request result = none ∧ result.coverageIncomplete = true) ∧
      (page.more = true → ¬(adapter.provider = "marketaux" ∧ statePage state = 1000) →
        result.coverageIncomplete = false ∧ ∃ next, requestBehind request result = some next ∧
          Ready library digest adapter written config lineage limit page.progress next) := by
  have bounds := ready.limited ▸ ready.stands.limit
  by_cases last : adapter.provider = "marketaux" ∧ statePage state = 1000
  · have incomplete : adapter.isIncomplete (preparedAt config lineage state sent) page =
        page.more := by
      have thousandth : (preparedAt config lineage state sent).page = 1000 := last.2
      simp [BreadthAdapter.isIncomplete, last.1, thousandth]
    have ends : adapter.continuationAfter digest (preparedAt config lineage state sent) page =
        .ok none := by
      rw [BreadthAdapter.continuationAfter, incomplete]
      simp [pure, Except.pure]
    obtain ⟨result, fetched, result_of, -, more, covers, -⟩ :=
      ready.reads back asked safe answers good read valid inside ends
    rw [incomplete] at more covers
    have stops : requestBehind request result = none := by
      rw [requestBehind, more]
      simp
    exact ⟨result, fetched, result_of, fun none => ⟨stops, covers.trans none⟩,
      fun some _ => ⟨stops, covers.trans some⟩, fun _ other => absurd last other⟩
  · have complete : adapter.isIncomplete (preparedAt config lineage state sent) page = false := by
      simp only [BreadthAdapter.isIncomplete, Bool.and_eq_false_iff, beq_eq_false_iff_ne]
      by_cases news : adapter.provider = "marketaux"
      · exact .inl (.inr fun page => last ⟨news, page⟩)
      · exact .inl (.inl news)
    by_cases more : page.more = true
    · have grammar : Grammar adapter.operation config page.progress :=
        progress_grammar hashed ready.stands.resolved (nodup_of_grammar ready.stands.grammar)
          ready.stands.grammar (by omega) names last read more
      have encoded : encodeContinuation digest adapter.provider adapter.operation config lineage
          page.progress = .ok (continuationOf digest adapter.provider adapter.operation config lineage
            page.progress) :=
        (encode_eq_ok_iff ready.stands.resolved (hex config) (nodup_of_grammar grammar)).2
          ⟨rfl, grammar⟩
      have leads : adapter.continuationAfter digest (preparedAt config lineage state sent) page =
          .ok (some (continuationOf digest adapter.provider adapter.operation config lineage
            page.progress)) := by
        rw [BreadthAdapter.continuationAfter, complete, more]
        exact bind_eq_ok.2 ⟨_, encoded, rfl⟩
      obtain ⟨result, fetched, result_of, carries, has, covers, value⟩ :=
        ready.reads back asked safe answers good read valid inside leads
      rw [complete, more] at has
      have behind : requestBehind request result = some
          { request with cursor := result.nextCursor, continuation := result.continuation } := by
        rw [requestBehind, has]
        rfl
      refine ⟨result, fetched, result_of, fun none => ?_, fun _ first => absurd first last, fun _ _ =>
        ⟨covers.trans complete, _, behind, ?_, carries, ready.limited⟩⟩
      · rw [more] at none
        cases none
      · rw [value]
        exact ready.stands.moved hex encoded grammar _
    · rw [Bool.not_eq_true] at more
      have ends : adapter.continuationAfter digest (preparedAt config lineage state sent) page =
        .ok none := by
        rw [BreadthAdapter.continuationAfter, more]
        rfl
      obtain ⟨result, fetched, result_of, -, has, covers, -⟩ :=
        ready.reads back asked safe answers good read valid inside ends
      rw [more, Bool.false_and] at has
      refine ⟨result, fetched, result_of, fun _ => ⟨by rw [requestBehind, has]; rfl,
        covers.trans complete⟩, fun some => ?_, fun some => ?_⟩
      · rw [more] at some
        cases some
      · rw [more] at some
        cases some

end Pages

/-! ### A reader of some cursors -/

section Readers

/-- The text of a cursor, which is the same whatever the library. -/
def cursorText (position : String × String) : String :=
  "\x7b\"provider_item_id\": " ++ quoted position.2 ++ ", \"published_at\": " ++ quoted position.1 ++
    "\x7d"

/-- What reads the cursors of these positions. -/
def readerOf (positions : List (String × String)) : Collection.Reader where
  loads text :=
    orRaise ((positions.find? fun position => cursorText position == text).map fun position =>
      .obj (watermarkOf position)) .valueError "Expecting value"
  str _ := ""

theorem readerOf_reads {positions : List (String × String)} (distinct : (positions.map cursorText).Nodup)
    (library : StandardLibrary) :
    ReadsBack library (readerOf positions) {position | position ∈ positions} := by
  intro position member
  rw [watermarkText_eq]
  refine orRaise_eq_ok.2 (Option.map_eq_some_iff.2 ⟨position, ?_, rfl⟩)
  cases found : positions.find? fun other => cursorText other == cursorText position with
  | none => exact absurd (BEq.refl (cursorText position)) (List.find?_eq_none.1 found position member)
  | some other =>
      have same : cursorText other = cursorText position := by simpa using List.find?_some found
      rw [List.inj_on_of_nodup_map distinct (List.mem_of_find?_eq_some found) member same] at found
      exact found

/-- A library that spells numbers, and hashes every text to the hash of none. -/
def numberLibrary : StandardLibrary :=
  { silentLibrary with
    sha256 := fun _ => emptyDigest
    str := fun value => ((value.int?).map toString).getD "" }

end Readers

/-! ### Numbers among the parameters -/

section Numbers

variable {library : StandardLibrary}

/-- A number has no marker with a value. -/
theorem hasSecretValue_number (n : Int) : hasSecretValue (toString n).toList = false := by
  rw [Bool.eq_false_iff]
  intro held
  obtain ⟨word, member, within⟩ := containsAny_iff.1 held
  obtain ⟨marker, -, rfl⟩ := List.mem_map.1 member
  have sign : '=' ∈ (marker ++ "=").toList := by
    rw [String.toList_append]
    exact List.mem_append_right _ (List.mem_singleton.2 rfl)
  obtain ⟨c, inside, same⟩ := List.mem_map.1 (within.subset sign)
  rcases mem_toString_int inside with rfl | digit
  · exact absurd same (by decide)
  · have low : 48 ≤ c.toNat ∧ c.toNat ≤ 57 := by
      simp only [Char.isDigit, Bool.and_eq_true, decide_eq_true_eq] at digit
      exact digit
    have decimal : isDecimal c = true := by
      refine Text.isDecimal_of_isDigit ?_
      simp only [isDigit, Bool.and_eq_true, decide_eq_true_eq]
      omega
    rw [foldCase_of_isDecimal decimal] at same
    subst same
    exact absurd digit (by decide)

/-- Only numbers have been added: what is sent stays safe. -/
theorem isSafe_of_numbers (numbers : ∀ n : Int, library.str (.int n) = toString n) {sent other : Sent}
    (safe : sent.isSafe library = true)
    (added : ∀ entry ∈ other.params, entry ∈ sent.params ∨
      entry.1 ∉ secretFields ∧ ∃ n : Int, entry.2 = .int n) :
    other.isSafe library = true := by
  rw [Sent.isSafe, Bool.not_eq_true', List.any_eq_false] at safe ⊢
  intro entry member
  rcases added entry member with old | ⟨plain, n, value⟩
  · exact safe entry old
  · have clean : hasSecretValue (strOf library entry.2).toList = false := by
      rw [value]
      show hasSecretValue (library.str (.int n)).toList = false
      rw [numbers, hasSecretValue_number]
    simp [plain, clean]

end Numbers

/-! ### Rows that are read in pieces -/

section Pieces

variable {library : StandardLibrary} {adapter : BreadthAdapter} {written : Set (String × String)}
  {α : Type} {step : Rows → α → Result Rows} {first second : List α} {whole checked : Rows}

/-- **Rows that can be read**: every row is taken or rejected, and what is taken is valid. -/
structure Legible (library : StandardLibrary) (adapter : BreadthAdapter)
    (written : Set (String × String)) (step : Rows → α → Result Rows) (rows : List α)
    (whole checked : Rows) : Prop where
  read : readRows step rows = .ok whole
  valid : Checked library adapter whole.payloads checked
  inside : PositionsIn written checked.payloads

/-- The parts of rows that can be read can be read. -/
theorem Legible.parts (adds : ∀ item, Adds fun rows => step rows item)
    (legible : Legible library adapter written step (first ++ second) whole checked) :
    ∃ front valid back valid', Legible library adapter written step first front valid ∧
      Legible library adapter written step second back valid' ∧ whole = front.append back ∧
      checked = valid.append valid' := by
  obtain ⟨all, every, inside⟩ := legible
  obtain ⟨front, back, read, read', rfl⟩ := (readRows_append adds).1 all
  obtain ⟨checked, checked', valid, valid', rfl⟩ := every.parts
  refine ⟨front, checked, back, checked', ⟨read, valid, fun fact member => ?_⟩,
    ⟨read', valid', fun fact member => ?_⟩, rfl, rfl⟩
  · exact inside fact (List.mem_append_left _ member)
  · exact inside fact (List.mem_append_right _ member)

/-- The time and the identity of a fact, as texts. -/
def textsOf (fact : Object) : String × String := (strAt fact "published_at", identityOf fact)

theorem textsOf_eq {fact : Object} {position : String × String} (has : HasPosition fact position) :
    textsOf fact = position := by
  rw [textsOf, identityOf_eq has.2.1, strAt, has.1]
  rfl

/-- The positions of the facts of rows, if they can be read. -/
def legiblePositions (library : StandardLibrary) (adapter : BreadthAdapter)
    (step : Rows → α → Result Rows) (rows : List α) : Option (List (String × String)) := do
  let whole ← (readRows step rows).toOption
  let checked ← (checkedRows library adapter whole.payloads).toOption
  let _ ← (deduplicate (rowRules library) checked.payloads []).toOption
  some (checked.payloads.map textsOf)

theorem toOption_eq_some {ε β : Type} {result : Except ε β} {value : β} :
    result.toOption = some value ↔ result = .ok value := by
  cases result with
  | error raised => simp [Except.toOption]
  | ok other => simp [Except.toOption]

/-- Rows with such positions can be read. -/
theorem exists_legible {rows : List α} {positions : List (String × String)}
    (seen : legiblePositions library adapter step rows = some positions)
    (inside : ∀ position ∈ positions, position ∈ written) :
    ∃ whole checked, Legible library adapter written step rows whole checked ∧
      checked.payloads.map textsOf = positions := by
  simp only [legiblePositions, Option.bind_eq_bind, Option.bind_eq_some_iff, toOption_eq_some,
    Option.some.injEq] at seen
  obtain ⟨whole, read, checked, valid, kept, distinct, rfl⟩ := seen
  refine ⟨whole, checked, ⟨read, ⟨valid, (deduplicate_eq_ok.1 distinct).1⟩, ?_⟩, rfl⟩
  intro fact member position has
  exact inside position (textsOf_eq has ▸ List.mem_map_of_mem member)

/-- What a piece of the rows gives. -/
def Gives (library : StandardLibrary) (adapter : BreadthAdapter) (step : Rows → α → Result Rows)
    (piece : List α) (result : ProviderFetchResult) : Prop :=
  ∃ read checked, readRows step piece = .ok read ∧ Checked library adapter read.payloads checked ∧
    ResultOf read.rejected checked result

/-- **What the results of the pieces come to**: the facts of the rows, the first of each identity, and
the hashes of all that are rejected. -/
theorem gathered (adds : ∀ item, Adds fun rows => step rows item) {pieces : List (List α)}
    {results : List ProviderFetchResult}
    (given : List.Forall₂ (Gives library adapter step) pieces results)
    (legible : Legible library adapter written step pieces.flatten whole checked) :
    (∀ result ∈ results, result.safeErrors = []) ∧
      firsts identityOf (results.flatMap fun result => result.factualProjections) =
        firsts identityOf checked.payloads ∧
      (results.flatMap fun result => result.rejectedRowHashes).Perm
        (whole.rejected ++ checked.rejected) := by
  induction given generalizing whole checked with
  | nil =>
      obtain rfl := Except.ok.inj legible.read
      obtain rfl := Except.ok.inj legible.valid.1
      exact ⟨List.forall_mem_nil _, rfl, .refl _⟩
  | cons gives _ ih =>
      rw [List.flatten_cons] at legible
      obtain ⟨front, valid, back, valid', one, rest, rfl, rfl⟩ := legible.parts adds
      obtain ⟨read, checked, same, same', of⟩ := gives
      obtain rfl := Except.ok.inj (one.read.symm.trans same)
      obtain rfl := Except.ok.inj (one.valid.1.symm.trans same'.1)
      obtain ⟨clean, facts, rejected⟩ := ih rest
      refine ⟨List.forall_mem_cons.2 ⟨of.clean, clean⟩, ?_, ?_⟩
      · rw [List.flatMap_cons, of.facts]
        exact firsts_append_congr firsts_firsts facts
      · rw [List.flatMap_cons, of.rejected]
        show ((front.rejected ++ valid.rejected) ++ _).Perm
          ((front.rejected ++ back.rejected) ++ (valid.rejected ++ valid'.rejected))
        rw [List.append_assoc, List.append_assoc]
        refine List.Perm.append_left _ ?_
        exact (rejected.append_left _).trans (List.perm_append_comm_assoc _ _ _)

/-- What a piece of payloads gives, of a page that has rejected such rows. -/
def GivesFacts (library : StandardLibrary) (adapter : BreadthAdapter) (rejects : List String → Prop)
    (piece : List Object) (result : ProviderFetchResult) : Prop :=
  ∃ rejected checked, rejects rejected ∧ Checked library adapter piece checked ∧
    ResultOf rejected checked result

/-- **What the results of pieces of payloads come to**: their facts, and, behind the rows each page has
rejected, the hashes of the payloads that are not valid. -/
theorem gathered_payloads {rejects : List String → Prop} {pieces : List (List Object)}
    {results : List ProviderFetchResult}
    (given : List.Forall₂ (GivesFacts library adapter rejects) pieces results)
    (valid : Checked library adapter pieces.flatten checked) :
    (∀ result ∈ results, result.safeErrors = []) ∧
      firsts identityOf (results.flatMap fun result => result.factualProjections) =
        firsts identityOf checked.payloads ∧
      ∃ parts : List (List String), parts.flatten = checked.rejected ∧
        List.Forall₂ (fun part result => ∃ rejected, rejects rejected ∧
          result.rejectedRowHashes = rejected ++ part) parts results := by
  induction given generalizing checked with
  | nil =>
      obtain rfl := Except.ok.inj valid.1
      exact ⟨List.forall_mem_nil _, rfl, [], rfl, .nil⟩
  | cons gives _ ih =>
      rw [List.flatten_cons] at valid
      obtain ⟨front, back, one, rest, rfl⟩ := valid.parts
      obtain ⟨rejected, other, allowed, same, of⟩ := gives
      obtain rfl := Except.ok.inj (one.1.symm.trans same.1)
      obtain ⟨clean, facts, parts, whole, each⟩ := ih rest
      refine ⟨List.forall_mem_cons.2 ⟨of.clean, clean⟩, ?_, front.rejected :: parts, ?_,
        .cons ⟨rejected, allowed, of.rejected⟩ each⟩
      · rw [List.flatMap_cons, of.facts]
        exact firsts_append_congr firsts_firsts facts
      · rw [List.flatten_cons, whole]
        rfl

end Pieces

end NewsCollect.Providers
