/-
**News is read page by page, up to the thousandth.**

A provider of news has a list of rows and hands out its pages by their numbers. The adapter asks for one
page after the other; where there is more behind the thousandth, the run ends there, and says so.

* `serveNews`: a provider that serves the pages of a list.
* `marketauxPayloads_serve`: what the adapter makes of a page.
* `news_gathered`: **every row of a thousand pages is read once**, and the last result tells whether
  there were more.
-/

import NewsCollect.Proof.Traversals

namespace NewsCollect.Providers

open Collection Firsts Paging SafeProjection Text

/-- **A provider of news**: it hands out the page of this number. -/
def serveNews (receivedAt : Int) (rows : List Json) (sent : Sent) : Transported :=
  .answered ⟨200, none, receivedAt, .obj [("data", .arr
    ((rows.drop ((intAt sent.params "page" - 1) * intAt sent.params "limit").toNat).take
      (intAt sent.params "limit").toNat)), ("meta", .obj [("found", .int rows.length)])]⟩

section News

variable {library : StandardLibrary} {digest : Object → String} {reader : Collection.Reader}
  {adapter : BreadthAdapter} {written : Set (String × String)} {request : ProviderFetchRequest}
  {config state : Object} {lineage : ContinuationLineage} {limit : Int} {rows : List Json}
  {whole checked : Rows}

/-- The operation on news. -/
def IsNews (adapter : BreadthAdapter) : Prop :=
  adapter.provider = "marketaux" ∧ adapter.operation = "news_all"

/-- What is sent for a page: the parameters differ in that one number. -/
theorem exists_newsParams (news : IsNews adapter) (config : Object) (limit : Int) :
    ∃ sent : Int → Sent,
      (∀ page offset state, params adapter.provider adapter.operation config limit page offset state =
        .ok (sent page)) ∧
      (∀ page, intAt (sent page).params "page" = page ∧ intAt (sent page).params "limit" = limit) ∧
      ∀ page page', ∀ entry ∈ (sent page).params, entry ∈ (sent page').params ∨
        entry.1 ∉ secretFields ∧ ∃ n : Int, entry.2 = .int n := by
  have plain : "page" ∉ secretFields := by decide
  refine ⟨fun page => ⟨"news_all", marketauxParams config limit page⟩, ?_, ?_, ?_⟩
  · intro page offset state
    simp [params, news.1, pure, Except.pure]
  · exact fun page => ⟨rfl, rfl⟩
  · intro page page' entry member
    simp only [marketauxParams, List.mem_append, List.mem_cons, List.not_mem_nil, or_false] at member ⊢
    rcases member with ((rfl | rfl | rfl | rest) | first) | last
    · simp
    · simp
    · exact .inr ⟨plain, page, rfl⟩
    · exact .inl (.inl (.inl (.inr (.inr (.inr rest)))))
    · exact .inl (.inl (.inr first))
    · exact .inl (.inr last)

/-- **What the adapter makes of a page.** -/
theorem marketauxPayloads_serve {rules : RowRules} {limit read : Nat} {taken : Rows}
    (positive : 1 ≤ limit) (few : rows.length ≤ 10000000) (within : read * limit ≤ rows.length)
    (piece : readRows (marketauxRow rules config) ((rows.drop (read * limit)).take limit) = .ok taken) :
    marketauxPayloads rules (.obj [("data", .arr ((rows.drop (read * limit)).take limit)),
      ("meta", .obj [("found", .int rows.length)])]) config limit (read + 1) [] =
      .ok ⟨taken.payloads, (read + 1) * limit < rows.length, [("page", .int (read + 1 + 1))],
        taken.rejected⟩ := by
  have long : ((rows.drop (read * limit)).take limit).length =
      min limit (rows.length - read * limit) := by
    rw [List.length_take, List.length_drop]
  have before : ((read : Int) + 1 - 1) * limit = (read * limit : ℕ) := by
    push_cast
    ring
  have next : (read + 1) * limit = read * limit + limit := Nat.succ_mul _ _
  refine bind_eq_ok.2 ⟨_, rfl, ?_⟩
  refine check_eq_ok.2 ⟨require_eq_ok.2 (decide_eq_true (by omega)), bind_eq_ok.2 ⟨taken, piece, ?_⟩⟩
  show marketauxPage taken ((rows.drop (read * limit)).take limit).length limit (read + 1)
    (some (rows.length : Int)) = _
  simp only [marketauxPage, check_eq_ok, require_eq_ok, pure_eq_ok, Bool.and_eq_true,
    decide_eq_true_eq, Bool.not_eq_true', Bool.and_eq_false_iff, Bool.or_eq_false_iff,
    decide_eq_false_iff_not, beq_eq_false_iff_ne, before, next]
  refine ⟨⟨by omega, by omega⟩, ⟨by omega, by omega⟩, ?_, ?_⟩
  · by_cases more : ((read * limit : ℕ) : Int) +
        (((rows.drop (read * limit)).take limit).length : ℕ) < (rows.length : ℕ)
    · exact .inr (not_not_intro (by omega))
    · exact .inl more
  · congr 1
    rw [decide_eq_decide]
    omega

/-- The request for a page, with the rows that are left. -/
structure AtPage (library : StandardLibrary) (digest : Object → String) (adapter : BreadthAdapter)
    (written : Set (String × String)) (config : Object) (lineage : ContinuationLineage) (limit : Int)
    (rows : List Json) (read : Nat) (request : ProviderFetchRequest) : Prop where
  ready : ∃ state, statePage state = read + 1 ∧
    Ready library digest adapter written config lineage limit state request
  within : read * limit.toNat ≤ rows.length
  legible : ∃ whole checked, Legible library adapter written
    (marketauxRow (rowRules library) config)
    ((rows.take (1000 * limit.toNat)).drop (read * limit.toNat)) whole checked

/-- **One page of news**: it has the rows behind the pages that have been read. -/
theorem AtPage.fetches (news : IsNews adapter)
    (hex : ∀ config, isHash (digest config).toList = true)
    (hashed : ∀ text, (library.sha256 text).length = 64) (back : ReadsBack library reader written)
    {receivedAt : Int} {sent : Int → Sent}
    (asked : ∀ page offset state, params adapter.provider adapter.operation config limit page offset
      state = .ok (sent page))
    (spelled : ∀ page, intAt (sent page).params "page" = page ∧
      intAt (sent page).params "limit" = limit)
    (safe : ∀ page, (sent page).isSafe library = true) (few : rows.length ≤ 10000000) {read : Nat}
    (at_page : AtPage library digest adapter written config lineage limit rows read request) :
    ∃ result piece, (pageReader library digest reader.loads adapter (serveNews receivedAt rows)).fetch
        request = .ok result ∧
      Gives library adapter (marketauxRow (rowRules library) config) piece result ∧
      ((requestBehind request result = none ∧
          result.coverageIncomplete = decide (1000 * limit.toNat < rows.length)) ∧
          (rows.take (1000 * limit.toNat)).drop (read * limit.toNat) = piece ∨
        ∃ next read', requestBehind request result = some next ∧
          AtPage library digest adapter written config lineage limit rows read' next ∧
          (rows.take (1000 * limit.toNat)).drop (read * limit.toNat) =
            piece ++ (rows.take (1000 * limit.toNat)).drop (read' * limit.toNat) ∧
          999 - read' < 999 - read) := by
  obtain ⟨⟨state, here, ready⟩, within, whole, checked, legible⟩ := at_page
  have bounds := ready.limited ▸ ready.stands.limit
  have pages := statePage_bounds ready.stands.grammar
  have few_pages : read * limit.toNat + limit.toNat ≤ 1000 * limit.toNat := by
    rw [← Nat.succ_mul]
    exact Nat.mul_le_mul_right _ (by omega)
  have parts : (rows.drop (read * limit.toNat)).take limit.toNat ++
      (rows.take (1000 * limit.toNat)).drop ((read + 1) * limit.toNat) =
      (rows.take (1000 * limit.toNat)).drop (read * limit.toNat) := by
    rw [Nat.succ_mul, ← List.drop_drop]
    conv_rhs => rw [← List.take_append_drop limit.toNat (List.drop _ _)]
    congr 1
    rw [List.drop_take, List.take_take]
    congr 1
    omega
  rw [← parts] at legible
  obtain ⟨taken, valid, rest, valid', one, other, -, -⟩ := legible.parts adds_marketauxRow
  have answers : serveNews receivedAt rows (sent (statePage state)) =
      .answered ⟨200, none, receivedAt, .obj [("data", .arr
        ((rows.drop (read * limit.toNat)).take limit.toNat)),
        ("meta", .obj [("found", .int rows.length)])]⟩ := by
    have offset : (((read : Int) + 1 - 1) * limit).toNat = read * limit.toNat := by
      rw [add_sub_cancel_right, Int.toNat_mul (by omega) (by omega), Int.toNat_natCast]
    rw [serveNews, (spelled _).1, (spelled _).2, here, offset]
  have page : payloads (rowRules library) adapter.provider adapter.operation
      (.obj [("data", .arr ((rows.drop (read * limit.toNat)).take limit.toNat)),
        ("meta", .obj [("found", .int rows.length)])]) config limit.toNat (statePage state)
      (stateOffset state) state [] = .ok ⟨taken.payloads, (read + 1) * limit.toNat < rows.length,
        [("page", .int (read + 1 + 1))], taken.rejected⟩ := by
    rw [here, ← marketauxPayloads_serve (by omega) few within one.read, news.1]
    rfl
  obtain ⟨result, fetched, of, ends, stops, leads⟩ := ready.fetches hex hashed back (asked _ _ _)
    (safe _) answers rfl List.nodup_nil page one.valid one.inside
  have gives : Gives library adapter (marketauxRow (rowRules library) config)
      ((rows.drop (read * limit.toNat)).take limit.toNat) result :=
    ⟨taken, valid, one.read, one.valid, of⟩
  by_cases more : (read + 1) * limit.toNat < rows.length
  · by_cases last : read + 1 = 1000
    · obtain ⟨behind, covers⟩ := stops (decide_eq_true more) ⟨news.1, by omega⟩
      refine ⟨result, _, fetched, gives, .inl ⟨⟨behind, ?_⟩, ?_⟩⟩
      · rw [covers, ← last]
        exact (decide_eq_true more).symm
      · have none : (rows.take (1000 * limit.toNat)).drop ((read + 1) * limit.toNat) = [] :=
          List.drop_eq_nil_of_le (by rw [List.length_take, last]; omega)
        rw [← parts, none, List.append_nil]
    · obtain ⟨-, next, behind, ready'⟩ := leads (decide_eq_true more) fun end_ => last (by omega)
      exact ⟨result, _, fetched, gives, .inr ⟨next, read + 1, behind,
        ⟨⟨_, rfl, ready'⟩, more.le, rest, valid', other⟩, parts.symm, by omega⟩⟩
  · obtain ⟨behind, covers⟩ := ends (decide_eq_false more)
    have all : (read + 1) * limit.toNat ≤ 1000 * limit.toNat := Nat.mul_le_mul_right _ (by omega)
    refine ⟨result, _, fetched, gives, .inl ⟨⟨behind, ?_⟩, ?_⟩⟩
    · rw [covers]
      exact (decide_eq_false (by omega)).symm
    · have none : (rows.take (1000 * limit.toNat)).drop ((read + 1) * limit.toNat) = [] :=
        List.drop_eq_nil_of_le (by rw [List.length_take]; omega)
      rw [← parts, none, List.append_nil]

/-- **News is read up to the thousandth page.** Where the rows of those pages can be read, the run of a
window meets no error and gives their facts and the hashes of all that are rejected, each row read
once. Its last result, and no other way, tells that there were more rows. -/
theorem news_gathered (news : IsNews adapter)
    (hex : ∀ config, isHash (digest config).toList = true)
    (hashed : ∀ text, (library.sha256 text).length = 64) (back : ReadsBack library reader written)
    (numbers : ∀ n : Int, library.str (.int n) = toString n) {receivedAt : Int} {prepared : Prepared}
    (ready : adapter.prepare digest request = .ok prepared) (start : prepared.state = [])
    (safe : prepared.sent.isSafe library = true) (carries : Carries library written request.cursor)
    (few : rows.length ≤ 10000000)
    (legible : Legible library adapter written (marketauxRow (rowRules library) prepared.config)
      (rows.take (1000 * request.limit.toNat)) whole checked) :
    ∃ results, Traverses
        (pageReader library digest reader.loads adapter (serveNews receivedAt rows)) request results ∧
      results.length ≤ 1000 ∧ (∀ result ∈ results, result.safeErrors = []) ∧
      firsts identityOf (results.flatMap fun result => result.factualProjections) =
        firsts identityOf checked.payloads ∧
      (results.flatMap fun result => result.rejectedRowHashes).Perm
        (whole.rejected ++ checked.rejected) ∧
      ∃ final, results.getLast? = some final ∧
        final.coverageIncomplete = decide (1000 * request.limit.toNat < rows.length) := by
  obtain ⟨sent, asked, spelled, alike⟩ := exists_newsParams news prepared.config request.limit
  have stands := Stands.of_prepare ready start
  have first : prepared.sent = sent (statePage []) := by
    have same := stands.prepared (asked _ _ _)
    rw [ready] at same
    exact congrArg Prepared.sent (Except.ok.inj same)
  have every : ∀ page, (sent page).isSafe library = true := fun page =>
    isSafe_of_numbers numbers (first ▸ safe) (alike page _)
  have starts : AtPage library digest adapter written prepared.config prepared.lineage request.limit
      rows 0 request :=
    ⟨⟨[], rfl, stands, carries, rfl⟩, by omega, whole, checked, by rw [Nat.zero_mul]; exact legible⟩
  obtain ⟨results, gathers, short, closed⟩ := @exists_gathers _ _ _ _ _
    (pageReader library digest reader.loads adapter (serveNews receivedAt rows)) _ _
    (fun read => (rows.take (1000 * request.limit.toNat)).drop (read * request.limit.toNat)) _ _
    (fun read request here => here.fetches news hex hashed back asked spelled every few)
    0 request starts
  obtain ⟨traverses, pieces, parts, given⟩ := gathers
  have every_row : pieces.flatten = rows.take (1000 * request.limit.toNat) := by
    rw [parts, Nat.zero_mul]
    rfl
  rw [← every_row] at legible
  obtain ⟨clean, facts, rejected⟩ := gathered adds_marketauxRow given legible
  exact ⟨results, traverses, short, clean, facts, rejected, closed⟩

end News

/-! ### Two rows, one a page -/

def newsAdapter : BreadthAdapter := ⟨"marketaux", "news_all", some "MARKETAUX_API_TOKEN"⟩

/-- A row of news. -/
def newsRow (identity published : String) : Json :=
  .obj [("uuid", .str identity), ("published_at", .str published), ("title", .str "Oil")]

/-- The rows of two days. -/
def twoRows : List Json := [newsRow "a1" "2024-01-02T00:00:00Z", newsRow "a2" "2024-01-03T00:00:00Z"]

def twoPositions : List (String × String) :=
  [("2024-01-02T00:00:00+00:00", "a1"), ("2024-01-03T00:00:00+00:00", "a2")]

/-- The two rows, one a page: there are no more. -/
theorem news_gathered_oil : ∃ results, ∃ checked : Rows,
    Traverses (pageReader numberLibrary (fun _ => oilDigest) (readerOf twoPositions).loads newsAdapter
      (serveNews 0 twoRows)) { priceRequest none with limit := 1, config := oilNews } results ∧
    checked.payloads.map textsOf = twoPositions ∧
    firsts identityOf (results.flatMap fun result => result.factualProjections) =
      firsts identityOf checked.payloads ∧
    ∃ final, results.getLast? = some final ∧ final.coverageIncomplete = false := by
  have hex : isHash oilDigest.toList = true := by decide +kernel
  have long : emptyDigest.length = 64 := by decide +kernel
  obtain ⟨prepared, ready, start, config, safe⟩ : ∃ prepared,
      newsAdapter.prepare (fun _ => oilDigest)
          { priceRequest none with limit := 1, config := oilNews } = .ok prepared ∧
        prepared.state = [] ∧ prepared.config = oilNews ∧
        prepared.sent.isSafe numberLibrary = true := ⟨_, rfl, rfl, rfl, by decide +kernel⟩
  obtain ⟨whole, checked, legible, positions⟩ := @exists_legible numberLibrary newsAdapter
    {position | position ∈ twoPositions} _ (marketauxRow (rowRules numberLibrary) prepared.config)
    twoRows twoPositions (by rw [config]; decide +kernel) fun _ => id
  obtain ⟨results, traverses, -, -, facts, -, final, last, covers⟩ := @news_gathered numberLibrary
    (fun _ => oilDigest) (readerOf twoPositions) newsAdapter _
    { priceRequest none with limit := 1, config := oilNews } twoRows whole checked ⟨rfl, rfl⟩
    (fun _ => hex) (fun _ => long) (readerOf_reads (by decide +kernel) _) (fun _ => rfl) 0 prepared
    ready start safe ⟨none, rfl, fun position member => by cases member⟩ (by decide) legible
  exact ⟨results, checked, traverses, positions, facts, final, last, covers⟩

end NewsCollect.Providers
