/-
**Series are read to their end.**

A provider of series has a list of rows and hands out a piece of it from an offset on. The adapter asks
for one piece after the other: each begins where the one before has ended, and the last one is the first
that reaches the end.

* `serveSeries`: a provider that serves a list of rows by offset.
* `eiaPayloads_serve`: what the adapter makes of its answer.
* `series_gathered`: **every row is read once.** The results of a run come to the facts of all rows,
  whatever the size of a page.
-/

import NewsCollect.Proof.Traversals

namespace NewsCollect.Providers

open Collection Firsts Paging SafeProjection Text

/-! ### The provider -/

/-- **A provider of series**: it hands out as many rows as it is asked for, from an offset on. -/
def serveSeries (receivedAt : Int) (rows : List Json) (sent : Sent) : Transported :=
  .answered ⟨200, none, receivedAt, .obj [("response", .obj [("total", .int rows.length),
    ("data", .arr ((rows.drop (intAt sent.params "offset").toNat).take
      (intAt sent.params "length").toNat))])]⟩

section Series

variable {library : StandardLibrary} {digest : Object → String} {reader : Collection.Reader}
  {adapter : BreadthAdapter} {written : Set (String × String)} {request : ProviderFetchRequest}
  {config state : Object} {lineage : ContinuationLineage} {limit : Int} {operation : String}
  {rows : List Json} {whole checked : Rows}

/-- The two operations on series. -/
def IsSeries (adapter : BreadthAdapter) : Prop :=
  adapter.provider = "eia" ∧ (adapter.operation = "electricity_retail_sales" ∨
    adapter.operation = "electricity_rto_region_data")

theorem offset_plain : "offset" ∉ secretFields := by decide

/-- What is sent at an offset: the parameters differ in that one number. -/
theorem exists_seriesParams (series : IsSeries adapter) (config : Object) (limit : Int) :
    ∃ sent : Int → Sent,
      (∀ page offset state, params adapter.provider adapter.operation config limit page offset state =
        .ok (sent offset)) ∧
      (∀ offset, intAt (sent offset).params "offset" = offset ∧
        intAt (sent offset).params "length" = limit) ∧
      ∀ offset offset', ∀ entry ∈ (sent offset).params, entry ∈ (sent offset').params ∨
        entry.1 ∉ secretFields ∧ ∃ n : Int, entry.2 = .int n := by
  obtain ⟨eia, retail | rto⟩ := series
  · refine ⟨fun offset => ⟨adapter.operation, retailParams config limit offset⟩, ?_, ?_, ?_⟩
    · intro page offset state
      simp [params, eia, retail, pure, Except.pure]
    · exact fun offset => ⟨rfl, rfl⟩
    · intro offset offset' entry member
      simp only [retailParams, List.mem_append, List.mem_cons, List.not_mem_nil, or_false] at member ⊢
      rcases member with ((rfl | rfl | rfl | rfl | rest) | first) | last
      · simp
      · simp
      · exact .inr ⟨offset_plain, offset, rfl⟩
      · simp
      · exact .inl (.inl (.inl (.inr (.inr (.inr (.inr rest))))))
      · exact .inl (.inl (.inr first))
      · exact .inl (.inr last)
  · refine ⟨fun offset => ⟨"electricity_rto_region_data", rtoParams config limit offset⟩, ?_, ?_, ?_⟩
    · intro page offset state
      simp [params, eia, rto, pure, Except.pure]
    · exact fun offset => ⟨rfl, rfl⟩
    · intro offset offset' entry member
      simp only [rtoParams, List.mem_append, List.mem_cons, List.not_mem_nil, or_false] at member ⊢
      rcases member with ((rfl | rfl | rfl | rfl | rfl | rest) | first) | last
      · simp
      · simp
      · simp
      · simp
      · exact .inr ⟨offset_plain, offset, rfl⟩
      · exact .inl (.inl (.inl (.inr (.inr (.inr (.inr (.inr rest)))))))
      · exact .inl (.inl (.inr first))
      · exact .inl (.inr last)

/-- **What the adapter makes of the answer.** -/
theorem eiaPayloads_serve {rules : RowRules} {limit offset : Nat} {read : Rows} (positive : 1 ≤ limit)
    (few : rows.length ≤ 10000000) (within : offset ≤ rows.length)
    (piece : readRows (eiaRow rules operation config) ((rows.drop offset).take limit) = .ok read) :
    eiaPayloads rules operation (.obj [("response", .obj [("total", .int rows.length),
      ("data", .arr ((rows.drop offset).take limit))])]) config limit offset [] =
      .ok ⟨read.payloads, offset + limit < rows.length,
        [("offset", .int (offset + ((rows.drop offset).take limit).length : ℕ))], read.rejected⟩ := by
  have long : ((rows.drop offset).take limit).length = min limit (rows.length - offset) := by
    rw [List.length_take, List.length_drop]
  refine bind_eq_ok.2 ⟨_, rfl, bind_eq_ok.2 ⟨_, rfl, ?_⟩⟩
  refine check_eq_ok.2 ⟨require_eq_ok.2 (decide_eq_true (by omega)), bind_eq_ok.2 ⟨read, piece, ?_⟩⟩
  show eiaPage read ((rows.drop offset).take limit).length offset (some (rows.length : Int)) = _
  simp only [eiaPage, check_eq_ok, require_eq_ok, pure_eq_ok, Bool.and_eq_true, decide_eq_true_eq,
    Bool.not_eq_true', Bool.and_eq_false_iff, Bool.or_eq_false_iff, decide_eq_false_iff_not,
    beq_eq_false_iff_ne]
  refine ⟨⟨by omega, by omega⟩, ⟨by omega, by omega⟩, by omega, ?_⟩
  congr 1
  rw [decide_eq_decide]
  omega

/-- The request at an offset, with the rows that are left. -/
structure AtOffset (library : StandardLibrary) (digest : Object → String) (adapter : BreadthAdapter)
    (written : Set (String × String)) (config : Object) (lineage : ContinuationLineage) (limit : Int)
    (rows : List Json) (offset : Nat) (request : ProviderFetchRequest) : Prop where
  ready : ∃ state, stateOffset state = offset ∧
    Ready library digest adapter written config lineage limit state request
  within : offset ≤ rows.length
  legible : ∃ whole checked, Legible library adapter written
    (eiaRow (rowRules library) adapter.operation config) (rows.drop offset) whole checked

/-- **One page of a series**: it has the rows from the offset on, and the rest is behind it. -/
theorem AtOffset.fetches (series : IsSeries adapter)
    (hex : ∀ config, isHash (digest config).toList = true)
    (hashed : ∀ text, (library.sha256 text).length = 64) (back : ReadsBack library reader written)
    {receivedAt : Int} {sent : Int → Sent}
    (asked : ∀ page offset state, params adapter.provider adapter.operation config limit page offset
      state = .ok (sent offset))
    (spelled : ∀ offset, intAt (sent offset).params "offset" = offset ∧
      intAt (sent offset).params "length" = limit)
    (safe : ∀ offset, (sent offset).isSafe library = true) (few : rows.length ≤ 10000000)
    {offset : Nat} (at_offset : AtOffset library digest adapter written config lineage limit rows offset
      request) :
    ∃ result piece, (pageReader library digest reader.loads adapter (serveSeries receivedAt rows)).fetch
        request = .ok result ∧
      (Gives library adapter (eiaRow (rowRules library) adapter.operation config) piece result ∧
        result.coverageIncomplete = false) ∧
      ((requestBehind request result = none ∧ True) ∧ rows.drop offset = piece ∨
        ∃ next offset', requestBehind request result = some next ∧
          AtOffset library digest adapter written config lineage limit rows offset' next ∧
          rows.drop offset = piece ++ rows.drop offset' ∧
          (rows.length - offset' - 1) / limit.toNat < (rows.length - offset - 1) / limit.toNat) := by
  obtain ⟨⟨state, here, ready⟩, within, whole, checked, legible⟩ := at_offset
  have bounds := ready.limited ▸ ready.stands.limit
  have parts : (rows.drop offset).take limit.toNat ++ rows.drop (offset + limit.toNat) =
      rows.drop offset := by
    rw [← List.drop_drop, List.take_append_drop]
  rw [← parts] at legible
  obtain ⟨read, valid, rest, valid', one, other, -, -⟩ := legible.parts adds_eiaRow
  have notNews : ¬(adapter.provider = "marketaux" ∧ statePage state = 1000) := by
    rw [series.1]
    simp
  have answers : serveSeries receivedAt rows (sent (stateOffset state)) =
      .answered ⟨200, none, receivedAt, .obj [("response", .obj [("total", .int rows.length),
        ("data", .arr ((rows.drop offset).take limit.toNat))])]⟩ := by
    rw [serveSeries, (spelled _).1, (spelled _).2, here, Int.toNat_natCast]
  have page : payloads (rowRules library) adapter.provider adapter.operation
      (.obj [("response", .obj [("total", .int rows.length),
        ("data", .arr ((rows.drop offset).take limit.toNat))])]) config limit.toNat (statePage state)
      (stateOffset state) state [] = .ok ⟨read.payloads, offset + limit.toNat < rows.length,
        [("offset", .int (offset + ((rows.drop offset).take limit.toNat).length : ℕ))],
        read.rejected⟩ := by
    rw [here, ← eiaPayloads_serve (by omega) few within one.read, series.1]
    rfl
  obtain ⟨result, fetched, of, ends, -, leads⟩ := ready.fetches hex hashed back (asked _ _ _)
    (safe _) answers rfl List.nodup_nil page one.valid one.inside
  have gives : Gives library adapter (eiaRow (rowRules library) adapter.operation config)
      ((rows.drop offset).take limit.toNat) result := ⟨read, valid, one.read, one.valid, of⟩
  by_cases more : offset + limit.toNat < rows.length
  · obtain ⟨covers, next, behind, ready'⟩ := leads (decide_eq_true more) notNews
    have long : ((rows.drop offset).take limit.toNat).length = limit.toNat := by
      rw [List.length_take, List.length_drop]
      omega
    rw [long] at ready'
    refine ⟨result, _, fetched, ⟨gives, covers⟩, .inr ⟨next, offset + limit.toNat, behind,
      ⟨⟨_, rfl, ready'⟩, more.le, rest, valid', other⟩, parts.symm, ?_⟩⟩
    have less : limit.toNat ≤ rows.length - offset - 1 := by omega
    have fewer : rows.length - (offset + limit.toNat) - 1 = rows.length - offset - 1 - limit.toNat := by
      omega
    rw [fewer, Nat.div_eq_sub_div (by omega) less]
    exact Nat.lt_succ_self _
  · obtain ⟨stops, covers⟩ := ends (decide_eq_false more)
    refine ⟨result, _, fetched, ⟨gives, covers⟩, .inl ⟨⟨stops, trivial⟩, ?_⟩⟩
    rw [List.take_of_length_le]
    rw [List.length_drop]
    omega

/-- **Series are read to their end.** Where all rows of the provider can be read, the run of a window
asks for no more pages than they fill, meets no error, and gives the facts of all rows and the hashes
of all that are rejected, each row read once, whatever the size of a page. -/
theorem series_gathered (series : IsSeries adapter)
    (hex : ∀ config, isHash (digest config).toList = true)
    (hashed : ∀ text, (library.sha256 text).length = 64) (back : ReadsBack library reader written)
    (numbers : ∀ n : Int, library.str (.int n) = toString n) {receivedAt : Int} {prepared : Prepared}
    (ready : adapter.prepare digest request = .ok prepared) (start : prepared.state = [])
    (safe : prepared.sent.isSafe library = true) (carries : Carries library written request.cursor)
    (few : rows.length ≤ 10000000)
    (legible : Legible library adapter written
      (eiaRow (rowRules library) adapter.operation prepared.config) rows whole checked) :
    ∃ results, Traverses
        (pageReader library digest reader.loads adapter (serveSeries receivedAt rows)) request results ∧
      results.length ≤ (rows.length - 1) / request.limit.toNat + 1 ∧
      (∀ result ∈ results, result.safeErrors = [] ∧ result.coverageIncomplete = false) ∧
      firsts identityOf (results.flatMap fun result => result.factualProjections) =
        firsts identityOf checked.payloads ∧
      (results.flatMap fun result => result.rejectedRowHashes).Perm
        (whole.rejected ++ checked.rejected) := by
  obtain ⟨sent, asked, spelled, alike⟩ := exists_seriesParams series prepared.config request.limit
  have stands := Stands.of_prepare ready start
  have first : prepared.sent = sent (stateOffset []) := by
    have same := stands.prepared (asked _ _ _)
    rw [ready] at same
    exact congrArg Prepared.sent (Except.ok.inj same)
  have every : ∀ offset, (sent offset).isSafe library = true := fun offset =>
    isSafe_of_numbers numbers (first ▸ safe) (alike offset _)
  have starts : AtOffset library digest adapter written prepared.config prepared.lineage request.limit
      rows 0 request :=
    ⟨⟨[], rfl, stands, carries, rfl⟩, Nat.zero_le _, whole, checked, legible⟩
  obtain ⟨results, gathers, short, -⟩ := @exists_gathers _ _ _ _ _
    (pageReader library digest reader.loads adapter (serveSeries receivedAt rows)) _ _
    (fun offset => rows.drop offset) _ _
    (fun offset request here => here.fetches series hex hashed back asked spelled every few)
    0 request starts
  obtain ⟨⟨traverses, pieces, parts, given⟩, complete⟩ := gathers.parts
  have every_row : pieces.flatten = rows := parts
  rw [← every_row] at legible
  obtain ⟨clean, facts, rejected⟩ := gathered adds_eiaRow given legible
  exact ⟨results, traverses, short, fun result member => ⟨clean result member, complete result member⟩,
    facts, rejected⟩

end Series

/-! ### Two months, one a page -/

/-- The prices of January and February, one a page. -/
theorem series_gathered_prices : ∃ results, ∃ checked : Rows,
    Traverses (pageReader numberLibrary (fun _ => oilDigest) (readerOf [january, february]).loads
      priceAdapter (serveSeries 0 [priceRow "2024-01", priceRow "2024-02"]))
      { priceRequest none with limit := 1 } results ∧ results.length ≤ 2 ∧
    checked.payloads.map textsOf = [january, february] ∧
    firsts identityOf (results.flatMap fun result => result.factualProjections) =
      firsts identityOf checked.payloads := by
  have hex : isHash oilDigest.toList = true := by decide +kernel
  have long : emptyDigest.length = 64 := by decide +kernel
  obtain ⟨prepared, ready, start, config, safe⟩ : ∃ prepared,
      priceAdapter.prepare (fun _ => oilDigest) { priceRequest none with limit := 1 } = .ok prepared ∧
        prepared.state = [] ∧ prepared.config = priceConfig ∧
        prepared.sent.isSafe numberLibrary = true := ⟨_, rfl, rfl, rfl, by decide +kernel⟩
  obtain ⟨whole, checked, legible, positions⟩ := @exists_legible numberLibrary priceAdapter
    {position | position ∈ [january, february]} _
    (eiaRow (rowRules numberLibrary) priceAdapter.operation prepared.config)
    [priceRow "2024-01", priceRow "2024-02"] [january, february]
    (by rw [config]; decide +kernel) fun _ => id
  obtain ⟨results, traverses, short, -, facts, -⟩ := @series_gathered numberLibrary
    (fun _ => oilDigest) (readerOf [january, february]) priceAdapter _
    { priceRequest none with limit := 1 } _ whole checked ⟨rfl, .inl rfl⟩ (fun _ => hex)
    (fun _ => long) (readerOf_reads (by decide +kernel) _) (fun _ => rfl) 0 prepared ready start safe
    ⟨none, rfl, fun position member => by cases member⟩ (by decide) legible
  exact ⟨results, checked, traverses, short, positions, facts⟩

end NewsCollect.Providers
