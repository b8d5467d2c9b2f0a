/-
**The registry and the payloads.**

A configuration the registry accepts is collectable if its values let through every item that the
values of another configuration would. Two grammars describe these values; they agree but for the
queries, symbols and facets listed here.

* `Collectable`: no item is refused, and no request, because of the configuration.
* `Fits`: the condition, on the configuration alone.
* `collectable_iff`: they are the same, for every contract of the registry.
-/

import NewsCollect.Proof.ConfigFits
import NewsCollect.Proof.Windows
import NewsCollect.Providers.SinglePage

namespace NewsCollect.Collection

open Contract Providers SafeProjection Text

variable {library : StandardLibrary}

/-! ### News -/

/-- The payload contract makes a symbol of the text. -/
def SymbolFits (text : String) : Prop :=
  ∃ capitals, upper (collapse text.toList) = some capitals ∧
    SafeProjection.isSymbol capitals = true

/-- The query is not blank and has no address in it. -/
def QueryFits (text : String) : Prop :=
  collapse text.toList ≠ [] ∧ contains "://".toList (collapse text.toList) = false

/-- What both grammars of news configurations have in common. -/
structure NewsShape (config : Object) : Prop where
  safe : isSafe (.obj config) = true
  query : ∃ text, config.get "query" = .str text ∧ text.toList.length ≤ 200
  language : config.get "language" = .null ∨
    ∃ text, config.get "language" = .str text ∧ Providers.isLanguage text.toList = true
  symbols : config.get "symbols" = .null ∨
    ∃ items, config.get "symbols" = .arr items ∧ items.length ≤ 10 ∧
      ∀ item ∈ items, ∃ text, item = .str text ∧ text.toList.length ≤ 20

/-- A text of a safe configuration has a normal form, unless it is blank. -/
theorem textOf_of_isSafe {text : String} {most : Nat} (safe : isSafe (.str text) = true)
    (short : text.toList.length ≤ most) (some : collapse text.toList ≠ []) :
    textOf most (.str text) = .ok (String.ofList (collapse text.toList)) :=
  textOf_eq_ok.2 ⟨text, rfl, rfl, some, Nat.le_trans (length_rejoin_le _) short,
    containsAny_collapse (hasMarker_of_isSafe safe)⟩

theorem query_eq_ok_iff {text : String} (safe : isSafe (.str text) = true)
    (short : text.toList.length ≤ 200) :
    (∃ form, SafeProjection.query (.str text) = .ok form) ↔ QueryFits text := by
  constructor
  · rintro ⟨form, done⟩
    obtain ⟨normalized, read, rest⟩ := bind_eq_ok.1 done
    have plain := require_eq_ok.1 (check_eq_ok.1 rest).1
    obtain ⟨raw, same, rfl, some, -, -⟩ := textOf_eq_ok.1 read
    obtain rfl := Json.str.inj same
    rw [Bool.not_eq_true', String.toList_ofList (l := collapse text.toList)] at plain
    exact ⟨some, plain⟩
  · rintro ⟨some, plain⟩
    have read : textOf 500 (.str text) = .ok (String.ofList (collapse text.toList)) :=
      textOf_of_isSafe safe (by omega) some
    have plain' : contains "://".toList (String.ofList (collapse text.toList)).toList = false := by
      rw [String.toList_ofList (l := collapse text.toList)]
      exact plain
    refine ⟨.str (String.ofList (collapse text.toList)), ?_⟩
    unfold SafeProjection.query
    refine bind_eq_ok.2 ⟨_, read, check_eq_ok.2 ⟨?_, rfl⟩⟩
    rw [plain']
    rfl

theorem symbolOf_eq_ok_iff {text : String} (safe : isSafe (.str text) = true)
    (short : text.toList.length ≤ 20) :
    (∃ form, symbolOf (.str text) = .ok form) ↔ SymbolFits text := by
  constructor
  · rintro ⟨form, done⟩
    obtain ⟨normalized, capitals, read, spelled, holds, -⟩ := symbolOf_eq_ok.1 done
    obtain ⟨raw, same, rfl, -, -, -⟩ := textOf_eq_ok.1 read
    obtain rfl := Json.str.inj same
    rw [String.toList_ofList] at spelled
    exact ⟨capitals, spelled, holds⟩
  · rintro ⟨capitals, spelled, holds⟩
    have some : collapse text.toList ≠ [] := by
      intro blank
      rw [blank] at spelled
      obtain rfl := Option.some.inj spelled
      exact absurd holds (by decide)
    refine ⟨_, symbolOf_eq_ok.2 ⟨_, capitals, textOf_of_isSafe safe short some, ?_, holds, rfl⟩⟩
    rw [String.toList_ofList]
    exact spelled

/-- A language of a configuration is one of the payloads. -/
theorem language_of_isLanguage {text : String} (safe : isSafe (.str text) = true)
    (shape : Providers.isLanguage text.toList = true) :
    ∃ form, SafeProjection.language (.str text) = .ok form := by
  have two : text.toList.length = 2 := length_of_shaped shape
  have small : ∀ c ∈ text.toList, isLower c = true := by
    intro c member
    obtain ⟨held, listed, fits⟩ := exists_of_shaped shape c member
    simp only [List.mem_cons, List.not_mem_nil, or_false, or_self] at listed
    exact listed ▸ fits
  have plain : ∀ c ∈ text.toList, isPlain c = true := by
    intro c member
    simp only [isPlain, small c member, Bool.or_true, Bool.true_or]
  have whole : collapse text.toList = text.toList := rejoin_of_all (noSpace_of_forall plain)
  have some : collapse text.toList ≠ [] := by
    rw [whole]
    exact List.ne_nil_of_length_pos (by omega)
  refine ⟨_, bind_eq_ok.2 ⟨_, textOf_of_isSafe safe (by omega) some, check_eq_ok.2
    ⟨require_eq_ok.2 (SafeProjection.isLanguage_iff.2 ⟨text.toList, [], ?_, ?_, .inl rfl⟩), rfl⟩⟩⟩
  · rw [String.toList_ofList, whole, List.append_nil]
  · simp only [bounded, two, Bool.and_eq_true, decide_eq_true_eq, List.all_eq_true,
      Bool.or_eq_true]
    exact ⟨⟨by decide, by decide⟩, fun c member => .inr (small c member)⟩

theorem isUnsafe_of_isSafe {text : String} (safe : isSafe (.str text) = true) :
    isUnsafe (.str text) = false := by
  rw [isUnsafe_str]
  exact hasMarker_of_isSafe safe

theorem symbols_eq_ok_iff {items : List Json} (safe : isSafe (.arr items) = true)
    (few : items.length ≤ 10)
    (texts : ∀ item ∈ items, ∃ text, item = .str text ∧ text.toList.length ≤ 20) :
    (∃ form, SafeProjection.symbols (.arr items) = .ok form) ↔
      ∀ text, .str text ∈ items → SymbolFits text := by
  constructor
  · rintro ⟨form, done⟩ text member
    rcases symbols_eq_ok done with ⟨null, -⟩ | ⟨all, forms, same, -, -, each⟩
    · exact absurd null nofun
    obtain rfl := Json.arr.inj same
    obtain ⟨text', same, short⟩ := texts _ member
    obtain rfl := Json.str.inj same
    obtain ⟨form, done⟩ := exists_of_forall₂ (List.Forall₂.flip (R := fun form item =>
      symbol item = .ok form) each) _ member
    obtain ⟨symbol, read, -⟩ := map_eq_ok.1 done
    exact (symbolOf_eq_ok_iff (isSafe_item safe _ member) short).1 ⟨symbol, read⟩
  · intro fits
    have each : ∀ items' : List Json, (∀ item ∈ items', item ∈ items) →
        ∃ forms, List.Forall₂ (fun item form => symbol item = .ok form) items' forms := by
      intro items'
      induction items' with
      | nil => exact fun _ => ⟨[], .nil⟩
      | cons item items' ih =>
          intro inside
          obtain ⟨member, rest⟩ := List.forall_mem_cons.1 inside
          obtain ⟨forms, others⟩ := ih rest
          obtain ⟨text, rfl, short⟩ := texts item member
          obtain ⟨form, done⟩ :=
            (symbolOf_eq_ok_iff (isSafe_item safe _ member) short).2 (fits text member)
          exact ⟨.str form :: forms, .cons (map_eq_ok.2 ⟨form, done, rfl⟩) others⟩
    obtain ⟨forms, done⟩ := each items fun item member => member
    refine ⟨.arr forms, check_eq_ok.2 ⟨require_eq_ok.2 ?_, bind_eq_ok.2
      ⟨forms, mapM_eq_ok.2 done, rfl⟩⟩⟩
    rw [Bool.and_eq_true, decide_eq_true_eq, List.all_eq_true]
    refine ⟨few, fun item member => ?_⟩
    obtain ⟨text, rfl, -⟩ := texts item member
    rfl

theorem newsFits_iff {config : Object} (shape : NewsShape config) :
    NewsFits config ↔
      (∀ text, config.get "query" = .str text → QueryFits text) ∧
        ∀ items, config.get "symbols" = .arr items →
          ∀ text, .str text ∈ items → SymbolFits text := by
  have safe := isSafe_get shape.safe
  obtain ⟨query, asked, short⟩ := shape.query
  have queried := query_eq_ok_iff (asked ▸ safe "query") short
  constructor
  · intro fits
    refine ⟨fun text same => ?_, fun items same => ?_⟩
    · obtain rfl := Json.str.inj (asked.symm.trans same)
      exact queried.1 (asked ▸ fits.query)
    · rcases shape.symbols with null | ⟨items', listed, few, texts⟩
      · exact absurd (null.symm.trans same) nofun
      · obtain rfl := Json.arr.inj (listed.symm.trans same)
        exact (symbols_eq_ok_iff (listed ▸ safe "symbols") few texts).1 (listed ▸ fits.symbols)
  · rintro ⟨query', symbols'⟩
    have language : (∃ form, SafeProjection.language (config.get "language") = .ok form) ∧
        isUnsafe (config.get "language") = false := by
      rcases shape.language with null | ⟨text, same, letters⟩
      · rw [null]
        exact ⟨⟨.null, rfl⟩, rfl⟩
      · have kept := safe "language"
        rw [same] at kept ⊢
        exact ⟨language_of_isLanguage kept letters, isUnsafe_of_isSafe kept⟩
    have symbols : (∃ form, SafeProjection.symbols (config.get "symbols") = .ok form) ∧
        isUnsafe (config.get "symbols") = false := by
      rcases shape.symbols with null | ⟨items, listed, few, texts⟩
      · rw [null]
        exact ⟨⟨.null, rfl⟩, rfl⟩
      · have kept := safe "symbols"
        have all := symbols' items listed
        rw [listed] at kept ⊢
        refine ⟨(symbols_eq_ok_iff kept few texts).2 all, Bool.eq_false_iff.2 fun held => ?_⟩
        obtain ⟨item, member, marked⟩ := isUnsafe_arr.1 held
        obtain ⟨text, rfl, -⟩ := texts item member
        exact Bool.false_ne_true ((isUnsafe_of_isSafe (isSafe_item kept _ member)).symm.trans marked)
    exact ⟨asked ▸ queried.2 (query' query asked), language.1, symbols.1,
      by rw [asked]; exact isUnsafe_of_isSafe (asked ▸ safe "query"), language.2, symbols.2⟩

/-! ### Collectable configurations -/

/-- What the registry accepts passes the checks for secrets. -/
theorem validate_eq_ok {contract : OperationContract} {raw config : Object}
    {batch requests pages : Int} (accepted : contract.validate raw batch requests pages = .ok config) :
    isSafe (.obj raw) = true ∧ contract.validator raw = .ok config := by
  obtain ⟨-, rest⟩ := check_eq_ok.1 accepted
  obtain ⟨safe, rest⟩ := check_eq_ok.1 rest
  exact ⟨require_eq_ok.1 safe, rest⟩

/-- **A configuration is collectable**: an item that is accepted under the values of some
configuration is accepted under its values, and the adapter sends a request for it. -/
structure Collectable (library : StandardLibrary) (contract : OperationContract) (config : Object) :
    Prop where
  news : contract.provider = "marketaux" →
    (contract.providerContractVersion = 1 → marketauxConfigError library config = none) ∧
    ∀ item, (∃ other, Accepts library "marketaux" "news_all" (marketauxPayload other item)) →
      Accepts library "marketaux" "news_all" (marketauxPayload config item)
  quotes : contract.operationKey = "quote" → ∃ name, quoteSymbol config = some name ∧
    ∀ published seconds body,
      (∃ other, Accepts library "finnhub" "quote" (quotePayload other published seconds body)) →
        Accepts library "finnhub" "quote" (quotePayload (upperText name) published seconds body)
  companyNews : contract.operationKey = "company_news" → ∀ row url identity published,
    (∃ other, Accepts library "finnhub" "company_news"
        (companyNewsPayload other row url identity published)) →
      Accepts library "finnhub" "company_news"
        (companyNewsPayload config row url identity published)
  snapshots : contract.operationKey = "electricity_retail_sales" →
    contract.providerContractVersion = 1 →
      (config.get "dataset").eq (.str "electricity") = true
  prices : contract.operationKey = "electricity_retail_sales" →
    contract.providerContractVersion = 2 →
    ∀ geographies sectors, config.get "geographies" = .arr geographies →
    config.get "sectors" = .arr sectors → ∀ geography sector, .str geography ∈ geographies →
    .str sector ∈ sectors → ∀ published period value unit,
      (∃ geography' sector' series', Accepts library "eia" "electricity_retail_sales"
        (retailPayload published series' period geography' sector' value unit)) →
      ∃ series, eiaSeriesIdentity (.str geography) (.str sector) (.str "price") = .ok series ∧
        Accepts library "eia" "electricity_retail_sales"
          (retailPayload published series period geography sector value unit)
  hours : contract.operationKey = "electricity_rto_region_data" →
    ∀ regions types, config.get "regions" = .arr regions → config.get "types" = .arr types →
    ∀ region metric, .str region ∈ regions → .str metric ∈ types → ∀ period value unit,
      (∃ region' metric' series', Accepts library "eia" "electricity_rto_region_data"
        (rtoPayload library.sha256 "electricity_rto_region_data" series' period region' metric'
          value unit)) →
      ∃ series, rtoSeriesIdentity region metric = .ok series ∧
        Accepts library "eia" "electricity_rto_region_data"
          (rtoPayload library.sha256 "electricity_rto_region_data" series period region metric
            value unit)
  recentFilings : contract.provider = "sec_edgar" → contract.providerContractVersion = 1 →
    ∃ ticker cik, filerOf config = some (ticker, cik) ∧
    ∀ published accession date form document,
      (∃ cik' ticker', IsFiler cik' ∧ Accepts library "sec_edgar" "submissions_recent"
        (filing library cik' ticker' published accession date form document none)) →
      Accepts library "sec_edgar" "submissions_recent"
        (filing library (String.ofList (zfill 10 cik.toList)) (.str (upperText ticker)) published
          accession date form document none)
  filings : contract.provider = "sec_edgar" → contract.providerContractVersion = 2 →
    ∃ cik, config.get "cik" = .str cik ∧
    ∀ published accession date form document file,
      (∃ cik' ticker', IsFiler cik' ∧ Accepts library "sec_edgar" "submissions_recent"
        (filing library cik' ticker' published accession date form document (some file))) →
      Accepts library "sec_edgar" "submissions_recent"
        (filing library cik (config.get "ticker") published accession date form document
          (some file))

/-- **A configuration fits its operation**: the condition on its values. -/
structure Fits (library : StandardLibrary) (contract : OperationContract) (config : Object) : Prop where
  query : contract.provider = "marketaux" → ∀ text, config.get "query" = .str text → QueryFits text
  symbols : contract.provider = "marketaux" → ∀ items, config.get "symbols" = .arr items →
    ∀ text, .str text ∈ items → SymbolFits text
  texts : contract.provider = "marketaux" → contract.providerContractVersion = 1 →
    ∀ entry ∈ config, hasMarker (strOf library entry.2) = false
  symbol : contract.operationKey = "quote" →
    isShaped SafeProjection.isSymbol (config.get "symbol") = true
  facets : contract.operationKey = "electricity_retail_sales" →
    contract.providerContractVersion = 2 → ∀ key ∈ ["geographies", "sectors"],
      ∀ items, config.get key = .arr items → ∀ facet, .str facet ∈ items → FacetFits facet
  ticker : contract.provider = "sec_edgar" →
    isShaped SafeProjection.isSymbol (config.get "ticker") = true

/-! ### Items that are accepted -/

/-- A news item without an address. -/
def plainItem : Object :=
  [("provider_item_id", .str "news:1"), ("published_at", .str "2024-01-02T03:04:05+00:00")]

/-- It is accepted, whatever the library does with addresses. -/
theorem accepts_plainItem (library : StandardLibrary) :
    Accepts library "marketaux" "news_all" (marketauxPayload [("query", .str "grid")] plainItem) := by
  refine accepts_marketaux.2 ⟨by decide +kernel, ?_⟩
  have silent : contract marketauxKeys (marketauxSteps silentLibrary)
      (marketauxPayload [("query", .str "grid")] plainItem) =
        .ok (marketauxPayload [("query", .str "grid")] plainItem) := by decide +kernel
  obtain ⟨named, ran⟩ := contract_eq_ok.1 silent
  obtain ⟨result, done⟩ : ∃ result, run (marketauxSteps library)
      (marketauxPayload [("query", .str "grid")] plainItem) = .ok result := by
    refine exists_run (ordered_marketaux library)
      (marketauxPayload [("query", .str "grid")] plainItem).get
      (fun key normal member => ?_) (fun key _ => rfl) fun reads holds member => ?_
    · exact normal_of_run (ordered_marketaux silentLibrary) ran
        (show .field key normal ∈ marketauxSteps silentLibrary by
          simpa [marketauxSteps, checkField] using member)
    · simp only [marketauxSteps, checkField, List.mem_cons, Step.check.injEq, reduceCtorEq,
        List.not_mem_nil, or_false, false_or] at member
      rcases member with ⟨rfl, rfl⟩ | ⟨rfl, rfl⟩ | ⟨rfl, rfl⟩
      · rfl
      · rfl
      · rfl
  exact ⟨result, contract_eq_ok.2 ⟨named, done⟩⟩

/-- Seven numbers. -/
def plainNumbers : Object := quoteFields.map fun key => (key, .int 1)

theorem accepts_plainQuote (library : StandardLibrary) :
    Accepts library "finnhub" "quote"
      (quotePayload "MSFT" "1970-01-02T00:00:00+00:00" 86400 plainNumbers) :=
  accepts_quote.2 ⟨by decide +kernel, quotePayload "MSFT" "1970-01-02T00:00:00+00:00" 86400
    plainNumbers, by decide +kernel⟩

theorem accepts_plainPrice (library : StandardLibrary) :
    Accepts library "eia" "electricity_retail_sales"
      (retailPayload (some "2024-01-01T00:00:00+00:00") "electricity/retail-sales/co/res/price"
        "2024-01" "co" "res" (.int 1) (.str "cents")) :=
  accepts_retail.2 ⟨by decide +kernel, retailPayload (some "2024-01-01T00:00:00+00:00")
    "electricity/retail-sales/co/res/price" "2024-01" "co" "res" (.int 1) (.str "cents"),
    by decide +kernel⟩

/-- A filing of the first filer. -/
def plainFiling (library : StandardLibrary) (cik : String) (ticker : Json) : Object :=
  filing library cik ticker (some "2024-01-02T00:00:00+00:00") "0000000001-24-000001" "2024-01-02"
    (.str "10-K") (.str "a.htm") none

theorem accepts_plainFiling (library : StandardLibrary) :
    Accepts library "sec_edgar" "submissions_recent"
      (plainFiling library "0000000001" (.str "A")) := by
  have same : plainFiling library "0000000001" (.str "A") =
      plainFiling silentLibrary "0000000001" (.str "A") := rfl
  rw [same]
  exact accepts_sec.2 ⟨by decide +kernel, plainFiling silentLibrary "0000000001" (.str "A"),
    by decide +kernel⟩

/-! ### Operation by operation -/

theorem newsShape_of_checks {config : Object} (safe : isSafe (.obj config) = true)
    (query : isQuery (config.get "query") = true)
    (language : config.get "language" = .null ∨
      isShaped Providers.isLanguage (config.get "language") = true)
    (symbols : config.get "symbols" = .null ∨ ∃ items, config.get "symbols" = .arr items ∧
      items.length ≤ 10 ∧ ∀ item ∈ items, isShaped (fun text => text.length ≤ 20) item = true) :
    NewsShape config := by
  have shaped_iff : ∀ {shape : List Char → Bool} {value : Json}, isShaped shape value = true →
      ∃ text, value = .str text ∧ shape text.toList = true := by
    intro shape value held
    cases value with
    | str text => exact ⟨text, rfl, held⟩
    | _ => exact absurd held nofun
  refine ⟨safe, ?_, ?_, ?_⟩
  · cases asked : config.get "query" with
    | str text =>
        rw [asked, isQuery, Bool.and_eq_true, decide_eq_true_eq, decide_eq_true_eq] at query
        exact ⟨text, rfl, query.2⟩
    | _ => rw [asked] at query; exact absurd query nofun
  · exact language.imp_right shaped_iff
  · refine symbols.imp_right fun ⟨items, listed, few, each⟩ => ⟨items, listed, few, ?_⟩
    intro item member
    obtain ⟨text, same, short⟩ := shaped_iff (each item member)
    exact ⟨text, same, of_decide_eq_true short⟩

/-- The first contract version accepts news configurations of this shape. -/
theorem newsShape_of_marketauxConfig {raw config : Object} (safe : isSafe (.obj raw) = true)
    (accepted : marketauxConfig raw = .ok config) :
    config = raw ∧ NewsShape config ∧ config.keySubset ["query", "language", "symbols"] = true ∧
      (config.get "symbols" = .null ∨ isSymbolList (config.get "symbols") = true) := by
  have absent : ∀ {check : Json → Bool} {value : Json}, absentOr check value = true →
      value = .null ∨ check value = true := by
    intro check value held
    cases value with
    | null => exact .inl rfl
    | _ => exact .inr held
  obtain ⟨named, rest⟩ := check_eq_ok.1 accepted
  obtain ⟨query, rest⟩ := check_eq_ok.1 rest
  obtain ⟨language, rest⟩ := check_eq_ok.1 rest
  obtain ⟨symbols, rest⟩ := check_eq_ok.1 rest
  obtain rfl := pure_eq_ok.1 rest
  have listed := absent (require_eq_ok.1 symbols)
  refine ⟨rfl, newsShape_of_checks safe (require_eq_ok.1 query) (absent (require_eq_ok.1 language))
    (listed.imp_right fun held => ?_), require_eq_ok.1 (check_eq_ok.1 named).1, listed⟩
  cases found : raw.get "symbols" with
  | arr items =>
      rw [found, isSymbolList, Bool.and_eq_true, Bool.and_eq_true, decide_eq_true_eq,
        decide_eq_true_eq, List.all_eq_true] at held
      refine ⟨items, rfl, held.1.2, fun item member => ?_⟩
      have each := held.2 item member
      cases item with
      | str text =>
          simp only [isShaped, Bool.and_eq_true, decide_eq_true_eq] at each ⊢
          exact each.2
      | _ => cases each
  | _ => rw [found] at held; cases held

/-- So does the second. -/
theorem newsShape_of_breadthConfig {raw config : Object} (safe : isSafe (.obj raw) = true)
    (accepted : breadthConfig "marketaux" "news_all" raw = .ok config) : NewsShape config := by
  obtain ⟨keys, -, -, -, checks, same⟩ := breadthConfig_eq_ok.1 accepted
  rw [normalized, if_neg (by decide)] at same
  rw [same]
  simp only [providerChecks, check_eq_ok, onlyIf_eq_ok, decide_eq_true_eq, true_implies,
    marketauxChecks, require_eq_ok, Bool.or_eq_true] at checks
  obtain ⟨-, -, ⟨query, language, symbols⟩, -⟩ := checks
  refine newsShape_of_checks safe query (language.imp_left fun null => ?_) ?_
  · cases found : raw.get "language" with
    | null => rfl
    | _ => rw [found] at null; cases null
  · cases found : raw.lookup "symbols" with
    | none => exact .inl (by rw [Object.get, found]; rfl)
    | some value =>
        have read : raw.get "symbols" = value := by rw [Object.get, found]; rfl
        have held : raw.getD "symbols" (.arr []) = value := by rw [Object.getD, found]; rfl
        rw [held] at symbols
        cases value with
        | arr items =>
            have shape := require_eq_ok.1 symbols
            rw [Bool.and_eq_true, Bool.and_eq_true, decide_eq_true_eq, decide_eq_true_eq,
              List.all_eq_true] at shape
            refine .inr ⟨items, read, shape.1.2, fun item member => ?_⟩
            have each := shape.2 item member
            cases item with
            | str text => exact decide_eq_true (isCode_of_isSymbol each).2.1
            | _ => cases each
        | _ => cases symbols

/-- What the adapter asks of an accepted configuration of the first version. -/
theorem marketauxConfigError_eq_none {config : Object} (shape : NewsShape config)
    (named : config.keySubset ["query", "language", "symbols"] = true)
    (listed : config.get "symbols" = .null ∨ isSymbolList (config.get "symbols") = true) :
    marketauxConfigError library config = none ↔
      ∀ entry ∈ config, hasMarker (strOf library entry.2) = false := by
  have inside := Object.keySubset_iff.1 named
  have wider : config.keySubset ["query", "language", "symbols", "timeout_seconds"] = true :=
    Object.keySubset_iff.2 fun key member => by
      have known := inside key member
      simp only [List.mem_cons, List.not_mem_nil, or_false] at known ⊢
      tauto
  have untimed : config.lookup "timeout_seconds" = none := by
    rw [List.lookup_eq_none_iff]
    intro entry member
    have known := inside entry.1 (List.mem_map_of_mem member)
    simp only [List.mem_cons, List.not_mem_nil, or_false] at known
    rcases known with same | same | same <;> rw [same] <;> decide
  have timeout : isTimeout (config.getD "timeout_seconds" (.float 10 0)) = true := by
    rw [Object.getD, untimed]
    rfl
  have plain : ∀ text, isSafe (.str text) = true → text.toList ≠ [] →
      isPlainText (.str text) = true := by
    intro text safe some
    rw [isPlainText, hasMarker_of_isSafe safe, Bool.and_eq_true, decide_eq_true_eq]
    refine ⟨fun blank => some ?_, rfl⟩
    rw [blank]
    rfl
  have language : (!(config.get "language").eq .null && !isPlainText (config.get "language")) =
      false := by
    rcases shape.language with null | ⟨text, same, letters⟩
    · rw [null]
      rfl
    · have safe := isSafe_get shape.safe "language"
      have two : text.toList.length = 2 := length_of_shaped letters
      rw [same] at safe ⊢
      rw [plain text safe (List.ne_nil_of_length_pos (by omega))]
      simp
  have symbols : (!(config.get "symbols").eq .null && !isPlainList (config.get "symbols")) =
      false := by
    rcases listed with null | held
    · rw [null]
      rfl
    · have safe := isSafe_get shape.safe "symbols"
      cases found : config.get "symbols" with
      | arr items =>
          rw [found] at held safe
          rw [isSymbolList, Bool.and_eq_true, Bool.and_eq_true, decide_eq_true_eq,
            decide_eq_true_eq, List.all_eq_true] at held
          have all : isPlainList (.arr items) = true := by
            rw [isPlainList, Bool.and_eq_true, Bool.and_eq_true, decide_eq_true_eq,
              List.all_eq_true, Bool.not_eq_true', List.isEmpty_eq_false_iff]
            refine ⟨⟨List.ne_nil_of_length_pos held.1.1, held.1.2⟩, fun item member => ?_⟩
            have each := held.2 item member
            cases item with
            | str text =>
                simp only [isShaped, Bool.and_eq_true, decide_eq_true_eq] at each
                exact plain text (isSafe_item safe _ member) (List.ne_nil_of_length_pos each.1)
            | _ => cases each
          rw [all]
          simp
      | _ => rw [found] at held; cases held
  have clean : ∀ entry ∈ config, hasMarker entry.1 = false := by
    intro entry member
    have known := inside entry.1 (List.mem_map_of_mem member)
    have names : ∀ key ∈ ["query", "language", "symbols"], hasMarker key = false := by decide
    exact names _ known
  unfold marketauxConfigError
  simp only [wider, timeout, language, symbols, Bool.not_true, Bool.false_eq_true, if_false,
    ite_eq_right_iff, reduceCtorEq, imp_false, Bool.not_eq_true, List.any_eq_false,
    Bool.or_eq_false_iff]
  exact ⟨fun all entry member => (all entry member).2,
    fun all entry member => ⟨clean entry member, all entry member⟩⟩

/-- **News.** -/
theorem news_collectable_iff {config : Object} (shape : NewsShape config) :
    (∀ item, (∃ other, Accepts library "marketaux" "news_all" (marketauxPayload other item)) →
        Accepts library "marketaux" "news_all" (marketauxPayload config item)) ↔
      (∀ text, config.get "query" = .str text → QueryFits text) ∧
        ∀ items, config.get "symbols" = .arr items →
          ∀ text, .str text ∈ items → SymbolFits text := by
  rw [← newsFits_iff shape]
  constructor
  · intro all
    exact (marketaux_accepts_iff (accepts_plainItem library)).1
      (all plainItem ⟨_, accepts_plainItem library⟩)
  · rintro fits item ⟨other, readable⟩
    exact (marketaux_accepts_iff readable).2 fits

theorem quoteSymbol_of_isCode {config : Object} {code : String}
    (stored : config.get "symbol" = .str code) (held : IsCode 20 code)
    (safe : isSafe (.obj config) = true) : quoteSymbol config = some code := by
  have clean := isSafe_get safe "symbol"
  rw [quoteSymbol, stored]
  exact safeIdentifier_of_isCode held (hasMarker_of_isSafe (stored ▸ clean))

/-- **Quotes.** -/
theorem quotes_collectable_iff {config : Object} {code : String}
    (stored : config.get "symbol" = .str code) (held : IsCode 20 code)
    (safe : isSafe (.obj config) = true) :
    (∃ name, quoteSymbol config = some name ∧ ∀ published seconds body,
      (∃ other, Accepts library "finnhub" "quote" (quotePayload other published seconds body)) →
        Accepts library "finnhub" "quote" (quotePayload (upperText name) published seconds body)) ↔
      isShaped SafeProjection.isSymbol (config.get "symbol") = true := by
  have clean : hasMarker code = false := hasMarker_of_isSafe (stored ▸ isSafe_get safe "symbol")
  have asked := quoteSymbol_of_isCode stored held safe
  have capitals : upperText code = code := upperText_of_isCode held
  rw [stored]
  constructor
  · rintro ⟨name, same, all⟩
    obtain rfl := Option.some.inj (asked.symm.trans same)
    rw [capitals] at all
    have own := (quote_accepts_iff (accepts_plainQuote library)).1
      (all _ _ _ ⟨_, accepts_plainQuote library⟩)
    exact ((symbolOf_of_isCode held clean).1 own.1).1
  · intro shape
    refine ⟨code, asked, fun published seconds body => ?_⟩
    rintro ⟨other, readable⟩
    rw [capitals]
    exact (quote_accepts_iff readable).2 ⟨(symbolOf_of_isCode held clean).2 ⟨shape, rfl⟩, clean⟩

/-- A symbol of the second contract version is one of the payloads. -/
theorem symbol_of_isShaped {config : Object} {key : String} (safe : isSafe (.obj config) = true)
    (shape : isShaped Providers.isSymbol (config.get key) = true) :
    ∃ code, config.get key = .str code ∧ IsCode 20 code ∧
      SafeProjection.isSymbol code.toList = true ∧ (∃ form, symbol (config.get key) = .ok form) ∧
      isUnsafe (config.get key) = false := by
  have kept := isSafe_get safe key
  cases found : config.get key with
  | str code =>
      rw [found] at shape kept
      have held : IsCode 20 code := isCode_of_isSymbol shape
      have clean := hasMarker_of_isSafe kept
      exact ⟨code, rfl, held, shape, ⟨_, map_eq_ok.2 ⟨code,
        (symbolOf_of_isCode held clean).2 ⟨shape, rfl⟩, rfl⟩⟩, isUnsafe_of_isSafe kept⟩
  | _ => rw [found] at shape; exact absurd shape nofun

/-- **Prices.** -/
theorem prices_collectable_iff {config : Object} {geographies sectors : List Json}
    (safe : isSafe (.obj config) = true)
    (first : config.get "geographies" = .arr geographies)
    (second : config.get "sectors" = .arr sectors)
    (some : geographies ≠ [] ∧ sectors ≠ [])
    (shapes : (∀ item ∈ geographies, isShaped isFacet item = true) ∧
      ∀ item ∈ sectors, isShaped isFacet item = true) :
    (∀ geography sector, .str geography ∈ geographies → .str sector ∈ sectors →
      ∀ published period value unit,
        (∃ geography' sector' series', Accepts library "eia" "electricity_retail_sales"
          (retailPayload published series' period geography' sector' value unit)) →
        ∃ series, eiaSeriesIdentity (.str geography) (.str sector) (.str "price") = .ok series ∧
          Accepts library "eia" "electricity_retail_sales"
            (retailPayload published series period geography sector value unit)) ↔
      (∀ facet, .str facet ∈ geographies → FacetFits facet) ∧
        ∀ facet, .str facet ∈ sectors → FacetFits facet := by
  have clean {facet : String} {items : List Json} {key : String}
      (stored : config.get key = .arr items) (member : .str facet ∈ items) :
      hasMarker facet = false :=
    hasMarker_of_isSafe (isSafe_item (stored ▸ isSafe_get safe key) _ member)
  have exists_of_ne_nil : ∀ items : List Json, items ≠ [] →
      (∀ item ∈ items, isShaped isFacet item = true) → ∃ facet, .str facet ∈ items := by
    intro items some each
    obtain ⟨item, member⟩ := List.exists_mem_of_ne_nil items some
    have shape := each item member
    cases item with
    | str facet => exact ⟨facet, member⟩
    | _ => exact absurd shape nofun
  constructor
  · intro all
    have both : ∀ geography sector, .str geography ∈ geographies → .str sector ∈ sectors →
        FacetFits geography ∧ FacetFits sector := by
      intro geography sector listed listed'
      exact (retail_accepts_iff (accepts_plainPrice library)
        ⟨shapes.1 _ listed, shapes.2 _ listed'⟩ ⟨clean first listed, clean second listed'⟩).1
        (all _ _ listed listed' _ _ _ _ ⟨_, _, _, accepts_plainPrice library⟩)
    obtain ⟨geography, listed⟩ := exists_of_ne_nil _ some.1 shapes.1
    obtain ⟨sector, listed'⟩ := exists_of_ne_nil _ some.2 shapes.2
    exact ⟨fun facet member => (both facet sector member listed').1,
      fun facet member => (both geography facet listed member).2⟩
  · rintro ⟨left, right⟩ geography sector listed listed' published period value unit
      ⟨geography', sector', series', readable⟩
    exact (retail_accepts_iff readable ⟨shapes.1 _ listed, shapes.2 _ listed'⟩
      ⟨clean first listed, clean second listed'⟩).2 ⟨left _ listed, right _ listed'⟩

/-- The number of a filer, padded. -/
theorem isFiler_paddedCik {value : Json} {shape : Char → Bool}
    (decimal : ∀ c, shape c = true → isDecimal c = true)
    (held : isShaped (bounded shape 1 10) value = true) :
    ∃ cik, paddedCik value = .str cik ∧ IsFiler cik ∧ (shape '0' = true →
      ∀ c ∈ cik.toList, shape c = true) := by
  cases value with
  | str cik =>
      simp only [isShaped, bounded, Bool.and_eq_true, decide_eq_true_eq] at held
      have zero : isDecimal '0' = true := by decide
      have all : ∀ c ∈ zfill 10 cik.toList, isDecimal c = true :=
        List.all_eq_true.1 (all_zfill zero (List.all_eq_true.2 fun c member =>
          decimal c (List.all_eq_true.1 held.2 c member)))
      refine ⟨String.ofList (zfill 10 cik.toList), rfl, ?_, fun zero => ?_⟩
      · unfold IsFiler
        rw [String.toList_ofList]
        exact ⟨length_zfill held.1.2, all⟩
      · rw [String.toList_ofList]
        exact List.all_eq_true.1 (all_zfill zero held.2)
  | _ => cases held

theorem isPlain_of_isDigit {c : Char} (digit : isDigit c = true) :
    isPlain c = true ∧ isLower c = false := isPlain_of_code (.inr (.inl digit))

/-- **Filings of the first contract version.** -/
theorem recentFilings_collectable_iff {raw config : Object} (safe : isSafe (.obj raw) = true)
    (accepted : secConfig raw = .ok config) :
    (∃ ticker cik, filerOf config = some (ticker, cik) ∧
      ∀ published accession date form document,
        (∃ cik' ticker', IsFiler cik' ∧ Accepts library "sec_edgar" "submissions_recent"
          (filing library cik' ticker' published accession date form document none)) →
        Accepts library "sec_edgar" "submissions_recent"
          (filing library (String.ofList (zfill 10 cik.toList)) (.str (upperText ticker)) published
            accession date form document none)) ↔
      isShaped SafeProjection.isSymbol (config.get "ticker") = true := by
  obtain ⟨-, rest⟩ := check_eq_ok.1 accepted
  obtain ⟨shape, rest⟩ := check_eq_ok.1 rest
  obtain ⟨number, rest⟩ := check_eq_ok.1 rest
  have same := pure_eq_ok.1 rest
  obtain ⟨cik, padded, filer, digits⟩ := isFiler_paddedCik (fun c => isDecimal_of_isDigit)
    (require_eq_ok.1 number)
  have stored : config.get "cik" = .str cik := by
    rw [← same, Object.get_set_same, padded]
  have kept : config.get "ticker" = raw.get "ticker" := by
    rw [← same, Object.get_set_ne (by decide)]
  have shape := require_eq_ok.1 shape
  have clean := isSafe_get safe "ticker"
  rw [← kept] at shape clean
  cases found : config.get "ticker" with
  | str ticker =>
      rw [found] at shape clean
      have held : IsCode 12 ticker := isCode_of_bounded (fun c known => isPlain_of_code (by
        simp only [Bool.or_eq_true, beq_iff_eq] at known
        tauto)) shape
      have code : IsCode 20 ticker := ⟨held.1, Nat.le_trans held.2.1 (by decide), held.2.2⟩
      have markless := hasMarker_of_isSafe clean
      have number : IsCode 10 cik := ⟨by rw [filer.1]; decide, filer.1.le, fun c member =>
        isPlain_of_isDigit (digits (by decide) c member)⟩
      have asked : filerOf config = some (ticker, cik) := by
        rw [filerOf, found, stored, safeIdentifier_of_isCode held markless,
          safeIdentifier_of_isCode number (containsAny_of_decimal filer.2)]
        exact if_pos (List.all_eq_true.2 filer.2)
      have wide : String.ofList (zfill 10 cik.toList) = cik := by
        rw [zfill_of_le filer.1.ge, String.ofList_toList]
      have spelled : (∃ form, symbol (.str ticker) = .ok form) ↔
          SafeProjection.isSymbol ticker.toList = true := by
        constructor
        · rintro ⟨form, done⟩
          obtain ⟨symbol, read, -⟩ := map_eq_ok.1 done
          exact ((symbolOf_of_isCode code markless).1 read).1
        · intro shape
          exact ⟨_, map_eq_ok.2 ⟨ticker, (symbolOf_of_isCode code markless).2 ⟨shape, rfl⟩, rfl⟩⟩
      have first : IsFiler "0000000001" := by
        exact ⟨rfl, List.all_eq_true.1 (by decide)⟩
      constructor
      · rintro ⟨ticker', cik', same, all⟩
        obtain ⟨rfl, rfl⟩ := Prod.mk.inj (Option.some.inj (asked.symm.trans same))
        rw [wide, upperText_of_isCode held] at all
        exact spelled.1 ((filing_accepts_iff (accepts_plainFiling library) first filer).1
          (all _ _ _ _ _ ⟨_, _, first, accepts_plainFiling library⟩)).1
      · intro shape
        refine ⟨ticker, cik, asked, ?_⟩
        rintro published accession date form document ⟨cik', ticker', other, readable⟩
        rw [wide, upperText_of_isCode held]
        exact (filing_accepts_iff readable other filer).2 ⟨spelled.2 shape, isUnsafe_of_isSafe clean⟩
  | _ => rw [found] at shape; exact absurd shape nofun

/-- **Filings of the second.** -/
theorem filings_collectable {raw config : Object} (safe : isSafe (.obj raw) = true)
    (accepted : breadthConfig "sec_edgar" "submissions_recent" raw = .ok config) :
    (∃ cik, config.get "cik" = .str cik ∧
      ∀ published accession date form document file,
        (∃ cik' ticker', IsFiler cik' ∧ Accepts library "sec_edgar" "submissions_recent"
          (filing library cik' ticker' published accession date form document (some file))) →
        Accepts library "sec_edgar" "submissions_recent"
          (filing library cik (config.get "ticker") published accession date form document
            (some file))) ∧
      isShaped SafeProjection.isSymbol (config.get "ticker") = true := by
  obtain ⟨keys, -, -, -, checks, same⟩ := breadthConfig_eq_ok.1 accepted
  simp only [providerChecks, check_eq_ok, onlyIf_eq_ok, decide_eq_true_eq, true_implies,
    secChecks, require_eq_ok] at checks
  obtain ⟨-, shape, -, -, -, number, -, -⟩ := checks
  obtain ⟨cik, padded, filer, -⟩ := isFiler_paddedCik (fun c held => held) number
  rw [normalized, if_pos rfl] at same
  have stored : config.get "cik" = .str cik := by
    rw [same, Object.get_set_ne (by decide), Object.get_set_same, padded]
  have kept : config.get "ticker" = raw.get "ticker" := by
    rw [same, Object.get_set_ne (by decide), Object.get_set_ne (by decide)]
  obtain ⟨code, found, held, spelled, formed, clean⟩ := symbol_of_isShaped safe shape
  rw [kept]
  refine ⟨⟨cik, stored, ?_⟩, by rw [found]; exact spelled⟩
  rintro published accession date form document file ⟨cik', ticker', other, readable⟩
  exact (filing_accepts_iff readable other filer).2 ⟨formed, clean⟩

/-- **Values of hours.** -/
theorem hours_collectable (hex : HexDigests library) {raw config : Object}
    (safe : isSafe (.obj raw) = true)
    (accepted : breadthConfig "eia" "electricity_rto_region_data" raw = .ok config)
    {regions types : List Json} (first : config.get "regions" = .arr regions)
    (second : config.get "types" = .arr types) {region metric : String}
    (listed : .str region ∈ regions) (known : .str metric ∈ types) {period : String}
    {value unit : Json}
    (readable : ∃ region' metric' series', Accepts library "eia" "electricity_rto_region_data"
      (rtoPayload library.sha256 "electricity_rto_region_data" series' period region' metric'
        value unit)) :
    ∃ series, rtoSeriesIdentity region metric = .ok series ∧
      Accepts library "eia" "electricity_rto_region_data"
        (rtoPayload library.sha256 "electricity_rto_region_data" series period region metric
          value unit) := by
  obtain ⟨keys, -, -, -, checks, same⟩ := breadthConfig_eq_ok.1 accepted
  rw [normalized, if_neg (by decide)] at same
  subst same
  simp only [providerChecks, check_eq_ok, onlyIf_eq_ok, decide_eq_true_eq, and_self, true_implies,
    rtoChecks, first, second] at checks
  obtain ⟨-, -, -, -, ⟨-, places, metrics⟩, -⟩ := checks
  have places := require_eq_ok.1 places
  rw [Bool.and_eq_true, Bool.and_eq_true, List.all_eq_true] at places
  have metric' : metric = "D" ∨ metric = "NG" := by
    cases types with
    | nil => exact absurd known List.not_mem_nil
    | cons item items =>
        have all := require_eq_ok.1 (check_eq_ok.1 metrics).2
        have named := List.all_eq_true.1 all _ known
        simp only [List.any_cons, List.any_nil, Bool.or_false, Bool.or_eq_true, Json.eq_str,
          Json.str.injEq] at named
        exact named
  obtain ⟨region', metric'', series', readable⟩ := readable
  exact rto_accepts hex readable (places.2 _ listed) metric'
    (hasMarker_of_isSafe (isSafe_item (first ▸ isSafe_get safe "regions") _ listed))

/-! ### All contracts -/

section Registry

variable {contract : OperationContract} {raw config : Object}

theorem collectable_iff_news (version : contract.providerContractVersion = 1 →
      (marketauxConfigError library config = none ↔
        ∀ entry ∈ config, hasMarker (strOf library entry.2) = false))
    (named : contract.provider = "marketaux" ∧ contract.operationKey = "news_all")
    (shape : NewsShape config) : Collectable library contract config ↔ Fits library contract config := by
  obtain ⟨provider, operation⟩ := named
  constructor
  · intro collectable
    obtain ⟨request, items⟩ := collectable.news provider
    obtain ⟨query, symbols⟩ := (news_collectable_iff shape).1 items
    refine ⟨fun _ => query, fun _ => symbols, fun _ first => (version first).1 (request first),
      ?_, ?_, ?_⟩ <;> simp [provider, operation]
  · intro fits
    refine ⟨fun _ => ⟨fun first => (version first).2 (fits.texts provider first),
      (news_collectable_iff shape).2 ⟨fits.query provider, fits.symbols provider⟩⟩,
      ?_, ?_, ?_, ?_, ?_, ?_, ?_⟩ <;> simp [provider, operation]

theorem collectable_iff_quotes
    (named : contract.provider = "finnhub" ∧ contract.operationKey = "quote")
    (safe : isSafe (.obj raw) = true) (accepted : finnhubConfig raw = .ok config) :
    Collectable library contract config ↔ Fits library contract config := by
  obtain ⟨provider, operation⟩ := named
  obtain ⟨-, rest⟩ := check_eq_ok.1 accepted
  obtain ⟨shape, rest⟩ := check_eq_ok.1 rest
  obtain rfl := pure_eq_ok.1 rest
  have shape := require_eq_ok.1 shape
  obtain ⟨code, stored, held⟩ : ∃ code, raw.get "symbol" = .str code ∧ IsCode 20 code := by
    cases found : raw.get "symbol" with
    | str code =>
        rw [found] at shape
        refine ⟨code, rfl, isCode_of_bounded (fun c known => isPlain_of_code ?_) shape⟩
        simp only [Bool.or_eq_true, beq_iff_eq] at known
        tauto
    | _ => rw [found] at shape; exact absurd shape nofun
  have known := @quotes_collectable_iff library _ _ stored held safe
  constructor
  · intro collectable
    have own := known.1 (collectable.quotes operation)
    refine ⟨?_, ?_, ?_, fun _ => own, ?_, ?_⟩ <;> simp [provider, operation]
  · intro fits
    have own := known.2 (fits.symbol operation)
    refine ⟨?_, fun _ => own, ?_, ?_, ?_, ?_, ?_, ?_⟩ <;> simp [provider, operation]

theorem collectable_of_companyNews
    (named : contract.provider = "finnhub" ∧ contract.operationKey = "company_news")
    (safe : isSafe (.obj raw) = true)
    (accepted : breadthConfig "finnhub" "company_news" raw = .ok config) :
    Collectable library contract config ↔ Fits library contract config := by
  obtain ⟨provider, operation⟩ := named
  obtain ⟨keys, -, -, -, checks, same⟩ := breadthConfig_eq_ok.1 accepted
  rw [normalized, if_neg (by decide)] at same
  subst same
  simp only [providerChecks, check_eq_ok, onlyIf_eq_ok, decide_eq_true_eq, true_implies,
    require_eq_ok] at checks
  obtain ⟨code, -, -, -, formed, clean⟩ := symbol_of_isShaped safe checks.1
  have own : ∀ row url identity published,
      (∃ other, Accepts library "finnhub" "company_news"
        (companyNewsPayload other row url identity published)) →
      Accepts library "finnhub" "company_news"
        (companyNewsPayload config row url identity published) := by
    rintro row url identity published ⟨other, readable⟩
    exact (companyNews_accepts_iff readable).2 ⟨formed, clean⟩
  refine iff_of_true ⟨?_, ?_, fun _ => own, ?_, ?_, ?_, ?_, ?_⟩ ⟨?_, ?_, ?_, ?_, ?_, ?_⟩ <;>
    simp [provider, operation]

theorem collectable_of_snapshots
    (named : contract.provider = "eia" ∧ contract.operationKey = "electricity_retail_sales" ∧
      contract.providerContractVersion = 1)
    (accepted : eiaConfig raw = .ok config) :
    Collectable library contract config ↔ Fits library contract config := by
  obtain ⟨provider, operation, version⟩ := named
  obtain ⟨-, rest⟩ := check_eq_ok.1 accepted
  obtain ⟨-, rest⟩ := check_eq_ok.1 rest
  obtain rfl := pure_eq_ok.1 rest
  have dataset : ((Object.get [("dataset", .str "electricity")] "dataset").eq
      (.str "electricity")) = true := by decide
  refine iff_of_true ⟨?_, ?_, ?_, fun _ _ => dataset, ?_, ?_, ?_, ?_⟩ ⟨?_, ?_, ?_, ?_, ?_, ?_⟩ <;>
    simp [provider, operation, version]

theorem collectable_iff_prices
    (named : contract.provider = "eia" ∧ contract.operationKey = "electricity_retail_sales" ∧
      contract.providerContractVersion = 2)
    (safe : isSafe (.obj raw) = true)
    (accepted : breadthConfig "eia" "electricity_retail_sales" raw = .ok config) :
    Collectable library contract config ↔ Fits library contract config := by
  obtain ⟨provider, operation, version⟩ := named
  obtain ⟨keys, -, -, -, checks, same⟩ := breadthConfig_eq_ok.1 accepted
  rw [normalized, if_neg (by decide)] at same
  subst same
  simp only [providerChecks, check_eq_ok, onlyIf_eq_ok, decide_eq_true_eq, and_self, true_implies,
    retailChecks] at checks
  obtain ⟨-, -, -, ⟨-, places, branches⟩, -⟩ := checks
  have listed : ∀ {value : Json}, requireList value 1 10 isFacet "breadth_facet_invalid" = .ok () →
      ∃ items, value = .arr items ∧ items ≠ [] ∧ ∀ item ∈ items, isShaped isFacet item = true := by
    intro value held
    cases value with
    | arr items =>
        have all := require_eq_ok.1 held
        rw [Bool.and_eq_true, Bool.and_eq_true, decide_eq_true_eq, List.all_eq_true] at all
        exact ⟨items, rfl, List.ne_nil_of_length_pos all.1.1, all.2⟩
    | _ => cases held
  obtain ⟨geographies, first, some, shapes⟩ := listed places
  obtain ⟨sectors, second, some', shapes'⟩ := listed branches
  have known := @prices_collectable_iff library _ _ _ safe first second ⟨some, some'⟩
    ⟨shapes, shapes'⟩
  constructor
  · intro collectable
    obtain ⟨left, right⟩ := known.1 (collectable.prices operation version _ _ first second)
    have facets : ∀ key ∈ ["geographies", "sectors"], ∀ items, config.get key = .arr items →
        ∀ facet, .str facet ∈ items → FacetFits facet := by
      intro key listed items stored facet member
      simp only [List.mem_cons, List.not_mem_nil, or_false] at listed
      rcases listed with rfl | rfl
      · obtain rfl := Json.arr.inj (first.symm.trans stored)
        exact left facet member
      · obtain rfl := Json.arr.inj (second.symm.trans stored)
        exact right facet member
    refine ⟨?_, ?_, ?_, ?_, fun _ _ => facets, ?_⟩ <;> simp [provider, operation]
  · intro fits
    have facets := fits.facets operation version
    have own := known.2 ⟨facets "geographies" (by simp) _ first, facets "sectors" (by simp) _ second⟩
    refine ⟨?_, ?_, ?_, ?_, fun _ _ geographies' sectors' same same' => ?_, ?_, ?_, ?_⟩
    rotate_left 4
    · obtain rfl := Json.arr.inj (first.symm.trans same)
      obtain rfl := Json.arr.inj (second.symm.trans same')
      exact own
    all_goals simp [provider, operation, version]

theorem collectable_of_hours (hex : HexDigests library)
    (named : contract.provider = "eia" ∧ contract.operationKey = "electricity_rto_region_data")
    (safe : isSafe (.obj raw) = true)
    (accepted : breadthConfig "eia" "electricity_rto_region_data" raw = .ok config) :
    Collectable library contract config ↔ Fits library contract config := by
  obtain ⟨provider, operation⟩ := named
  refine iff_of_true ⟨?_, ?_, ?_, ?_, ?_, fun _ regions types first second region metric listed
    known period value unit readable => hours_collectable hex safe accepted first second listed known
      readable, ?_, ?_⟩ ⟨?_, ?_, ?_, ?_, ?_, ?_⟩ <;> simp [provider, operation]

theorem collectable_iff_recentFilings
    (named : contract.provider = "sec_edgar" ∧ contract.operationKey = "submissions_recent" ∧
      contract.providerContractVersion = 1)
    (safe : isSafe (.obj raw) = true) (accepted : secConfig raw = .ok config) :
    Collectable library contract config ↔ Fits library contract config := by
  obtain ⟨provider, operation, version⟩ := named
  have known := @recentFilings_collectable_iff library _ _ safe accepted
  constructor
  · intro collectable
    have own := known.1 (collectable.recentFilings provider version)
    refine ⟨?_, ?_, ?_, ?_, ?_, fun _ => own⟩ <;> simp [provider, operation]
  · intro fits
    have own := known.2 (fits.ticker provider)
    refine ⟨?_, ?_, ?_, ?_, ?_, ?_, fun _ _ => own, ?_⟩ <;> simp [provider, operation, version]

theorem collectable_of_filings
    (named : contract.provider = "sec_edgar" ∧ contract.operationKey = "submissions_recent" ∧
      contract.providerContractVersion = 2)
    (safe : isSafe (.obj raw) = true)
    (accepted : breadthConfig "sec_edgar" "submissions_recent" raw = .ok config) :
    Collectable library contract config ↔ Fits library contract config := by
  obtain ⟨provider, operation, version⟩ := named
  obtain ⟨own, ticker⟩ := @filings_collectable library _ _ safe accepted
  refine iff_of_true ⟨?_, ?_, ?_, ?_, ?_, ?_, ?_, fun _ _ => own⟩ ⟨?_, ?_, ?_, ?_, ?_, fun _ => ticker⟩
    <;> simp [provider, operation, version]

/-- The fake operation has no payloads. -/
theorem collectable_of_fake
    (named : contract.provider = "fake" ∧ contract.operationKey = "fake_sequence") :
    Collectable library contract config ↔ Fits library contract config := by
  obtain ⟨provider, operation⟩ := named
  refine iff_of_true ⟨?_, ?_, ?_, ?_, ?_, ?_, ?_, ?_⟩ ⟨?_, ?_, ?_, ?_, ?_, ?_⟩ <;>
    simp [provider, operation]

end Registry

/-- **A configuration the registry accepts is collectable exactly if it fits**, for every contract
of the registry. -/
theorem collectable_iff (library : StandardLibrary) (hex : HexDigests library)
    (contract : OperationContract) (registered : contract ∈ buildOperationRegistry)
    (raw config : Object) (batch requests pages : Int)
    (accepted : contract.validate raw batch requests pages = .ok config) :
    Collectable library contract config ↔ Fits library contract config := by
  obtain ⟨safe, valid⟩ := validate_eq_ok accepted
  simp only [buildOperationRegistry, List.mem_cons, List.not_mem_nil, or_false] at registered
  rcases registered with rfl | rfl | rfl | rfl | rfl | rfl | rfl | rfl | rfl | rfl
  · exact collectable_iff_news (fun first => absurd first (by decide)) ⟨rfl, rfl⟩
      (newsShape_of_breadthConfig safe valid)
  · exact collectable_of_companyNews ⟨rfl, rfl⟩ safe valid
  · exact collectable_iff_prices ⟨rfl, rfl, rfl⟩ safe valid
  · exact collectable_of_hours hex ⟨rfl, rfl⟩ safe valid
  · exact collectable_of_filings ⟨rfl, rfl, rfl⟩ safe valid
  · exact collectable_of_fake ⟨rfl, rfl⟩
  · obtain ⟨same, shape, named, listed⟩ := newsShape_of_marketauxConfig safe valid
    exact collectable_iff_news (fun _ => marketauxConfigError_eq_none shape named listed)
      ⟨rfl, rfl⟩ shape
  · exact collectable_iff_quotes ⟨rfl, rfl⟩ safe valid
  · exact collectable_of_snapshots ⟨rfl, rfl, rfl⟩ valid
  · exact collectable_iff_recentFilings ⟨rfl, rfl, rfl⟩ safe valid

/-- A library whose hashes are zeros. -/
def zeroLibrary : StandardLibrary :=
  { silentLibrary with sha256 := fun _ => String.ofList (List.replicate 64 '0') }

/-- The contract of the quotes. -/
def quoteContract : OperationContract :=
  ⟨"finnhub", "quote", 1, 1, .compound, .incremental, 1, some "provider_cursor_v1", .none,
    finnhubConfig⟩

theorem quoteContract_registered : quoteContract ∈ buildOperationRegistry := by
  simp [quoteContract, buildOperationRegistry]

/-- A symbol with a leading dot is accepted with the configuration and refused with every quote. -/
theorem quote_not_collectable : ∃ contract ∈ buildOperationRegistry, ∃ config,
    contract.validate config 1 1 1 = .ok config ∧ ¬ Collectable zeroLibrary contract config := by
  refine ⟨quoteContract, quoteContract_registered, [("symbol", .str ".A")], rfl,
    fun collectable => ?_⟩
  obtain ⟨name, same, all⟩ := collectable.quotes rfl
  have read : quoteSymbol [("symbol", .str ".A")] = some ".A" := rfl
  obtain rfl := Option.some.inj (read.symm.trans same)
  have capitals : upperText ".A" = ".A" := rfl
  obtain ⟨result, accepted⟩ := all _ _ _ ⟨_, accepts_plainQuote zeroLibrary⟩
  rw [capitals] at accepted
  have refused : symbolOf (.str ".A") = contractError "projection_symbol_invalid" := rfl
  obtain ⟨clean, result, contracted⟩ := accepts_quote.1 ⟨result, accepted⟩
  have done := (field_of_contract ordered_quote clean contracted
    (show .field "symbol" symbol ∈ quoteSteps by simp [quoteSteps])).1
  obtain ⟨form, read, -⟩ := map_eq_ok.1 done
  have impossible := refused.symm.trans read
  cases impossible

/-- The symbol of an ordinary quote fits. -/
theorem collectable_iff_msft : Collectable zeroLibrary quoteContract [("symbol", .str "MSFT")] := by
  have zeros : isHash (String.ofList (List.replicate 64 '0')).toList = true := rfl
  have other : ¬ quoteContract.provider = "marketaux" := by decide
  refine (collectable_iff zeroLibrary (fun _ => zeros) quoteContract quoteContract_registered
    [("symbol", .str "MSFT")] [("symbol", .str "MSFT")] 1 1 1 (rfl)).2 ?_
  exact ⟨fun news => absurd news other, fun news => absurd news other, fun news => absurd news other,
    fun _ => rfl, fun prices => absurd prices (by decide),
    fun filings => absurd filings (by decide)⟩

end NewsCollect.Collection
