/-
**Company news is read by key.**

The provider answers every request of a window with all of its rows. The adapter puts them in order,
leaves out what is not behind the last key of the state, and hands on a page of the rest. No two of the
payloads that are kept have one key, so what is behind the last of a page is what the page has left.

* `strict_firsts`: payloads in order, the first of each identity, are in strict order.
* `finnhubRow_short`: the key of a payload fits into a state.
* `finnhubPayloads_eq`: what the adapter makes of the answer at a state.
* `company_news_gathered`: **every payload of the answer is handed on once.**
-/

import NewsCollect.Proof.Traversals

namespace NewsCollect.Providers

open Calendar Collection Firsts Paging SafeProjection Text
open Evidence (IsCanonical keyLe_iff)

/-! ### Payloads in order -/

section Order

variable {payloads : List Object} {key : Object → String × String}

theorem keyLe_self (pair : String × String) : keyLe pair pair = true := keyLe_iff.2 le_rfl

theorem keyLe_trans {first second third : String × String} (one : keyLe first second = true)
    (two : keyLe second third = true) : keyLe first third = true :=
  keyLe_iff.2 ((keyLe_iff.1 one).trans (keyLe_iff.1 two))

theorem keyLe_total (first second : String × String) :
    (keyLe first second || keyLe second first) = true := by
  rw [Bool.or_eq_true, keyLe_iff, keyLe_iff]
  exact le_total _ _

theorem sortByKey_sorted : (sortByKey key payloads).Pairwise fun first second =>
    keyLe (key first) (key second) = true := by
  have sorted := @List.pairwise_mergeSort _ (fun first second => keyLe (key first) (key second))
    (fun _ _ _ one two => keyLe_trans one two) (fun _ _ => keyLe_total _ _) payloads
  exact sorted

/-- A payload is behind another one in the order of their keys. -/
def behind (key : Object → String × String) (payload final : Object) : Bool :=
  !keyLe (key payload) (key final)

theorem behind_self (payload : Object) : behind key payload payload = false := by
  rw [behind, keyLe_self]
  rfl

/-- **The first payloads of each identity are in strict order**, if they are in order. -/
theorem strict_firsts (sorted : payloads.Pairwise fun first second =>
      keyLe (key first) (key second) = true)
    (named : ∀ payload, (key payload).2 = identityOf payload) :
    (firsts identityOf payloads).Pairwise fun first second =>
      behind key first second = false ∧ behind key second first = true := by
  have distinct : (firsts identityOf payloads).Pairwise fun first second =>
      identityOf first ≠ identityOf second := List.pairwise_map.1 firsts_nodup
  refine ((sorted.sublist firsts_sublist).and distinct).imp ?_
  rintro first second ⟨before, other⟩
  refine ⟨by rw [behind, before]; rfl, ?_⟩
  rw [behind, Bool.not_eq_true', Bool.eq_false_iff]
  intro after
  have same := toLex.injective (le_antisymm (keyLe_iff.1 before) (keyLe_iff.1 after))
  exact other (by rw [← named, ← named, same])

end Order

/-! ### The payloads of company news -/

section Company

variable {rules : RowRules} {config state : Object} {rows : Rows} {limit : Nat}

/-- A payload whose key fits into a state. -/
def Short (payload : Object) : Prop :=
  ∃ published identity, payload.get "published_at" = .str published ∧
    payload.get "provider_item_id" = .str identity ∧ published ≠ "" ∧ published.length ≤ 200 ∧
    identity.length ≤ 200

theorem short_isoTimestamp {value : Json} {published : String}
    (found : isoTimestamp value = some published) : published ≠ "" ∧ published.length ≤ 200 := by
  have long : ∃ here offset, published.toList = isoFormat here offset := by
    rcases Evidence.canonical_of_isoTimestamp found with ⟨instant, -, spelled⟩ |
      ⟨-, here, offset, -, -, spelled⟩
    · exact ⟨_, _, spelled⟩
    · exact ⟨_, _, spelled⟩
  obtain ⟨here, offset, spelled⟩ := long
  have bounds := length_isoFormat here offset
  rw [← spelled, String.length_toList] at bounds
  refine ⟨?_, by omega⟩
  rintro rfl
  exact absurd bounds.1 (by decide)

theorem newsPayload_short {row : Object} {next : Rows} {url : Option String} {identity : String}
    (ok : newsPayload rules config row rows url identity = .ok next) (short : identity.length ≤ 200)
    (all : ∀ payload ∈ rows.payloads, Short payload) : ∀ payload ∈ next.payloads, Short payload := by
  unfold newsPayload at ok
  split at ok
  · obtain ⟨hash, rfl⟩ := rejectNews_eq_ok ok
    exact all
  · next published found =>
    split at ok
    · obtain rfl := pure_eq_ok.1 ok
      obtain ⟨some, long⟩ := short_isoTimestamp found
      exact List.forall_mem_append.2 ⟨all, List.forall_mem_singleton.2
        ⟨published, identity, rfl, rfl, some, long, short⟩⟩
    · exact pure_eq_ok.1 ok ▸ all

/-- The key of a payload of company news fits into a state. -/
theorem finnhubRow_short (hashed : ∀ text, (rules.sha256 text).length = 64) {next : Rows} {row : Json}
    (ok : finnhubRow rules config rows row = .ok next)
    (all : ∀ payload ∈ rows.payloads, Short payload) : ∀ payload ∈ next.payloads, Short payload := by
  have ofUrl : ∀ url, (urlIdentity rules url).length ≤ 200 := fun url => by
    rw [urlIdentity, String.length_append, hashed]
    decide
  have ofId : ∀ {value}, ¬ invalidIdentity value = true → ¬ isNull value = true →
      (idIdentity value).length ≤ 200 := by
    intro value valid present
    simp only [invalidIdentity, present, Bool.not_false, Bool.true_and, Bool.not_eq_true,
      Option.isNone_eq_false_iff, Option.isSome_iff_exists] at valid
    obtain ⟨text, known⟩ := valid
    have short := length_newsIdentity known
    rw [idIdentity, known, Option.getD_some, String.length_append]
    change 16 + text.length ≤ 200
    omega
  cases row with
  | obj row =>
      simp only [finnhubRow] at ok
      split at ok
      · next url found =>
        unfold addressedNews at ok
        split at ok
        · obtain ⟨-, ok⟩ := check_eq_ok.1 ok
          obtain ⟨hash, rfl⟩ := rejectNews_eq_ok ok
          exact all
        · next valid =>
          obtain ⟨-, ok⟩ := check_eq_ok.1 ok
          refine newsPayload_short ok ?_ all
          split
          · exact ofUrl _
          · next present => exact ofId valid present
      · split at ok
        · obtain ⟨hash, rfl⟩ := rejectNews_eq_ok ok
          exact all
        · cases ok
  | _ => cases ok

/-! ### The answer at a state -/

/-- All payloads of an answer, in order, the first of each identity. -/
def wholeNews (read : Rows) : List Object := firsts identityOf (sortByKey newsKey read.payloads)

/-- What the rows of an answer have to be like: payloads of one identity agree, and have one time. -/
structure Consistent (rules : RowRules) (read : Rows) : Prop where
  agreeing : Agreeing rules read.payloads
  timed : ∀ first ∈ read.payloads, ∀ second ∈ read.payloads,
    identityOf first = identityOf second → newsKey first = newsKey second

theorem mem_sortByKey {key : Object → String × String} {payload : Object} {payloads : List Object} :
    payload ∈ sortByKey key payloads ↔ payload ∈ payloads := List.mem_mergeSort

/-- **What the adapter makes of the answer at a state.** -/
theorem finnhubPayloads_eq {body : List Json} {read : Rows} {last : String × String}
    (taken : readRows (finnhubRow rules config) body = .ok read) (consistent : Consistent rules read)
    (held : lastKey state = .ok last) :
    finnhubPayloads rules (.arr body) config limit state [] =
      .ok ⟨((wholeNews read).filter fun payload => !keyLe (newsKey payload) last).take limit,
        limit < ((wholeNews read).filter fun payload => !keyLe (newsKey payload) last).length,
        newsProgress (((wholeNews read).filter fun payload =>
          !keyLe (newsKey payload) last).take limit), read.rejected⟩ := by
  have agreeing : Agreeing rules ((sortByKey newsKey read.payloads).filter fun payload =>
      !keyLe (newsKey payload) last) :=
    consistent.agreeing.subset fun payload member => mem_sortByKey.1 (List.mem_of_mem_filter member)
  have same : firsts identityOf ((sortByKey newsKey read.payloads).filter fun payload =>
      !keyLe (newsKey payload) last) =
      (wholeNews read).filter fun payload => !keyLe (newsKey payload) last := by
    refine firsts_filter fun first member second member' identical => ?_
    rw [mem_sortByKey] at member member'
    rw [consistent.timed first member second member' identical]
  refine bind_eq_ok.2 ⟨read, taken, bind_eq_ok.2 ⟨last, held, bind_eq_ok.2 ⟨_,
    deduplicate_eq_ok.2 ⟨agreeing, rfl⟩, ?_⟩⟩⟩
  rw [same]
  rfl

/-! ### The run of a window -/

variable {library : StandardLibrary} {digest : Object → String} {reader : Collection.Reader}
  {adapter : BreadthAdapter} {written : Set (String × String)} {request : ProviderFetchRequest}
  {lineage : ContinuationLineage} {size : Int} {read checked : Rows} {body : List Json}

/-- The operation on company news. -/
def IsCompanyNews (adapter : BreadthAdapter) : Prop :=
  adapter.provider = "finnhub" ∧ adapter.operation = "company_news"

/-- What is sent for company news: the window, at every state. -/
def newsSent (config : Object) : Sent :=
  ⟨"company_news", [("symbol", config.get "symbol"), ("from", config.get "start"),
    ("to", config.get "end")]⟩

theorem params_companyNews (news : IsCompanyNews adapter) (page offset : Int) :
    params adapter.provider adapter.operation config size page offset state =
      .ok (newsSent config) := by
  rw [params, if_neg (by rw [news.1]; decide), if_pos news.1]
  rfl

/-- The key of the last payload of a page is the last key of the state behind it. -/
theorem lastKey_newsProgress {emitted : List Object} {final : Object}
    (last : emitted.getLast? = some final) (short : Short final) :
    lastKey (newsProgress emitted) = .ok (newsKey final) := by
  obtain ⟨published, identity, dated, named, -, long, long'⟩ := short
  have key : newsKey final = (published, identity) := by
    rw [newsKey, strAt, strAt, dated, named]
    rfl
  have progress : newsProgress emitted = [("last_key", .arr [.str published, .str identity])] := by
    rw [newsProgress, last]
    show [("last_key", Json.arr [final.get "published_at", final.get "provider_item_id"])] = _
    rw [dated, named]
  rw [progress, key]
  exact if_pos ⟨long, long'⟩

theorem short_of_readRows (hashed : ∀ text, (rules.sha256 text).length = 64)
    (taken : readRows (finnhubRow rules config) body = .ok read) :
    ∀ payload ∈ read.payloads, Short payload :=
  foldlM_preserves (fun _ _ _ _ stepped => finnhubRow_short hashed stepped) taken
    (List.forall_mem_nil _)

/-- The request for what is left of the payloads. -/
structure AtKey (library : StandardLibrary) (digest : Object → String) (adapter : BreadthAdapter)
    (written : Set (String × String)) (config : Object) (lineage : ContinuationLineage) (size : Int)
    (read : Rows) (left : List Object) (request : ProviderFetchRequest) : Prop where
  ready : ∃ state last, lastKey state = .ok last ∧
    ((wholeNews read).filter fun payload => !keyLe (newsKey payload) last) = left ∧
    Ready library digest adapter written config lineage size state request
  suffix : left <:+ wholeNews read
  valid : ∃ checked, Checked library adapter left checked ∧ PositionsIn written checked.payloads

/-- **One page of company news**: it has the first payloads of those that are left. -/
theorem AtKey.fetches (news : IsCompanyNews adapter)
    (hex : ∀ config, isHash (digest config).toList = true)
    (hashed : ∀ text, (library.sha256 text).length = 64) (back : ReadsBack library reader written)
    {transport : Sent → Transported} {response : Response} {left : List Object}
    (safe : (newsSent config).isSafe library = true)
    (answers : transport (newsSent config) = .answered response)
    (good : statusError response.statusCode none = none) (rows : response.body = .arr body)
    (taken : readRows (finnhubRow (rowRules library) config) body = .ok read)
    (consistent : Consistent (rowRules library) read)
    (at_key : AtKey library digest adapter written config lineage size read left request) :
    ∃ result piece, (pageReader library digest reader.loads adapter transport).fetch request =
        .ok result ∧
      (GivesFacts library adapter (· = read.rejected) piece result ∧
        result.coverageIncomplete = false) ∧
      ((requestBehind request result = none ∧ True) ∧ left = piece ∨
        ∃ next left', requestBehind request result = some next ∧
          AtKey library digest adapter written config lineage size read left' next ∧
          left = piece ++ left' ∧ (left'.length - 1) / size.toNat < (left.length - 1) / size.toNat) := by
  obtain ⟨⟨state, last, held, behind_last, ready⟩, ⟨front, whole⟩, checked, valid, inside⟩ := at_key
  have bounds := ready.limited ▸ ready.stands.limit
  have notNews : ¬(adapter.provider = "marketaux" ∧ statePage state = 1000) := by
    rw [news.1]
    simp
  rw [← List.take_append_drop size.toNat left] at valid
  obtain ⟨one, rest, valid', other, rfl⟩ := valid.parts
  have page : payloads (rowRules library) adapter.provider adapter.operation response.body config
      size.toNat (statePage state) (stateOffset state) state [] =
      .ok ⟨left.take size.toNat, size.toNat < left.length, newsProgress (left.take size.toNat),
        read.rejected⟩ := by
    rw [news.1, rows, ← behind_last, ← finnhubPayloads_eq taken consistent held]
    rfl
  have names : (referenceNames response.body).Nodup := by
    rw [rows]
    exact List.nodup_nil
  obtain ⟨result, fetched, of, ends, -, leads⟩ := ready.fetches hex hashed back
    (params_companyNews news _ _) safe answers good names page valid'
    fun fact member => inside fact (List.mem_append_left _ member)
  have gives : GivesFacts library adapter (· = read.rejected) (left.take size.toNat) result :=
    ⟨read.rejected, one, rfl, valid', of⟩
  by_cases more : size.toNat < left.length
  · obtain ⟨covers, next, leads_on, ready'⟩ := leads (decide_eq_true more) notNews
    obtain ⟨final, member, final_last⟩ := exists_last (by omega) more
    have ordered := @strict_firsts (sortByKey newsKey read.payloads) newsKey sortByKey_sorted
      fun _ => rfl
    have source : final ∈ read.payloads := by
      refine mem_sortByKey.1 (mem_of_mem_firsts (?_ : final ∈ wholeNews read))
      rw [← whole]
      exact List.mem_append_right _ member
    have after : ((wholeNews read).filter fun payload => !keyLe (newsKey payload) (newsKey final)) =
        left.drop size.toNat := by
      have parts : wholeNews read = (front ++ left.take size.toNat) ++ left.drop size.toNat := by
        rw [List.append_assoc, List.take_append_drop, whole]
      rw [parts]
      refine filter_after (parts ▸ ordered) behind_self ?_
      rw [List.getLast?_append, final_last]
      rfl
    refine ⟨result, _, fetched, ⟨gives, covers⟩, .inr ⟨next, left.drop size.toNat, leads_on,
      ⟨⟨_, _, lastKey_newsProgress final_last (short_of_readRows hashed taken final source), after,
        ready'⟩, ?_, rest, other, fun fact member => inside fact (List.mem_append_right _ member)⟩,
      (List.take_append_drop _ _).symm, ?_⟩⟩
    · rw [← whole]
      exact (List.drop_suffix _ _).trans (List.suffix_append _ _)
    · rw [List.length_drop, Nat.div_eq_sub_div (by omega) (show size.toNat ≤ left.length - 1 by omega),
        Nat.sub_right_comm]
      exact Nat.lt_succ_self _
  · obtain ⟨stops, covers⟩ := ends (decide_eq_false more)
    exact ⟨result, _, fetched, ⟨gives, covers⟩,
      .inl ⟨⟨stops, trivial⟩, (List.take_of_length_le (by omega)).symm⟩⟩

/-- **Company news is read to its end.** Where the rows of the answer can be read, the run of a window
meets no error and hands on every payload of the answer once, in the order of their times, whatever the
size of a page. Every page rejects the rows of the answer that are rejected, and besides them the
payloads of its own that are not valid. -/
theorem company_news_gathered (news : IsCompanyNews adapter)
    (hex : ∀ config, isHash (digest config).toList = true)
    (hashed : ∀ text, (library.sha256 text).length = 64) (back : ReadsBack library reader written)
    {transport : Sent → Transported} {response : Response} {prepared : Prepared}
    (ready : adapter.prepare digest request = .ok prepared) (start : prepared.state = [])
    (safe : prepared.sent.isSafe library = true) (carries : Carries library written request.cursor)
    (answers : transport prepared.sent = .answered response)
    (good : statusError response.statusCode none = none) (rows : response.body = .arr body)
    (taken : readRows (finnhubRow (rowRules library) prepared.config) body = .ok read)
    (consistent : Consistent (rowRules library) read)
    (valid : Checked library adapter (wholeNews read) checked)
    (inside : PositionsIn written checked.payloads) :
    ∃ results, Traverses (pageReader library digest reader.loads adapter transport) request results ∧
      results.length ≤ ((wholeNews read).length - 1) / request.limit.toNat + 1 ∧
      (∀ result ∈ results, result.safeErrors = [] ∧ result.coverageIncomplete = false) ∧
      firsts identityOf (results.flatMap fun result => result.factualProjections) =
        firsts identityOf checked.payloads ∧
      ∃ parts : List (List String), parts.flatten = checked.rejected ∧
        results.map (fun result => result.rejectedRowHashes) =
          parts.map fun part => read.rejected ++ part := by
  have stands := Stands.of_prepare ready start
  have sent : prepared.sent = newsSent prepared.config := by
    have same := stands.prepared (params_companyNews news _ _)
    rw [ready] at same
    exact congrArg Prepared.sent (Except.ok.inj same)
  rw [sent] at safe answers
  have all : ((wholeNews read).filter fun payload => !keyLe (newsKey payload) ("", "")) =
      wholeNews read := by
    refine List.filter_eq_self.2 fun payload member => ?_
    obtain ⟨published, identity, dated, -, present, -, -⟩ :=
      short_of_readRows hashed taken payload (mem_sortByKey.1 (mem_of_mem_firsts member))
    have key : (newsKey payload).1 = published := by
      show strAt payload "published_at" = published
      rw [strAt, dated]
      rfl
    have least : ¬ published < "" := by
      rw [String.lt_iff_toList_lt]
      exact List.not_lt_nil _
    simp [keyLe, key, present, least]
  have starts : AtKey library digest adapter written prepared.config prepared.lineage request.limit
      read (wholeNews read) request :=
    ⟨⟨[], ("", ""), rfl, all, stands, carries, rfl⟩, List.suffix_refl _, checked, valid, inside⟩
  obtain ⟨results, gathers, short, -⟩ := @exists_gathers _ _ _ _ _
    (pageReader library digest reader.loads adapter transport) _ _
    (fun left => left) _ _
    (fun left request here => here.fetches news hex hashed back safe answers good rows taken
      consistent) (wholeNews read) request starts
  obtain ⟨⟨traverses, pieces, whole, given⟩, complete⟩ := gathers.parts
  have every_payload : pieces.flatten = wholeNews read := whole
  rw [← every_payload] at valid
  obtain ⟨clean, facts, parts, flat, each⟩ := gathered_payloads given valid
  refine ⟨results, traverses, short, fun result member => ⟨clean result member,
    complete result member⟩, facts, parts, flat, ?_⟩
  rw [eq_comm, ← List.forall₂_eq_eq_eq, List.forall₂_map_left_iff, List.forall₂_map_right_iff]
  refine each.imp fun part result given => ?_
  obtain ⟨rejected, rfl, same⟩ := given
  exact same.symm

end Company

/-! ### Two items, one a page -/

section Apple

/-- The keys of payloads are in order, and one identity has one key. -/
def inOrder (keys : List (String × String)) : Bool :=
  decide (keys.Pairwise fun first second => keyLe first second = true) &&
    keys.all fun first => keys.all fun second => first.2 != second.2 || first == second

/-- The positions of the facts of an answer whose payloads are in order, if it can be read. -/
def newsPositions (library : StandardLibrary) (adapter : BreadthAdapter) (config : Object)
    (body : List Json) : Option (List (String × String)) := do
  let read ← (readRows (finnhubRow (rowRules library) config) body).toOption
  let _ ← (deduplicate (rowRules library) read.payloads []).toOption
  let checked ← (checkedRows library adapter (firsts identityOf read.payloads)).toOption
  let _ ← (deduplicate (rowRules library) checked.payloads []).toOption
  if inOrder (read.payloads.map newsKey) then some (checked.payloads.map textsOf) else none

/-- An answer with such positions can be read. -/
theorem exists_consistent {library : StandardLibrary} {adapter : BreadthAdapter} {config : Object}
    {body : List Json} {positions : List (String × String)}
    (seen : newsPositions library adapter config body = some positions) :
    ∃ read checked, readRows (finnhubRow (rowRules library) config) body = .ok read ∧
      Consistent (rowRules library) read ∧ Checked library adapter (wholeNews read) checked ∧
      checked.payloads.map textsOf = positions := by
  simp only [newsPositions, Option.bind_eq_bind, Option.bind_eq_some_iff, toOption_eq_some,
    Option.ite_none_right_eq_some, Option.some.injEq, inOrder, Bool.and_eq_true, decide_eq_true_eq,
    List.all_eq_true, Bool.or_eq_true, bne_iff_ne, beq_iff_eq] at seen
  obtain ⟨read, taken, kept, distinct, checked, valid, kept', distinct', ⟨sorted, timed⟩, rfl⟩ := seen
  have whole : wholeNews read = firsts identityOf read.payloads := by
    have ordered : read.payloads.Pairwise fun first second =>
        keyLe (newsKey first) (newsKey second) = true := List.pairwise_map.1 sorted
    rw [wholeNews, sortByKey, List.mergeSort_of_pairwise ordered]
  refine ⟨read, checked, taken, ⟨(deduplicate_eq_ok.1 distinct).1, ?_⟩,
    ⟨whole ▸ valid, (deduplicate_eq_ok.1 distinct').1⟩, rfl⟩
  intro first member second member' same
  exact (timed _ (List.mem_map_of_mem member) _ (List.mem_map_of_mem member')).resolve_left
    (not_not_intro same)

def appleConfig : Object :=
  [("symbol", .str "AAPL"), ("window_mode", .str "fixed_window"), ("start", .str "2024-01-01"),
    ("end", .str "2024-01-08")]

def appleAdapter : BreadthAdapter := ⟨"finnhub", "company_news", some "FINNHUB_API_KEY"⟩

def appleRequest : ProviderFetchRequest :=
  { priceRequest none with limit := 1, config := appleConfig }

/-- A row of company news. -/
def appleRow (identity : Int) (published : String) : Json :=
  .obj [("id", .int identity), ("datetime", .str published), ("headline", .str "Apple"),
    ("source", .str "Wire"), ("category", .str "company")]

def appleRows : List Json := [appleRow 1 "2024-01-02T00:00:00Z", appleRow 2 "2024-01-03T00:00:00Z"]

def applePositions : List (String × String) :=
  [("2024-01-02T00:00:00+00:00", "company-news:id:1"),
    ("2024-01-03T00:00:00+00:00", "company-news:id:2")]

/-- The two rows, one a page. -/
theorem company_news_gathered_apple : ∃ results, ∃ checked : Rows,
    Traverses (pageReader numberLibrary (fun _ => oilDigest) (readerOf applePositions).loads
      appleAdapter fun _ => .answered ⟨200, none, 0, .arr appleRows⟩) appleRequest results ∧
    checked.payloads.map textsOf = applePositions ∧
    firsts identityOf (results.flatMap fun result => result.factualProjections) =
      firsts identityOf checked.payloads := by
  have hex : isHash oilDigest.toList = true := by decide +kernel
  have long : emptyDigest.length = 64 := by decide +kernel
  obtain ⟨prepared, ready, start, config, safe⟩ : ∃ prepared,
      appleAdapter.prepare (fun _ => oilDigest) appleRequest = .ok prepared ∧
        prepared.state = [] ∧ prepared.config = appleConfig ∧
        prepared.sent.isSafe numberLibrary = true := ⟨_, rfl, rfl, rfl, by decide +kernel⟩
  obtain ⟨read, checked, taken, consistent, valid, positions⟩ := @exists_consistent numberLibrary
    appleAdapter prepared.config appleRows applePositions (by rw [config]; decide +kernel)
  obtain ⟨results, traverses, -, -, facts, -⟩ := @company_news_gathered numberLibrary
    (fun _ => oilDigest) (readerOf applePositions) appleAdapter _ appleRequest read checked appleRows
    ⟨rfl, rfl⟩ (fun _ => hex) (fun _ => long) (readerOf_reads (by decide +kernel) _)
    (fun _ => .answered ⟨200, none, 0, .arr appleRows⟩) ⟨200, none, 0, .arr appleRows⟩ prepared ready
    start safe ⟨none, rfl, fun position member => by cases member⟩ rfl rfl rfl taken consistent valid
    fun fact member position has => positions ▸ textsOf_eq has ▸ List.mem_map_of_mem member
  exact ⟨results, checked, traverses, positions, facts⟩

end Apple

end NewsCollect.Providers
