/-
**What a configuration has to do with the payloads.**

The configuration of a target is accepted by one grammar, and the payloads of its items by another.
For every operation, the values of the configuration alone decide whether an item is refused that
another configuration would have let through.

* `Accepts`: the validator accepts a payload.
* `marketaux_accepts_iff`, `quote_accepts_iff`, …: what is asked of the values of the configuration.
-/

import NewsCollect.Collection.TargetConfigs
import NewsCollect.Proof.FixedPoint
import NewsCollect.Providers.RowRules

namespace NewsCollect.Collection

open Contract Providers SafeProjection Text

/-- The validator accepts the payload. -/
def Accepts (library : StandardLibrary) (provider operation : String) (payload : Object) : Prop :=
  ∃ result, validateFactualPayload library provider operation 1 payload = .ok result

variable {library : StandardLibrary}

section Contracts

variable {payload : Object}

theorem accepts_marketaux : Accepts library "marketaux" "news_all" payload ↔
    isUnsafe (.obj payload) = false ∧
      ∃ result, contract marketauxKeys (marketauxSteps library) payload = .ok result := by
  constructor
  · rintro ⟨result, accepted⟩
    have clean := (validate_cases accepted).2.1
    exact ⟨clean, result, (validate_of_markless clean).1 ▸ accepted⟩
  · rintro ⟨clean, result, accepted⟩
    exact ⟨result, (validate_of_markless clean).1.trans accepted⟩

theorem accepts_quote : Accepts library "finnhub" "quote" payload ↔
    isUnsafe (.obj payload) = false ∧ ∃ result, contract quoteKeys quoteSteps payload = .ok result := by
  constructor
  · rintro ⟨result, accepted⟩
    have clean := (validate_cases accepted).2.1
    exact ⟨clean, result, (validate_of_markless clean).2.1 ▸ accepted⟩
  · rintro ⟨clean, result, accepted⟩
    exact ⟨result, (validate_of_markless clean).2.1.trans accepted⟩

theorem accepts_companyNews : Accepts library "finnhub" "company_news" payload ↔
    isUnsafe (.obj payload) = false ∧
      ∃ result, contract companyNewsKeys (companyNewsSteps library) payload = .ok result := by
  constructor
  · rintro ⟨result, accepted⟩
    have clean := (validate_cases accepted).2.1
    exact ⟨clean, result, (validate_of_markless clean).2.2.1 ▸ accepted⟩
  · rintro ⟨clean, result, accepted⟩
    exact ⟨result, (validate_of_markless clean).2.2.1.trans accepted⟩

theorem accepts_retail : Accepts library "eia" "electricity_retail_sales" payload ↔
    isUnsafe (.obj payload) = false ∧ ∃ result, contract eiaKeys eiaSteps payload = .ok result := by
  constructor
  · rintro ⟨result, accepted⟩
    have clean := (validate_cases accepted).2.1
    exact ⟨clean, result, (validate_of_markless clean).2.2.2.1 ▸ accepted⟩
  · rintro ⟨clean, result, accepted⟩
    exact ⟨result, (validate_of_markless clean).2.2.2.1.trans accepted⟩

theorem accepts_rto : Accepts library "eia" "electricity_rto_region_data" payload ↔
    isUnsafe (.obj payload) = false ∧
      ∃ result, contract rtoKeys (rtoSteps library) payload = .ok result := by
  constructor
  · rintro ⟨result, accepted⟩
    have clean := (validate_cases accepted).2.1
    exact ⟨clean, result, (validate_of_markless clean).2.2.2.2.1 ▸ accepted⟩
  · rintro ⟨clean, result, accepted⟩
    exact ⟨result, (validate_of_markless clean).2.2.2.2.1.trans accepted⟩

theorem accepts_sec : Accepts library "sec_edgar" "submissions_recent" payload ↔
    isUnsafe (.obj payload) = false ∧ ∃ result, sec payload = .ok result := by
  constructor
  · rintro ⟨result, accepted⟩
    have clean := (validate_cases accepted).2.1
    exact ⟨clean, result, (validate_of_markless clean).2.2.2.2.2 ▸ accepted⟩
  · rintro ⟨clean, result, accepted⟩
    exact ⟨result, (validate_of_markless clean).2.2.2.2.2.trans accepted⟩

/-- A change of a field: its key, the new value, and the form of that. -/
abbrev Change : Type := String × Json × Json

/-- The record with the new values. -/
def changed (record : Object) (changes : List Change) : Object :=
  changes.foldl (fun record change => record.set change.1 change.2.1) record

/-- The forms after the changes. -/
def formOf (changes : List Change) (before : Object) (key : String) : Json :=
  match changes.lookup key with
  | some change => change.2
  | none => before.get key

theorem get_changed {changes : List Change} (once : (changes.map Prod.fst).Nodup)
    (record : Object) (key : String) : (changed record changes).get key =
      match changes.lookup key with
      | some change => change.1
      | none => record.get key := by
  induction changes generalizing record with
  | nil => rfl
  | cons change changes ih =>
      obtain ⟨first, value, form⟩ := change
      obtain ⟨fresh, once⟩ := List.nodup_cons.1 once
      rw [changed, List.foldl_cons, ← changed, ih once]
      by_cases same : key = first
      · subst same
        have missing : changes.lookup key = none := by
          rw [List.lookup_eq_none_iff]
          intro other member
          simpa using fun equal : key = other.1 => fresh (List.mem_map.2 ⟨other, member, equal.symm⟩)
        simp [missing, List.lookup]
      · have different : (key == first) = false := by simpa using same
        simp only [List.lookup, different, Object.get_set_ne same]

theorem keys_changed {changes : List Change} {record : Object}
    (inside : ∀ change ∈ changes, change.1 ∈ record.keys) :
    (changed record changes).keys = record.keys := by
  induction changes generalizing record with
  | nil => rfl
  | cons change changes ih =>
      obtain ⟨here, later⟩ := List.forall_mem_cons.1 inside
      have same := Object.keys_set change.2.1 here
      rw [changed, List.foldl_cons, ← changed, ih (by rw [same]; exact later), same]

/-- **A record is accepted that differs from an accepted one in some fields only**, if those have
forms of their own and the checks that read them pass. -/
theorem exists_contract {keys : List String} {steps : List (Step PyError)} {other before : Object}
    (changes : List Change) (ordered : Ordered steps)
    (accepted : contract keys steps other = .ok before) (once : (changes.map Prod.fst).Nodup)
    (inside : ∀ change ∈ changes, change.1 ∈ keys)
    (fields : ∀ change ∈ changes, ∀ normal, .field change.1 normal ∈ steps →
      normal change.2.1 = .ok change.2.2)
    (others : ∀ change ∈ changes, (∀ step ∈ steps, change.1 ∉ step.writes) →
      change.2.1 = change.2.2)
    (checks : ∀ reads holds, .check reads holds ∈ steps →
      (∃ key ∈ reads, key ∈ changes.map Prod.fst) →
      holds (reads.map (formOf changes before)) = .ok ()) :
    ∃ result, contract keys steps (changed other changes) = .ok result := by
  obtain ⟨named, ran⟩ := contract_eq_ok.1 accepted
  have present : ∀ change ∈ changes, change.1 ∈ other.keys := fun change member =>
    (Object.sameKeys_iff.1 named change.1).2 (inside change member)
  have renamed : (changed other changes).sameKeys keys = true := by
    rw [Object.sameKeys_iff] at named ⊢
    rw [keys_changed present]
    exact named
  have done : ∃ result, run steps (changed other changes) = .ok result := by
    refine exists_run ordered (formOf changes before) (fun key normal member => ?_)
      (fun key unwritten => ?_) fun reads holds member => ?_
    · rw [get_changed once, formOf]
      cases found : changes.lookup key with
      | some change => exact fields _ (Spelling.mem_of_lookup found) normal member
      | none => exact normal_of_run ordered ran member
    · rw [get_changed once, formOf]
      cases found : changes.lookup key with
      | some change => exact others _ (Spelling.mem_of_lookup found) unwritten
      | none => exact (get_of_run ran unwritten).symm
    · by_cases new : ∃ key ∈ reads, key ∈ changes.map Prod.fst
      · exact checks reads holds member new
      · push Not at new
        have old : reads.map (formOf changes before) = reads.map before.get := by
          refine List.map_congr_left fun key read => ?_
          rw [formOf, List.lookup_eq_none_iff.2]
          intro change listed
          simpa using fun equal : key = change.1 =>
            new key read (List.mem_map.2 ⟨change, listed, equal.symm⟩)
        rw [old]
        exact holds_of_run ordered ran member
  obtain ⟨result, done⟩ := done
  exact ⟨result, contract_eq_ok.2 ⟨renamed, done⟩⟩

end Contracts

/-! ### News items -/

/-- The configuration of a news target gives values the validator accepts. -/
structure NewsFits (config : Object) : Prop where
  query : ∃ form, SafeProjection.query (config.get "query") = .ok form
  language : ∃ form, SafeProjection.language (config.get "language") = .ok form
  symbols : ∃ form, SafeProjection.symbols (config.get "symbols") = .ok form
  markless : isUnsafe (config.get "query") = false ∧ isUnsafe (config.get "language") = false ∧
    isUnsafe (config.get "symbols") = false

theorem isUnsafe_marketauxPayload {config item : Object} :
    isUnsafe (.obj (marketauxPayload config item)) = false ↔
      (isUnsafe (config.get "query") = false ∧ isUnsafe (config.get "language") = false ∧
          isUnsafe (config.get "symbols") = false) ∧
        ∀ key ∈ ["provider_item_id", "published_at", "display_title", "display_url",
          "source_identity"], isUnsafe (item.get key) = false := by
  have names : ∀ key ∈ marketauxKeys, hasMarker key = false := by decide
  simp only [marketauxKeys, List.forall_mem_cons, List.not_mem_nil, false_implies, implies_true,
    and_true] at names
  have blocked : hasMarker "blocked" = false := by decide
  simp [isUnsafe_obj, marketauxPayload, names, blocked]
  tauto

/-- **An item another configuration lets through is accepted exactly if the configuration fits.** -/
theorem marketaux_accepts_iff {config other item : Object}
    (readable : Accepts library "marketaux" "news_all" (marketauxPayload other item)) :
    Accepts library "marketaux" "news_all" (marketauxPayload config item) ↔ NewsFits config := by
  obtain ⟨clean, before, accepted⟩ := accepts_marketaux.1 readable
  have ordered := ordered_marketaux library
  constructor
  · intro own
    obtain ⟨markless, result, accepted⟩ := accepts_marketaux.1 own
    have field {key normal} (member : .field key normal ∈ marketauxSteps library) :=
      (field_of_contract ordered markless accepted member).1
    exact ⟨⟨_, field (show .field "query" query ∈ marketauxSteps library by simp [marketauxSteps])⟩,
      ⟨_, field (show .field "language" language ∈ marketauxSteps library by
        simp [marketauxSteps])⟩,
      ⟨_, field (show .field "symbols" symbols ∈ marketauxSteps library by simp [marketauxSteps])⟩,
      (isUnsafe_marketauxPayload.1 markless).1⟩
  · rintro ⟨⟨q, query⟩, ⟨l, language⟩, ⟨s, symbols⟩, markless⟩
    have field {key normal} (member : .field key normal ∈ marketauxSteps library) :=
      (field_of_contract ordered clean accepted member).1
    have checked {reads holds} (member : .check reads holds ∈ marketauxSteps library) :=
      holds_of_run ordered (contract_eq_ok.1 accepted).2 member
    refine accepts_marketaux.2 ⟨isUnsafe_marketauxPayload.2 ⟨markless,
      (isUnsafe_marketauxPayload.1 clean).2⟩,
      exists_contract [("query", config.get "query", q), ("language", config.get "language", l),
        ("symbols", config.get "symbols", s)] ordered accepted (by simp) (by simp [marketauxKeys])
        ?_ ?_ ?_⟩
    · simp only [List.forall_mem_cons, marketauxSteps, checkField]
      refine ⟨fun normal member => ?_, fun normal member => ?_, fun normal member => ?_, by simp⟩ <;>
        simp at member <;> subst member
      · exact query
      · exact language
      · exact symbols
    · simp [marketauxSteps, checkField, Step.writes]
    · rintro reads holds step ⟨key, read, new⟩
      simp only [marketauxSteps, checkField, List.mem_cons, Step.check.injEq, reduceCtorEq,
        List.not_mem_nil, or_false, false_or] at step
      rcases step with ⟨rfl, rfl⟩ | ⟨rfl, rfl⟩ | ⟨rfl, rfl⟩ <;>
        (rw [List.mem_singleton] at read; subst read; simp at new)

/-! ### Company news and quotes -/

theorem isUnsafe_companyNewsPayload {config row : Object} {url : Option String}
    {identity published : String} :
    isUnsafe (.obj (companyNewsPayload config row url identity published)) = false ↔
      isUnsafe (config.get "symbol") = false ∧ hasMarker identity = false ∧
        hasMarker published = false ∧ isUnsafe (textOrNull url) = false ∧
        ∀ key ∈ ["headline", "source", "category"], isUnsafe (row.get key) = false := by
  have names : ∀ key ∈ companyNewsKeys, hasMarker key = false := by decide
  simp only [companyNewsKeys, List.forall_mem_cons, List.not_mem_nil, false_implies, implies_true,
    and_true] at names
  have blocked : hasMarker "blocked" = false := by decide
  simp [isUnsafe_obj, companyNewsPayload, names, blocked]
  tauto

theorem companyNews_accepts_iff {config other row : Object} {url : Option String}
    {identity published : String}
    (readable : Accepts library "finnhub" "company_news"
      (companyNewsPayload other row url identity published)) :
    Accepts library "finnhub" "company_news" (companyNewsPayload config row url identity published) ↔
      (∃ form, symbol (config.get "symbol") = .ok form) ∧
        isUnsafe (config.get "symbol") = false := by
  obtain ⟨clean, before, accepted⟩ := accepts_companyNews.1 readable
  have ordered := ordered_companyNews library
  constructor
  · intro own
    obtain ⟨markless, result, accepted⟩ := accepts_companyNews.1 own
    exact ⟨⟨_, (field_of_contract ordered markless accepted (show .field "symbol" symbol ∈
      companyNewsSteps library by simp [companyNewsSteps])).1⟩,
      (isUnsafe_companyNewsPayload.1 markless).1⟩
  · rintro ⟨⟨form, done⟩, markless⟩
    refine accepts_companyNews.2 ⟨isUnsafe_companyNewsPayload.2 ⟨markless,
      (isUnsafe_companyNewsPayload.1 clean).2⟩,
      exists_contract [("symbol", config.get "symbol", form)] ordered accepted (by simp)
        (by simp [companyNewsKeys]) ?_ ?_ ?_⟩
    · simp only [List.forall_mem_cons, companyNewsSteps, checkField]
      refine ⟨fun normal member => ?_, by simp⟩
      simp at member
      subst member
      exact done
    · simp [companyNewsSteps, checkField, Step.writes]
    · rintro reads holds step ⟨key, read, new⟩
      simp only [companyNewsSteps, checkField, List.mem_cons, Step.check.injEq, reduceCtorEq,
        List.not_mem_nil, or_false, false_or] at step
      rcases step with ⟨rfl, rfl⟩ | ⟨rfl, rfl⟩ | ⟨rfl, rfl⟩ <;>
        (rw [List.mem_singleton] at read; subst read; simp at new)

theorem isUnsafe_quotePayload {name published : String} {seconds : Int} {body : Object} :
    isUnsafe (.obj (quotePayload name published seconds body)) = false ↔
      hasMarker name = false ∧ hasMarker published = false ∧
        hasMarker (toString seconds) = false ∧
        ∀ key ∈ quoteFields, isUnsafe (body.get key) = false := by
  have names : ∀ key ∈ quoteKeys, hasMarker key = false := by decide
  simp only [quoteKeys, List.forall_mem_cons, List.not_mem_nil, false_implies, implies_true,
    and_true] at names
  have unknown : hasMarker "unknown" = false := by decide
  have apart : hasMarker (name ++ ":" ++ toString seconds) =
      (hasMarker name || hasMarker (toString seconds)) := by
    have shape : (name ++ ":" ++ toString seconds).toList =
        name.toList ++ ':' :: (toString seconds).toList := by
      simp [String.toList_append]
    rw [hasMarker, shape, containsAny_append_cons (by decide)]
    rfl
  simp only [isUnsafe_obj, quotePayload, quoteFields, List.map_cons, List.map_nil, List.cons_append,
    List.nil_append, List.forall_mem_cons, names, unknown, apart, isUnsafe_str, isUnsafe_int,
    List.not_mem_nil, false_implies, implies_true, and_true, true_and, Bool.or_eq_false_iff]
  tauto

/-- **A quote is accepted exactly if its symbol is one of the validator's.** -/
theorem quote_accepts_iff {name other published : String} {seconds : Int} {body : Object}
    (readable : Accepts library "finnhub" "quote" (quotePayload other published seconds body)) :
    Accepts library "finnhub" "quote" (quotePayload name published seconds body) ↔
      symbolOf (.str name) = .ok name ∧ hasMarker name = false := by
  obtain ⟨clean, before, accepted⟩ := accepts_quote.1 readable
  constructor
  · intro own
    obtain ⟨markless, result, accepted⟩ := accepts_quote.1 own
    have done := (field_of_contract ordered_quote markless accepted (show .field "symbol" symbol ∈
      quoteSteps by simp [quoteSteps])).1
    obtain ⟨form, read, same⟩ := map_eq_ok.1 done
    have ran := (contract_eq_ok.1 accepted).2
    have identity := holds_of_run ordered_quote ran
      (show .check ["symbol", "provider_timestamp", "provider_item_id"] quoteIdentity ∈ quoteSteps by
        simp [quoteSteps])
    have seconds' : result.get "provider_timestamp" = .int seconds :=
      get_of_run ran (by simp [quoteSteps, checkField, Step.writes])
    have named : result.get "provider_item_id" = .str (name ++ ":" ++ toString seconds) :=
      get_of_run ran (by simp [quoteSteps, checkField, Step.writes])
    simp only [List.map_cons, List.map_nil, ← same, seconds', named, quoteIdentity, exactly,
      require_eq_ok, Json.eq_str, Json.str.injEq] at identity
    have equal : name = form := by
      have letters := congrArg String.toList identity
      simp only [String.toList_append] at letters
      exact String.toList_inj.1 (List.append_cancel_right (List.append_cancel_right letters))
    refine ⟨?_, (isUnsafe_quotePayload.1 markless).1⟩
    rw [← equal] at read
    exact read
  · rintro ⟨done, markless⟩
    refine accepts_quote.2 ⟨isUnsafe_quotePayload.2 ⟨markless, (isUnsafe_quotePayload.1 clean).2⟩,
      exists_contract [("symbol", .str name, .str name),
        ("provider_item_id", .str (name ++ ":" ++ toString seconds),
          .str (name ++ ":" ++ toString seconds))] ordered_quote accepted (by simp)
        (by simp [quoteKeys]) ?_ ?_ ?_⟩
    · simp only [List.forall_mem_cons, quoteSteps, checkField]
      refine ⟨fun normal member => ?_, fun normal member => ?_, by simp⟩
      · simp at member
        subst member
        exact map_eq_ok.2 ⟨name, done, rfl⟩
      · simp at member
    · simp [quoteSteps, checkField, Step.writes]
    · rintro reads holds step ⟨key, read, new⟩
      have seconds' : before.get "provider_timestamp" = .int seconds :=
        get_of_run (contract_eq_ok.1 accepted).2 (by simp [quoteSteps, checkField, Step.writes])
      simp [quoteSteps, checkField] at step
      rcases step with ⟨rfl, rfl⟩ | ⟨rfl, rfl⟩ | ⟨rfl, rfl⟩
      · rw [List.mem_singleton] at read
        subst read
        simp at new
      · simp [formOf, List.lookup, seconds', quoteIdentity, exactly]
      · simp only [List.mem_cons, List.not_mem_nil, or_false] at read
        rcases read with rfl | rfl <;> simp at new

/-! ### Prices -/

/-- The facet of a price has a slug, and that has no marker. -/
def FacetFits (facet : String) : Prop :=
  slug facet.toList ≠ [] ∧ containsAny markers (slug facet.toList) = false

/-- The series of these slugs. -/
def priceSeries (geography sector : List Char) : String :=
  "electricity/retail-sales/" ++ String.ofList geography ++ "/" ++ String.ofList sector ++ "/" ++
    "price"

/-- The series has a marker exactly if a slug has one. -/
theorem hasMarker_priceSeries (geography sector : List Char) :
    hasMarker (priceSeries geography sector) =
      (containsAny markers geography || containsAny markers sector) := by
  have shape : (priceSeries geography sector).toList = "electricity/retail-sales".toList ++
      '/' :: (geography ++ '/' :: (sector ++ '/' :: "price".toList)) := by
    have opening : "electricity/retail-sales/".toList =
        "electricity/retail-sales".toList ++ ['/'] := rfl
    have slash : "/".toList = ['/'] := rfl
    unfold priceSeries
    simp only [String.toList_append, String.toList_ofList, opening, slash, List.append_assoc,
      List.cons_append, List.nil_append]
  have front : containsAny markers "electricity/retail-sales".toList = false := by decide
  have back : containsAny markers "price".toList = false := by decide
  rw [hasMarker, shape, containsAny_append_cons (by decide), containsAny_append_cons (by decide),
    containsAny_append_cons (by decide), front, back]
  simp

theorem isPlain_of_isFacet {text : List Char} (shape : isFacet text = true) :
    ∀ c ∈ text, isPlain c = true := by
  simp only [isFacet, bounded, Bool.and_eq_true, List.all_eq_true, Bool.or_eq_true] at shape
  intro c member
  have known := shape.2 c member
  simp only [isPlain, Bool.or_eq_true]
  tauto

theorem collapse_of_isFacet {text : List Char} (shape : isFacet text = true) :
    collapse text = text :=
  rejoin_of_all (noSpace_of_forall (isPlain_of_isFacet shape))

theorem length_slug_of_isFacet {text : List Char} (shape : isFacet text = true) :
    (slug text).length ≤ 12 := by
  have short : text.length ≤ 12 := by
    simp only [isFacet, bounded, Bool.and_eq_true, decide_eq_true_eq] at shape
    exact shape.1.2
  have bound : (rejoin (fun c => !isSlug c) '-' (text.flatMap lowerChar)).length ≤
      (text.flatMap lowerChar).length := length_rejoin_le _
  rw [← slug, lower_of_forall (isPlain_of_isFacet shape), List.length_map] at bound
  omega

theorem hasSlash_of_forall {text : List Char} (plain : ∀ c ∈ text, isPlain c = true) :
    hasSlash text = false := by
  refine List.any_eq_false.2 fun c member => ?_
  simp only [Bool.or_eq_true, beq_iff_eq]
  rintro (rfl | rfl)
  · exact absurd (plain _ member) (by decide)
  · exact absurd (plain _ member) (by decide)

/-- A facet of a configuration becomes its slug. -/
theorem facetOf_eq_ok_iff {facet form : String} (shape : isFacet facet.toList = true)
    (clean : hasMarker facet = false) :
    facetOf (.str facet) = .ok form ↔
      slug facet.toList ≠ [] ∧ form = String.ofList (slug facet.toList) := by
  have plain := isPlain_of_isFacet shape
  rw [facetOf_eq_ok]
  constructor
  · rintro ⟨normalized, accepted, -, some, rfl⟩
    obtain ⟨raw, same, rfl, -⟩ := textOf_eq_ok.1 accepted
    obtain rfl := Json.str.inj same
    rw [String.toList_ofList, collapse_of_isFacet shape] at some ⊢
    exact ⟨some, rfl⟩
  · rintro ⟨some, rfl⟩
    refine ⟨facet, ?_, hasSlash_of_forall plain, some, rfl⟩
    have kept := collapse_of_isFacet shape
    have given : 1 ≤ facet.toList.length ∧ facet.toList.length ≤ 12 := by
      simp only [isFacet, bounded, Bool.and_eq_true, decide_eq_true_eq] at shape
      exact shape.1
    refine textOf_eq_ok.2 ⟨facet, rfl, by rw [kept, String.ofList_toList], ?_, ?_, ?_⟩
    · rw [kept]
      exact List.ne_nil_of_length_pos given.1
    · rw [kept]
      omega
    · rw [kept]
      exact clean

/-- The slug of a facet is one of itself. -/
theorem facetOf_slug {facet : String} (shape : isFacet facet.toList = true)
    (fits : FacetFits facet) :
    facetOf (.str (String.ofList (slug facet.toList))) =
      .ok (String.ofList (slug facet.toList)) := by
  have plain : ∀ c ∈ slug facet.toList, isPlain c = true := fun c member =>
    (isPlain_of_mem_slug member).1
  have short := length_slug_of_isFacet shape
  refine facetOf_eq_ok.2 ⟨_, textOf_of_noSpace (noSpace_of_forall plain) fits.1 (by omega) fits.2,
    ?_, ?_, ?_⟩
  · rw [String.toList_ofList]
    exact hasSlash_of_forall plain
  · rw [String.toList_ofList, slug_slug]
    exact fits.1
  · rw [String.toList_ofList, slug_slug]

theorem facetOf_price : facetOf (.str "price") = .ok "price" := by rfl

theorem eiaSeriesIdentity_eq_ok_iff {geography sector series : String}
    (shapes : isFacet geography.toList = true ∧ isFacet sector.toList = true)
    (clean : hasMarker geography = false ∧ hasMarker sector = false) :
    eiaSeriesIdentity (.str geography) (.str sector) (.str "price") = .ok series ↔
      slug geography.toList ≠ [] ∧ slug sector.toList ≠ [] ∧
        series = priceSeries (slug geography.toList) (slug sector.toList) := by
  rw [eiaSeriesIdentity, bind_eq_ok]
  constructor
  · rintro ⟨first, read, rest⟩
    obtain ⟨second, read', rest⟩ := bind_eq_ok.1 rest
    obtain ⟨third, read'', same⟩ := bind_eq_ok.1 rest
    obtain ⟨some, rfl⟩ := (facetOf_eq_ok_iff shapes.1 clean.1).1 read
    obtain ⟨some', rfl⟩ := (facetOf_eq_ok_iff shapes.2 clean.2).1 read'
    obtain rfl := Except.ok.inj (facetOf_price.symm.trans read'')
    exact ⟨some, some', (pure_eq_ok.1 same).symm⟩
  · rintro ⟨some, some', rfl⟩
    exact ⟨_, (facetOf_eq_ok_iff shapes.1 clean.1).2 ⟨some, rfl⟩, bind_eq_ok.2
      ⟨_, (facetOf_eq_ok_iff shapes.2 clean.2).2 ⟨some', rfl⟩, bind_eq_ok.2 ⟨_, facetOf_price, rfl⟩⟩⟩

theorem isUnsafe_retailPayload {published : Option String} {series period geography sector : String}
    {value unit : Json} :
    isUnsafe (.obj (retailPayload published series period geography sector value unit)) = false ↔
      (hasMarker series = false ∧ hasMarker geography = false ∧ hasMarker sector = false) ∧
        isUnsafe (textOrNull published) = false ∧ hasMarker period = false ∧
        isUnsafe value = false ∧ isUnsafe unit = false := by
  have names : ∀ key ∈ eiaKeys, hasMarker key = false := by decide
  simp only [eiaKeys, List.forall_mem_cons, List.not_mem_nil, false_implies, implies_true,
    and_true] at names
  have dataset : hasMarker "electricity" = false := by decide
  have price : hasMarker "price" = false := by decide
  have apart : hasMarker (period ++ ":" ++ geography ++ ":" ++ sector) =
      (hasMarker period || (hasMarker geography || hasMarker sector)) := by
    have colon : ":".toList = [':'] := rfl
    have shape : (period ++ ":" ++ geography ++ ":" ++ sector).toList =
        period.toList ++ ':' :: (geography.toList ++ ':' :: sector.toList) := by
      simp only [String.toList_append, colon, List.append_assoc, List.cons_append, List.nil_append]
    rw [hasMarker, shape, containsAny_append_cons (by decide), containsAny_append_cons (by decide)]
    rfl
  simp only [isUnsafe_obj, retailPayload, List.forall_mem_cons, names, dataset, price, apart,
    isUnsafe_str, List.not_mem_nil, false_implies, implies_true, and_true, true_and,
    Bool.or_eq_false_iff]
  tauto

/-- The characters of a month. -/
theorem mem_of_isMonth {text : List Char} (shape : shaped [isDecimal, isDecimal, isDecimal,
    isDecimal, (· == '-'), isDecimal, isDecimal] text = true) :
    ∀ c ∈ text, isDecimal c = true ∨ c = '-' := by
  intro c member
  obtain ⟨inside, listed, held⟩ := exists_of_shaped shape c member
  simp only [List.mem_cons, List.not_mem_nil, or_false, or_self_left, or_self] at listed
  rcases listed with rfl | rfl | rfl
  · exact .inl held
  · exact .inr (by simpa using held)
  · exact .inl held

/-- A price may be stored under its period and its facets. -/
theorem opaqueId_price {period geography sector : String}
    (shapes : isFacet geography.toList = true ∧ isFacet sector.toList = true)
    (month : isMonth period.toList = true)
    (clean : hasMarker (period ++ ":" ++ geography ++ ":" ++ sector) = false) :
    ∃ form, opaqueId (.str (period ++ ":" ++ geography ++ ":" ++ sector)) = .ok form := by
  have colon : ":".toList = [':'] := rfl
  have shape : (period ++ ":" ++ geography ++ ":" ++ sector).toList =
      period.toList ++ ':' :: (geography.toList ++ ':' :: sector.toList) := by
    simp only [String.toList_append, colon, List.append_assoc, List.cons_append, List.nil_append]
  rw [isMonth, Bool.and_eq_true] at month
  have seven : period.toList.length = 7 := length_of_shaped month.1
  have twelve : ∀ facet : String, isFacet facet.toList = true → facet.toList.length ≤ 12 := by
    intro facet held
    simp only [isFacet, bounded, Bool.and_eq_true, decide_eq_true_eq] at held
    exact held.1.2
  have short : (period ++ ":" ++ geography ++ ":" ++ sector).toList.length ≤ 255 := by
    have first := twelve geography shapes.1
    have second := twelve sector shapes.2
    rw [shape]
    simp only [List.length_append, List.length_cons]
    omega
  have slashless : ∀ c ∈ (period ++ ":" ++ geography ++ ":" ++ sector).toList,
      (c == '/' || c == '\\') = false := by
    have plain : ∀ c, isPlain c = true → (c == '/' || c == '\\') = false := by
      intro c plain
      rw [Bool.or_eq_false_iff, beq_eq_false_iff_ne, beq_eq_false_iff_ne]
      constructor <;> rintro rfl <;> exact absurd plain (by decide)
    have decimal : ∀ c, isDecimal c = true ∨ c = '-' → (c == '/' || c == '\\') = false := by
      intro c known
      rw [Bool.or_eq_false_iff, beq_eq_false_iff_ne, beq_eq_false_iff_ne]
      constructor <;> rintro rfl <;> exact absurd known (by decide)
    intro c member
    rw [shape] at member
    rcases List.mem_append.1 member with first | rest
    · exact decimal c (mem_of_isMonth month.1 c first)
    · rcases List.mem_cons.1 rest with rfl | rest
      · decide
      · rcases List.mem_append.1 rest with second | rest
        · exact plain c (isPlain_of_isFacet shapes.1 c second)
        · rcases List.mem_cons.1 rest with rfl | third
          · decide
          · exact plain c (isPlain_of_isFacet shapes.2 c third)
  refine ⟨.str (String.ofList (collapse (period ++ ":" ++ geography ++ ":" ++ sector).toList)),
    bind_eq_ok.2 ⟨_, textOf_eq_ok.2 ⟨_, rfl, rfl, ?_, ?_, containsAny_collapse clean⟩, ?_⟩⟩
  · have inside : ':' ∈ (period ++ ":" ++ geography ++ ":" ++ sector).toList := by
      rw [shape]
      exact List.mem_append_right _ (List.mem_cons_self ..)
    exact List.ne_nil_of_mem (mem_rejoin_of_mem inside (by decide))
  · exact Nat.le_trans (length_rejoin_le _) short
  · rw [if_neg]
    · rfl
    · rw [Bool.not_eq_true, String.toList_ofList, hasSlash, List.any_eq_false]
      intro c member
      rcases mem_rejoin member with rfl | ⟨held, -⟩
      · decide
      · rw [slashless c held]
        exact Bool.false_ne_true

/-- **A price is accepted exactly if its facets fit**, where another one would be. -/
theorem retail_accepts_iff {published : Option String} {period geography sector geography' sector'
    series' : String} {value unit : Json}
    (readable : Accepts library "eia" "electricity_retail_sales"
      (retailPayload published series' period geography' sector' value unit))
    (shapes : isFacet geography.toList = true ∧ isFacet sector.toList = true)
    (markless : hasMarker geography = false ∧ hasMarker sector = false) :
    (∃ series, eiaSeriesIdentity (.str geography) (.str sector) (.str "price") = .ok series ∧
        Accepts library "eia" "electricity_retail_sales"
          (retailPayload published series period geography sector value unit)) ↔
      FacetFits geography ∧ FacetFits sector := by
  obtain ⟨clean, before, accepted⟩ := accepts_retail.1 readable
  constructor
  · rintro ⟨series, computed, own⟩
    obtain ⟨some, some', rfl⟩ := (eiaSeriesIdentity_eq_ok_iff shapes markless).1 computed
    have safe := (isUnsafe_retailPayload.1 (accepts_retail.1 own).1).1.1
    rw [hasMarker_priceSeries, Bool.or_eq_false_iff] at safe
    exact ⟨⟨some, safe.1⟩, some', safe.2⟩
  · rintro ⟨first, second⟩
    have ran := (contract_eq_ok.1 accepted).2
    have safe : hasMarker (priceSeries (slug geography.toList) (slug sector.toList)) = false := by
      rw [hasMarker_priceSeries, first.2, second.2]
      rfl
    have whole : isUnsafe (.obj (retailPayload published
        (priceSeries (slug geography.toList) (slug sector.toList)) period geography sector value
        unit)) = false :=
      isUnsafe_retailPayload.2 ⟨⟨safe, markless⟩, (isUnsafe_retailPayload.1 clean).2⟩
    have month : isMonth period.toList = true := by
      have passed := holds_of_run ordered_eia ran (show .check ["period"]
        (fun values => eiaPeriod (values.headD .null)) ∈ eiaSteps by simp [eiaSteps, checkField])
      have kept : before.get "period" = .str period :=
        get_of_run ran (by simp [eiaSteps, checkField, Step.writes])
      rw [List.map_cons, kept] at passed
      exact require_eq_ok.1 passed
    obtain ⟨identity, stored⟩ := opaqueId_price shapes month (by
      have held := isUnsafe_get whole "provider_item_id"
      exact held)
    refine ⟨_, (eiaSeriesIdentity_eq_ok_iff shapes markless).2 ⟨first.1, second.1, rfl⟩,
      accepts_retail.2 ⟨whole, exists_contract
        [("provider_item_id", .str (period ++ ":" ++ geography ++ ":" ++ sector), identity),
          ("series_identity", .str (priceSeries (slug geography.toList) (slug sector.toList)),
            .str (priceSeries (slug geography.toList) (slug sector.toList))),
          ("geography", .str geography, .str (String.ofList (slug geography.toList))),
          ("sector", .str sector, .str (String.ofList (slug sector.toList)))]
        ordered_eia accepted (by simp) (by simp [eiaKeys]) ?_ ?_ ?_⟩⟩
    · simp only [List.forall_mem_cons, eiaSteps, checkField]
      refine ⟨fun normal member => ?_, fun normal member => ?_, fun normal member => ?_,
        fun normal member => ?_, by simp⟩ <;> simp at member <;> subst member
      · exact stored
      · exact map_eq_ok.2 ⟨_, (facetOf_eq_ok_iff shapes.1 markless.1).2 ⟨first.1, rfl⟩, rfl⟩
      · exact map_eq_ok.2 ⟨_, (facetOf_eq_ok_iff shapes.2 markless.2).2 ⟨second.1, rfl⟩, rfl⟩
    · simp [eiaSteps, checkField, Step.writes]
    · rintro reads holds step ⟨key, read, new⟩
      simp only [List.map_cons, List.map_nil, List.mem_cons, List.not_mem_nil, or_false] at new
      simp only [eiaSteps, checkField, List.mem_cons, Step.check.injEq, reduceCtorEq,
        List.not_mem_nil, or_false, false_or] at step
      rcases step with ⟨rfl, rfl⟩ | ⟨rfl, rfl⟩
      · rw [List.mem_singleton] at read
        subst read
        simp at new
      · have metric : before.get "metric" = .str "price" := by
          have done := (field_of_contract ordered_eia clean accepted
            (show .field "metric" facet ∈ eiaSteps by simp [eiaSteps])).1
          have price : facet (.str "price") = .ok (.str "price") :=
            map_eq_ok.2 ⟨_, facetOf_price, rfl⟩
          exact (Except.ok.inj (price.symm.trans done)).symm
        simp only [List.map_cons, List.map_nil, formOf, List.lookup]
        refine bind_eq_ok.2 ⟨_, bind_eq_ok.2 ⟨_, facetOf_slug shapes.1 first, bind_eq_ok.2
          ⟨_, facetOf_slug shapes.2 second, bind_eq_ok.2 ⟨_, metric ▸ facetOf_price, rfl⟩⟩⟩, ?_⟩
        exact require_eq_ok.2 (Json.eq_str.2 rfl)

end NewsCollect.Collection
