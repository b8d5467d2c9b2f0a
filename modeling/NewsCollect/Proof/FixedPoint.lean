/-
**The validator leaves its own results as they are.**

A factual payload that has been validated is validated again and stays the same, with the same
quality and the same hash, and has no secret marker, exactly if none of its symbols reads as a
marker in capitals.

* `contract_again`: a contract leaves a result as it is whose fields are settled.
* `settled_marketaux`, …, `settled_sec`: the fields of the six contracts.
* `fixed_iff`: the validator.
-/

import NewsCollect.Proof.NormalForms

namespace NewsCollect.SafeProjection

open Contract Text

/-! ### Contracts -/

theorem isUnsafe_obj {members : Object} :
    isUnsafe (.obj members) = false ↔
      ∀ entry ∈ members, hasMarker entry.1 = false ∧ isUnsafe entry.2 = false := by
  rw [isUnsafe]
  induction members with
  | nil => simp [isUnsafeMembers]
  | cons entry members ih =>
      obtain ⟨key, value⟩ := entry
      rw [List.forall_mem_cons, ← ih, isUnsafeMembers]
      simp [and_assoc]

/-- The keys of a result are those of the record, and so is what is known of them. -/
theorem isUnsafe_of_keys {members others : Object} (clean : isUnsafe (.obj members) = false)
    (keys : others.keys = members.keys) (values : ∀ entry ∈ others, isUnsafe entry.2 = false) :
    isUnsafe (.obj others) = false := by
  refine isUnsafe_obj.2 fun entry member => ⟨?_, values entry member⟩
  have inside : entry.1 ∈ others.keys := List.mem_map_of_mem member
  rw [keys] at inside
  obtain ⟨other, held, same⟩ := List.mem_map.1 inside
  rw [← same]
  exact (isUnsafe_obj.1 clean other held).1

theorem isUnsafe_get {members : Object} (clean : isUnsafe (.obj members) = false) (key : String) :
    isUnsafe (members.get key) = false :=
  Object.get_of_forall (fun value => isUnsafe value = false) rfl (fun entry member => (isUnsafe_obj.1 clean entry member).2) key

/-- What the step writes is settled. -/
def StepSettled (result : Object) : Step PyError → Prop
  | .field key normal => Settled normal (result.get key)
  | .check _ _ => True

section Again

variable {keys : List String} {steps : List (Step PyError)} {payload result : Object}

theorem contract_eq_ok :
    contract keys steps payload = .ok result ↔
      payload.sameKeys keys = true ∧ run steps payload = .ok result := by
  rw [contract]
  by_cases same : payload.sameKeys keys = true
  · rw [if_pos same, and_iff_right same]
  · rw [if_neg same]
    exact iff_of_false nofun fun both => same both.1

/-- **A contract leaves a result as it is whose fields are settled**, and it has no marker. -/
theorem contract_again (ordered : Ordered steps)
    (inside : ∀ step ∈ steps, ∀ key ∈ step.writes, key ∈ keys)
    (clean : isUnsafe (.obj payload) = false) (accepted : contract keys steps payload = .ok result)
    (settled : ∀ step ∈ steps, StepSettled result step) :
    contract keys steps result = .ok result ∧ isUnsafe (.obj result) = false := by
  obtain ⟨named, ran⟩ := contract_eq_ok.1 accepted
  have present : ∀ key ∈ keys, key ∈ payload.keys := fun key member =>
    Object.has_iff.1 (List.all_eq_true.1 (Bool.and_eq_true _ _ ▸ named).2 key member)
  have same : result.keys = payload.keys :=
    keys_of_run ran fun step member key written => present key (inside step member key written)
  have values : ∀ entry ∈ result, isUnsafe entry.2 = false :=
    forall_of_run (fun value => isUnsafe value = false) ordered ran
      (fun key normal member => (settled _ member).2) fun entry member => (isUnsafe_obj.1 clean entry member).2
  refine ⟨contract_eq_ok.2 ⟨?_, run_result ordered ran fun key normal member => ?_⟩,
    isUnsafe_of_keys clean same values⟩
  · rw [Object.sameKeys_iff] at named ⊢
    rw [same]
    exact named
  · refine ⟨(settled _ member).1, ?_⟩
    have held : result.has key = true := by
      rw [Object.has_iff, same]
      exact present key (inside _ member key (by simp [Step.writes]))
    obtain ⟨value, found⟩ := Option.isSome_iff_exists.1 held
    rw [Object.get, found, Option.getD_some]

/-- What a field is read from has no marker. -/
theorem field_of_contract (ordered : Ordered steps) (clean : isUnsafe (.obj payload) = false)
    (accepted : contract keys steps payload = .ok result) {key : String}
    {normal : Json → Result Json} (member : .field key normal ∈ steps) :
    normal (payload.get key) = .ok (result.get key) ∧ isUnsafe (payload.get key) = false :=
  ⟨normal_of_run ordered (contract_eq_ok.1 accepted).2 member, isUnsafe_get clean key⟩

/-- A field that no step writes has no marker. -/
theorem unsafe_of_unwritten (clean : isUnsafe (.obj payload) = false)
    (accepted : contract keys steps payload = .ok result) {key : String}
    (other : ∀ step ∈ steps, key ∉ step.writes) : isUnsafe (result.get key) = false := by
  rw [get_of_run (contract_eq_ok.1 accepted).2 other]
  exact isUnsafe_get clean key

end Again

/-! ### The six contracts -/

section Six

variable (library : StandardLibrary)

theorem ordered_marketaux : Ordered (marketauxSteps library) := by
  simp [Ordered, marketauxSteps, checkField, Step.reads, Step.writes]

theorem ordered_quote : Ordered quoteSteps := by
  simp [Ordered, quoteSteps, checkField, Step.reads, Step.writes]

theorem ordered_eia : Ordered eiaSteps := by
  simp [Ordered, eiaSteps, checkField, Step.reads, Step.writes]

theorem ordered_sec : Ordered secSteps := by
  simp [Ordered, secSteps, checkField, Step.reads, Step.writes]

theorem ordered_companyNews : Ordered (companyNewsSteps library) := by
  simp [Ordered, companyNewsSteps, checkField, Step.reads, Step.writes]

theorem ordered_rto : Ordered (rtoSteps library) := by
  simp [Ordered, rtoSteps, checkField, Step.reads, Step.writes]

variable {library} {payload result : Object}

theorem settled_symbol_iff {value form : Json} (done : symbol value = .ok form) :
    Settled symbol form ↔ readsAsMarker value = false := by
  obtain ⟨capitals, accepted, same⟩ := map_eq_ok.1 done
  have known : isUnsafe form = readsAsMarker value := by
    rw [← same, isUnsafe_str, hasMarker_symbol accepted]
  rw [← known]
  exact ⟨fun settled => settled.2, settled_symbol done⟩

theorem settled_marketaux (clean : isUnsafe (.obj payload) = false)
    (accepted : contract marketauxKeys (marketauxSteps library) payload = .ok result)
    (unspelled : ∀ item ∈ (payload.get "symbols").arr?.getD [], readsAsMarker item = false) :
    ∀ step ∈ marketauxSteps library, StepSettled result step := by
  have field {key normal} (member : .field key normal ∈ marketauxSteps library) :=
    field_of_contract (ordered_marketaux library) clean accepted member
  have identity := field (show .field "provider_item_id" marketauxIdentity ∈ marketauxSteps library
    by simp [marketauxSteps])
  have symbols : symbols (payload.get "symbols") = .ok (result.get "symbols") :=
    (field (by simp [marketauxSteps])).1
  have markless : isUnsafe (result.get "symbols") = false := by
    refine Bool.eq_false_iff.2 fun held => ?_
    obtain ⟨item, member, reads⟩ := (isUnsafe_symbols symbols).1 held
    exact Bool.false_ne_true ((unspelled item member).symm.trans reads)
  simp only [marketauxSteps, checkField, List.forall_mem_cons, StepSettled, List.not_mem_nil,
    false_implies, implies_true, and_true]
  exact ⟨settled_marketauxIdentity identity.2 identity.1,
    settled_query (field (by simp [marketauxSteps])).1,
    settled_timestamp (field (by simp [marketauxSteps])).1,
    settled_optionalText (field (by simp [marketauxSteps])).1,
    settled_optionalText (field (by simp [marketauxSteps])).1,
    settled_language (field (by simp [marketauxSteps])).1, settled_symbols symbols markless⟩

theorem settled_companyNews (clean : isUnsafe (.obj payload) = false)
    (accepted : contract companyNewsKeys (companyNewsSteps library) payload = .ok result)
    (unspelled : readsAsMarker (payload.get "symbol") = false) :
    ∀ step ∈ companyNewsSteps library, StepSettled result step := by
  have field {key normal} (member : .field key normal ∈ companyNewsSteps library) :=
    field_of_contract (ordered_companyNews library) clean accepted member
  simp only [companyNewsSteps, checkField, List.forall_mem_cons, StepSettled, List.not_mem_nil,
    false_implies, implies_true, true_and, and_true]
  exact ⟨settled_opaqueId (field (by simp [companyNewsSteps])).1,
    settled_timestamp (field (by simp [companyNewsSteps])).1,
    (settled_symbol_iff (field (by simp [companyNewsSteps])).1).2 unspelled,
    settled_optionalText (field (by simp [companyNewsSteps])).1,
    settled_optionalText (field (by simp [companyNewsSteps])).1,
    settled_optionalText (field (by simp [companyNewsSteps])).1⟩

theorem settled_sec (clean : isUnsafe (.obj payload) = false)
    (accepted : contract secKeys secSteps payload = .ok result)
    (unspelled : readsAsMarker (payload.get "ticker") = false) :
    ∀ step ∈ secSteps, StepSettled result step := by
  have field {key normal} (member : .field key normal ∈ secSteps) :=
    field_of_contract ordered_sec clean accepted member
  simp only [secSteps, checkField, List.forall_mem_cons, StepSettled, List.not_mem_nil,
    false_implies, implies_true, true_and, and_true]
  exact ⟨settled_timestamp (field (by simp [secSteps])).1,
    settled_text (field (by simp [secSteps])).1, settled_text (field (by simp [secSteps])).1,
    settled_text (field (by simp [secSteps])).1,
    (settled_symbol_iff (field (by simp [secSteps])).1).2 unspelled,
    settled_text (field (by simp [secSteps])).1⟩

/-- The identity of a quote has its symbol in it, and no marker. -/
theorem settled_quote (clean : isUnsafe (.obj payload) = false)
    (accepted : contract quoteKeys quoteSteps payload = .ok result) :
    ∀ step ∈ quoteSteps, StepSettled result step := by
  have field {key normal} (member : .field key normal ∈ quoteSteps) :=
    field_of_contract ordered_quote clean accepted member
  have done : symbol (payload.get "symbol") = .ok (result.get "symbol") :=
    (field (by simp [quoteSteps])).1
  have markless : isUnsafe (result.get "symbol") = false := by
    have identity : isUnsafe (result.get "provider_item_id") = false :=
      unsafe_of_unwritten clean accepted (by simp [quoteSteps, checkField, Step.writes])
    have named : quoteIdentity [result.get "symbol", result.get "provider_timestamp",
        result.get "provider_item_id"] = .ok () :=
      holds_of_run ordered_quote (contract_eq_ok.1 accepted).2
        (show .check ["symbol", "provider_timestamp", "provider_item_id"] quoteIdentity ∈ quoteSteps
          by simp [quoteSteps])
    obtain ⟨capitals, -, same⟩ := map_eq_ok.1 done
    rw [← same] at named ⊢
    unfold quoteIdentity at named
    split at named
    · next symbol seconds found shape =>
        obtain ⟨rfl, -, rfl⟩ : symbol = capitals ∧ _ ∧ result.get "provider_item_id" = found := by
          simpa [eq_comm] using shape
        rw [exactly, require_eq_ok, Json.eq_str] at named
        rw [named, isUnsafe_str, hasMarker] at identity
        rw [isUnsafe_str, hasMarker, Bool.eq_false_iff]
        intro held
        refine Bool.false_ne_true (identity.symm.trans (containsAny_of_part ?_ held))
        rw [String.toList_append, String.toList_append, List.append_assoc]
        exact (List.prefix_append ..).isInfix
    · cases named
  simp only [quoteSteps, checkField, List.cons_append, List.nil_append, List.map_cons, List.map_nil,
    List.forall_mem_cons, StepSettled, List.not_mem_nil, false_implies, implies_true, true_and,
    and_true]
  exact ⟨settled_timestamp (field (by simp [quoteSteps])).1, settled_symbol done markless,
    settled_text (field (by simp [quoteSteps])).1, settled_text (field (by simp [quoteSteps])).1,
    settled_number (field (by simp [quoteSteps])).1, settled_number (field (by simp [quoteSteps])).1,
    settled_number (field (by simp [quoteSteps])).1, settled_number (field (by simp [quoteSteps])).1,
    settled_number (field (by simp [quoteSteps])).1, settled_number (field (by simp [quoteSteps])).1,
    settled_number (field (by simp [quoteSteps])).1⟩

/-- The series of a price has been computed from its facets. -/
theorem settled_eia (clean : isUnsafe (.obj payload) = false)
    (accepted : contract eiaKeys eiaSteps payload = .ok result) :
    ∀ step ∈ eiaSteps, StepSettled result step := by
  have field {key normal} (member : .field key normal ∈ eiaSteps) :=
    field_of_contract ordered_eia clean accepted member
  have series : eiaSeries [result.get "geography", result.get "sector", result.get "metric",
      result.get "series_identity"] = .ok () :=
    holds_of_run ordered_eia (contract_eq_ok.1 accepted).2
      (show .check ["geography", "sector", "metric", "series_identity"] eiaSeries ∈ eiaSteps by
        simp [eiaSteps])
  obtain ⟨expected, computed, -⟩ := bind_eq_ok.1 series
  obtain ⟨geography, first, rest⟩ := bind_eq_ok.1 computed
  obtain ⟨sector, second, rest⟩ := bind_eq_ok.1 rest
  obtain ⟨metric, third, -⟩ := bind_eq_ok.1 rest
  simp only [eiaSteps, checkField, List.forall_mem_cons, StepSettled, List.not_mem_nil,
    false_implies, implies_true, true_and, and_true]
  exact ⟨settled_opaqueId (field (by simp [eiaSteps])).1,
    settled_timestamp (field (by simp [eiaSteps])).1,
    settled_eiaDataset (field (by simp [eiaSteps])).1,
    settled_facet (field (by simp [eiaSteps])).1 (map_eq_ok.2 ⟨_, first, rfl⟩),
    settled_facet (field (by simp [eiaSteps])).1 (map_eq_ok.2 ⟨_, second, rfl⟩),
    settled_facet (field (by simp [eiaSteps])).1 (map_eq_ok.2 ⟨_, third, rfl⟩),
    settled_text (field (by simp [eiaSteps])).1, settled_number (field (by simp [eiaSteps])).1⟩

theorem settled_rto (clean : isUnsafe (.obj payload) = false)
    (accepted : contract rtoKeys (rtoSteps library) payload = .ok result) :
    ∀ step ∈ rtoSteps library, StepSettled result step := by
  have field {key normal} (member : .field key normal ∈ rtoSteps library) :=
    field_of_contract (ordered_rto library) clean accepted member
  simp only [rtoSteps, checkField, List.forall_mem_cons, StepSettled, List.not_mem_nil,
    false_implies, implies_true, true_and, and_true]
  exact ⟨settled_timestamp (field (by simp [rtoSteps])).1,
    settled_number (field (by simp [rtoSteps])).1, settled_text (field (by simp [rtoSteps])).1⟩

/-! ### The validator -/

/-- The symbols of a payload, as they are given. The one of a quote is part of its identity. -/
def symbolsOf (provider operation : String) (payload : Object) : List Json :=
  match provider, operation with
  | "marketaux", "news_all" => (payload.get "symbols").arr?.getD []
  | "finnhub", "company_news" => [payload.get "symbol"]
  | "sec_edgar", "submissions_recent" => [payload.get "ticker"]
  | _, _ => []

theorem isUnsafe_without (clean : isUnsafe (.obj payload) = false) (names : List String) :
    isUnsafe (.obj (payload.without names)) = false :=
  isUnsafe_obj.2 fun entry member => isUnsafe_obj.1 clean entry (List.mem_of_mem_filter member)

/-- A filing without its file, and the file. -/
theorem sec_eq_ok (accepted : sec payload = .ok result) :
    ∃ inner, contract secKeys secSteps (payload.without ["submissions_file"]) = .ok inner ∧
      "submissions_file" ∉ inner.keys ∧
      (payload.get "submissions_file" = .null ∧ result = inner ∨
        ∃ reference, payload.get "submissions_file" = reference ∧ reference ≠ .null ∧
          secFile (inner.get "cik") reference = .ok () ∧
          result = inner.set "submissions_file" reference) := by
  obtain ⟨inner, contracted, rest⟩ := bind_eq_ok.1 accepted
  have named := (Object.sameKeys_iff.1 (contract_eq_ok.1 contracted).1 "submissions_file").2
  have inside : ∀ step ∈ secSteps, ∀ key ∈ step.writes, key ∈ secKeys := by
    simp [secSteps, checkField, Step.writes, secKeys]
  have keys : inner.keys = (payload.without ["submissions_file"]).keys :=
    keys_of_run (contract_eq_ok.1 contracted).2 fun step member key written =>
      (Object.sameKeys_iff.1 (contract_eq_ok.1 contracted).1 key).2 (inside step member key written)
  refine ⟨inner, contracted, keys ▸ Object.not_mem_keys_without (by simp), ?_⟩
  split at rest
  · next absent => exact .inl ⟨absent, (pure_eq_ok.1 rest).symm⟩
  · next reference other =>
      obtain ⟨holds, same⟩ := check_eq_ok.1 rest
      exact .inr ⟨_, rfl, other, holds, (pure_eq_ok.1 same).symm⟩

/-- What is known of a filing without its file is known of the filing. -/
theorem sec_again (clean : isUnsafe (.obj payload) = false) (accepted : sec payload = .ok result)
    (unspelled : readsAsMarker (payload.get "ticker") = false) :
    sec result = .ok result ∧ isUnsafe (.obj result) = false := by
  obtain ⟨inner, contracted, missing, file⟩ := sec_eq_ok accepted
  have ticker : (payload.without ["submissions_file"]).get "ticker" = payload.get "ticker" := by
    rw [Object.get, Object.lookup_without (by decide), Object.get]
  have cleaned := isUnsafe_without clean ["submissions_file"]
  obtain ⟨again, markless⟩ := contract_again ordered_sec
    (by simp [secSteps, checkField, Step.writes, secKeys]) cleaned contracted
    (settled_sec cleaned contracted (ticker ▸ unspelled))
  rcases file with ⟨-, rfl⟩ | ⟨reference, given, some, holds, rfl⟩
  · have bare : result.without ["submissions_file"] = result :=
      Object.without_of_not_mem fun key member held => missing (List.mem_singleton.1 held ▸ member)
    have absent : result.get "submissions_file" = .null := by
      rw [← bare, Object.get, Object.lookup_without_of_mem (by simp), Option.getD_none]
    refine ⟨?_, markless⟩
    rw [sec, bare, again]
    simp [Bind.bind, Except.bind, absent, pure, Except.pure]
  · refine ⟨?_, ?_⟩
    · rw [sec, Object.without_set reference missing]
      refine bind_eq_ok.2 ⟨inner, again, ?_⟩
      rw [Object.get_set_same]
      split
      · next absent => exact absurd rfl some
      · exact check_eq_ok.2 ⟨holds, rfl⟩
    · refine isUnsafe_obj.2 fun entry member => ?_
      rcases Object.mem_set member with rfl | old
      · have named : hasMarker "submissions_file" = false := by decide
        exact ⟨named, given ▸ isUnsafe_get clean "submissions_file"⟩
      · exact isUnsafe_obj.1 markless entry old

variable (library) in
/-- The result of a payload stays as it is, with its quality and its hash, and has no marker. -/
structure IsFixedPoint (provider operation : String) (version : Int)
    (payload result : Object) : Prop where
  again : validateFactualPayload library provider operation version result = .ok result
  quality : (normalizeAndClassify library provider operation version result).map Prod.snd =
    (normalizeAndClassify library provider operation version payload).map Prod.snd
  hash : (normalizeAndClassify library provider operation version result >>= fun normalized =>
      canonicalProjectionHash library normalized.1) =
    (normalizeAndClassify library provider operation version payload >>= fun normalized =>
      canonicalProjectionHash library normalized.1)
  markless : isUnsafe (.obj result) = false

variable {provider operation : String} {version : Int}

/-- One of the six contracts has accepted the payload. -/
theorem validate_cases
    (accepted : validateFactualPayload library provider operation version payload = .ok result) :
    version = 1 ∧ isUnsafe (.obj payload) = false ∧
      (provider = "marketaux" ∧ operation = "news_all" ∧
          contract marketauxKeys (marketauxSteps library) payload = .ok result ∨
        provider = "finnhub" ∧ operation = "quote" ∧
          contract quoteKeys quoteSteps payload = .ok result ∨
        provider = "finnhub" ∧ operation = "company_news" ∧
          contract companyNewsKeys (companyNewsSteps library) payload = .ok result ∨
        provider = "eia" ∧ operation = "electricity_retail_sales" ∧
          contract eiaKeys eiaSteps payload = .ok result ∨
        provider = "eia" ∧ operation = "electricity_rto_region_data" ∧
          contract rtoKeys (rtoSteps library) payload = .ok result ∨
        provider = "sec_edgar" ∧ operation = "submissions_recent" ∧ sec payload = .ok result) := by
  unfold validateFactualPayload at accepted
  split at accepted
  · exact absurd accepted nofun
  next first =>
    split at accepted
    · exact absurd accepted nofun
    next clean =>
      refine ⟨not_not.1 first, Bool.eq_false_iff.2 clean, ?_⟩
      split at accepted
      · exact .inl ⟨rfl, rfl, accepted⟩
      · exact .inr (.inl ⟨rfl, rfl, accepted⟩)
      · exact .inr (.inr (.inl ⟨rfl, rfl, accepted⟩))
      · exact .inr (.inr (.inr (.inl ⟨rfl, rfl, accepted⟩)))
      · exact .inr (.inr (.inr (.inr (.inl ⟨rfl, rfl, accepted⟩))))
      · exact .inr (.inr (.inr (.inr (.inr ⟨rfl, rfl, accepted⟩))))
      · exact absurd accepted nofun

/-- The validator is one of the contracts, on a payload without a marker. -/
theorem validate_of_markless (clean : isUnsafe (.obj payload) = false) :
    validateFactualPayload library "marketaux" "news_all" 1 payload =
        contract marketauxKeys (marketauxSteps library) payload ∧
      validateFactualPayload library "finnhub" "quote" 1 payload =
        contract quoteKeys quoteSteps payload ∧
      validateFactualPayload library "finnhub" "company_news" 1 payload =
        contract companyNewsKeys (companyNewsSteps library) payload ∧
      validateFactualPayload library "eia" "electricity_retail_sales" 1 payload =
        contract eiaKeys eiaSteps payload ∧
      validateFactualPayload library "eia" "electricity_rto_region_data" 1 payload =
        contract rtoKeys (rtoSteps library) payload ∧
      validateFactualPayload library "sec_edgar" "submissions_recent" 1 payload = sec payload := by
  simp [validateFactualPayload, clean]

/-- **Without a symbol that reads as a marker, the result is validated again as it is.** -/
theorem validate_again
    (accepted : validateFactualPayload library provider operation version payload = .ok result)
    (unspelled : ∀ raw ∈ symbolsOf provider operation payload, readsAsMarker raw = false) :
    validateFactualPayload library provider operation version result = .ok result ∧
      isUnsafe (.obj result) = false := by
  obtain ⟨rfl, clean, contracts⟩ := validate_cases accepted
  rcases contracts with ⟨rfl, rfl, held⟩ | ⟨rfl, rfl, held⟩ | ⟨rfl, rfl, held⟩ | ⟨rfl, rfl, held⟩ |
    ⟨rfl, rfl, held⟩ | ⟨rfl, rfl, held⟩
  · obtain ⟨again, markless⟩ := contract_again (ordered_marketaux library)
      (by simp [marketauxSteps, checkField, Step.writes, marketauxKeys]) clean held
      (settled_marketaux clean held unspelled)
    exact ⟨(validate_of_markless markless).1.trans again, markless⟩
  · obtain ⟨again, markless⟩ := contract_again ordered_quote
      (by simp [quoteSteps, checkField, Step.writes, quoteKeys]) clean held
      (settled_quote clean held)
    exact ⟨(validate_of_markless markless).2.1.trans again, markless⟩
  · obtain ⟨again, markless⟩ := contract_again (ordered_companyNews library)
      (by simp [companyNewsSteps, checkField, Step.writes, companyNewsKeys]) clean held
      (settled_companyNews clean held (unspelled _ (List.mem_singleton.2 rfl)))
    exact ⟨(validate_of_markless markless).2.2.1.trans again, markless⟩
  · obtain ⟨again, markless⟩ := contract_again ordered_eia
      (by simp [eiaSteps, checkField, Step.writes, eiaKeys]) clean held (settled_eia clean held)
    exact ⟨(validate_of_markless markless).2.2.2.1.trans again, markless⟩
  · obtain ⟨again, markless⟩ := contract_again (ordered_rto library)
      (by simp [rtoSteps, checkField, Step.writes, rtoKeys]) clean held (settled_rto clean held)
    exact ⟨(validate_of_markless markless).2.2.2.2.1.trans again, markless⟩
  · obtain ⟨again, markless⟩ := sec_again clean held (unspelled _ (List.mem_singleton.2 rfl))
    exact ⟨(validate_of_markless markless).2.2.2.2.2.trans again, markless⟩

/-- A symbol that reads as a marker is one in the result. -/
theorem unspelled_of_markless
    (accepted : validateFactualPayload library provider operation version payload = .ok result)
    (markless : isUnsafe (.obj result) = false) :
    ∀ raw ∈ symbolsOf provider operation payload, readsAsMarker raw = false := by
  obtain ⟨rfl, clean, contracts⟩ := validate_cases accepted
  rcases contracts with ⟨rfl, rfl, held⟩ | ⟨rfl, rfl, -⟩ | ⟨rfl, rfl, held⟩ | ⟨rfl, rfl, -⟩ |
    ⟨rfl, rfl, -⟩ | ⟨rfl, rfl, held⟩
  · have done := (field_of_contract (ordered_marketaux library) clean held
      (show .field "symbols" symbols ∈ marketauxSteps library by simp [marketauxSteps])).1
    intro raw member
    refine Bool.eq_false_iff.2 fun reads => ?_
    have marked := (isUnsafe_symbols done).2 ⟨raw, member, reads⟩
    exact Bool.false_ne_true ((isUnsafe_get markless "symbols").symm.trans marked)
  · exact fun raw member => absurd member List.not_mem_nil
  · have done := (field_of_contract (ordered_companyNews library) clean held
      (show .field "symbol" symbol ∈ companyNewsSteps library by simp [companyNewsSteps])).1
    intro raw member
    rw [List.mem_singleton.1 member]
    exact (settled_symbol_iff done).1 (settled_symbol done (isUnsafe_get markless "symbol"))
  · exact fun raw member => absurd member List.not_mem_nil
  · exact fun raw member => absurd member List.not_mem_nil
  · obtain ⟨inner, contracted, -, file⟩ := sec_eq_ok held
    have ticker : (payload.without ["submissions_file"]).get "ticker" = payload.get "ticker" := by
      rw [Object.get, Object.lookup_without (by decide), Object.get]
    have kept : result.get "ticker" = inner.get "ticker" := by
      rcases file with ⟨-, rfl⟩ | ⟨reference, -, -, -, rfl⟩
      · rfl
      · exact Object.get_set_ne (by decide) inner reference
    have done := (field_of_contract ordered_sec (isUnsafe_without clean _) contracted
      (show .field "ticker" symbol ∈ secSteps by simp [secSteps])).1
    intro raw member
    rw [List.mem_singleton.1 member, ← ticker]
    exact (settled_symbol_iff done).1 (settled_symbol done (kept ▸ isUnsafe_get markless "ticker"))

/-- **The result of a payload is a fixed point without a marker exactly if none of its symbols reads
as a marker in capitals.** -/
theorem fixed_iff (library : StandardLibrary) (provider operation : String) (version : Int)
    (payload result : Object)
    (accepted : validateFactualPayload library provider operation version payload = .ok result) :
    IsFixedPoint library provider operation version payload result ↔
      ∀ raw ∈ symbolsOf provider operation payload, readsAsMarker raw = false := by
  constructor
  · exact fun fixed => unspelled_of_markless accepted fixed.markless
  · intro unspelled
    obtain ⟨again, markless⟩ := validate_again accepted unspelled
    have same : normalizeAndClassify library provider operation version result =
        normalizeAndClassify library provider operation version payload := by
      rw [normalizeAndClassify, normalizeAndClassify, again, accepted]
    exact ⟨again, by rw [same], by rw [same], markless⟩

/-- A library whose functions are not looked at. -/
def silentLibrary : StandardLibrary where
  sha256 _ := ""
  urlsplit _ := .ok ⟨"", "", "", "", none, none, none, .ok none⟩
  floatText _ _ := ""
  parseQsl _ := .ok []
  urlencode _ := .ok ""
  urlunsplit _ _ _ _ _ := ""
  toFloat _ := none
  lower text := text
  str _ := ""

/-- An item of company news. -/
def newsItem (symbol : String) : Object :=
  [("provider_item_id", .str "company-news:1"), ("published_at", .str "2024-01-02T03:04:05+00:00"),
    ("title", .null), ("canonical_url", .null), ("source_identity", .null),
    ("symbol", .str symbol), ("category", .null), ("summary_coverage", .str "blocked")]

/-- The hash of the news of Microsoft. -/
def newsHash : String := "1fef9e013bdf2e7b7393f96b92ae4e91ac941670f46e3983d3fb547330d6d65c"

/-- A library that hashes these news. -/
def newsDigests : StandardLibrary := { silentLibrary with sha256 := fun _ => newsHash }

/-- A symbol with a sharp s is accepted, and its capitals have a marker. -/
theorem marker_in_capitals :
    ∃ payload result, validateFactualPayload silentLibrary "finnhub" "company_news" 1 payload =
        .ok result ∧
      ¬ IsFixedPoint silentLibrary "finnhub" "company_news" 1 payload result := by
  refine ⟨newsItem "paßword", newsItem "PASSWORD", by decide +kernel, fun fixed => ?_⟩
  have marked : isUnsafe (.obj (newsItem "PASSWORD")) = true := by decide +kernel
  exact Bool.false_ne_true (fixed.markless.symm.trans marked)

/-- An ordinary symbol is put into capitals and stays. -/
theorem fixed_iff_msft : IsFixedPoint silentLibrary "finnhub" "company_news" 1 (newsItem "msft")
    (newsItem "MSFT") :=
  (fixed_iff silentLibrary "finnhub" "company_news" 1 (newsItem "msft") (newsItem "MSFT")
    (by decide +kernel)).2 (by decide +kernel)

end Six

end NewsCollect.SafeProjection
