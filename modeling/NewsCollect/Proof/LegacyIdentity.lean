/-
**What an older item is called by its notes and by its facts.**

The identity of an older item is hashed twice: by the pipeline from what is noted of the item, and
by the handoff from its facts. The two are hashes of one text for news and filings. For quotes and
prices they are hashes of two texts that differ in every item: the time is an ISO text in the notes
of a quote and a number in its facts, and the period of a price is a whole date in the notes and a
month in the facts.

* `Emits`: an item of an adapter, from its row.
* `prefix_of_escaped`: a text without escapes begins an escaped text only if it begins the text.
* `reproduced_iff`: when the two identities are one.
-/

import NewsCollect.Evidence.Orchestration
import NewsCollect.Proof.ConfigFits
import NewsCollect.Library.Unordered

namespace NewsCollect.Evidence

open Calendar Collection Contract Providers SafeProjection Text

/-! ### Items and their rows -/

section Items

variable {α : Type}

@[simp] theorem given_eq_ok {value : Option α} {code : ProviderAdapterErrorCode} {message : String}
    {found : α} : Attempt.given value code message = .ok found ↔ value = some found := by
  cases value <;> simp [Attempt.given, Attempt.fail]

@[simp] theorem ensure_eq_ok {condition : Bool} {code : ProviderAdapterErrorCode} {message : String}
    {u : Unit} : Attempt.ensure condition code message = .ok u ↔ condition = true := by
  cases condition <;> simp [Attempt.ensure, Attempt.fail]

@[simp] theorem attempt_of_eq_ok {result : Result α} {value : α} :
    Attempt.of result = .ok value ↔ result = .ok value := by
  cases result <;> simp [Attempt.of]

variable {library : StandardLibrary}

@[simp] theorem validated_eq_ok {provider operation : String} {factual normal : Object} :
    validated library provider operation factual = .ok normal ↔
      validateFactualPayload library provider operation 1 factual = .ok normal := by
  unfold validated
  split
  · next found => simp only [found, Except.ok.injEq]
  · next raised found =>
      rw [found]
      split <;> simp [Attempt.fail]

end Items

/-- **An item of an adapter**, which is made of a row. -/
def Emits (library : StandardLibrary) (adapter : FirstAdapter) (item : Item) : Prop :=
  match adapter with
  | .marketaux => ∃ config response row, marketauxItem library config response row = .ok item
  | .finnhub => ∃ symbol response body, quoteItem library symbol response body = .ok item
  | .eia => ∃ response row, retailItem library response row = .ok item
  | .secEdgar => ∃ ticker cik response row, filingItem library ticker cik response row = .ok item

section Fetched

variable {library : StandardLibrary} {loads : String → Result Json}
  {transport : Sent → Transported} {now : Int} {credential : Option String}
  {request : ProviderFetchRequest} {result : ProviderFetchResult}

/-- A page of some rows has some items. -/
theorem ne_nil_of_page {α : Type} {step : α → Attempt Item} {rows : List α} {limit : Int}
    {items : List Item} (looped : (rows.take limit.toNat).mapM step = .ok items) (some : rows ≠ [])
    (positive : 1 ≤ limit) : items ≠ [] := by
  obtain ⟨row, rest, rfl⟩ := List.exists_cons_of_ne_nil some
  have first : row ∈ (row :: rest).take limit.toNat := by
    rw [show limit.toNat = (limit.toNat - 1) + 1 by omega, List.take_succ_cons]
    exact List.mem_cons_self ..
  obtain ⟨item, member, -⟩ := Unordered.mapM_ok_mem looped first
  exact List.ne_nil_of_mem member

theorem emits_of_marketaux
    (ran : marketauxFetch library loads transport now credential request = .ok result) :
    ∃ items more, result = resultOf library "marketaux" items more ∧ items ≠ [] ∧
      ∀ item ∈ items, Emits library .marketaux item := by
  obtain ⟨-, ran⟩ := check_eq_ok.1 ran
  split at ran
  · exact absurd ran nofun
  · obtain ⟨after, -, ran⟩ := bind_eq_ok.1 ran
    dsimp only at ran
    split at ran
    · exact absurd ran nofun
    · obtain ⟨response, -, ran⟩ := bind_eq_ok.1 ran
      obtain ⟨rows, -, ran⟩ := bind_eq_ok.1 ran
      obtain ⟨items, looped, ran⟩ := bind_eq_ok.1 ran
      obtain ⟨some, ran⟩ := check_eq_ok.1 ran
      refine ⟨items, _, (pure_eq_ok.1 ran).symm, by simpa using some, fun item member => ?_⟩
      obtain ⟨row, -, made⟩ := Unordered.exists_of_mapM_ok looped member
      exact ⟨_, _, row, made⟩

theorem emits_of_finnhub (ran : finnhubFetch library transport credential request = .ok result) :
    ∃ items more, result = resultOf library "finnhub" items more ∧ items ≠ [] ∧
      ∀ item ∈ items, Emits library .finnhub item := by
  obtain ⟨-, ran⟩ := check_eq_ok.1 ran
  obtain ⟨-, ran⟩ := check_eq_ok.1 ran
  obtain ⟨symbol, -, ran⟩ := bind_eq_ok.1 ran
  obtain ⟨response, -, ran⟩ := bind_eq_ok.1 ran
  obtain ⟨body, -, ran⟩ := bind_eq_ok.1 ran
  obtain ⟨item, made, ran⟩ := bind_eq_ok.1 ran
  refine ⟨[item], _, (pure_eq_ok.1 ran).symm, List.cons_ne_nil _ _, fun other member => ?_⟩
  rw [List.mem_singleton.1 member]
  exact ⟨_, response, body, made⟩

theorem emits_of_eia (ran : eiaFetch library transport credential request = .ok result) :
    ∃ items more, result = resultOf library "eia" items more ∧ items ≠ [] ∧
      ∀ item ∈ items, Emits library .eia item := by
  obtain ⟨-, ran⟩ := check_eq_ok.1 ran
  obtain ⟨limit, ran⟩ := check_eq_ok.1 ran
  obtain ⟨response, -, ran⟩ := bind_eq_ok.1 ran
  obtain ⟨rows, found, ran⟩ := bind_eq_ok.1 ran
  obtain ⟨items, looped, ran⟩ := bind_eq_ok.1 ran
  have some : rows ≠ [] := by
    rw [given_eq_ok] at found
    unfold retailRows at found
    split at found
    · split at found
      · simpa using (Option.filter_eq_some_iff.1 found).2
      · exact absurd found nofun
    · exact absurd found nofun
  simp only [ensure_eq_ok, Bool.and_eq_true, decide_eq_true_eq] at limit
  refine ⟨items, _, (pure_eq_ok.1 ran).symm, ne_nil_of_page looped some limit.1.1,
    fun item member => ?_⟩
  obtain ⟨row, -, made⟩ := Unordered.exists_of_mapM_ok looped member
  exact ⟨response, row, made⟩

theorem emits_of_sec (ran : secFetch library transport credential request = .ok result) :
    ∃ items more, result = resultOf library "sec_edgar" items more ∧ items ≠ [] ∧
      ∀ item ∈ items, Emits library .secEdgar item := by
  obtain ⟨-, ran⟩ := check_eq_ok.1 ran
  obtain ⟨limit, ran⟩ := check_eq_ok.1 ran
  obtain ⟨filer, -, ran⟩ := bind_eq_ok.1 ran
  obtain ⟨response, -, ran⟩ := bind_eq_ok.1 ran
  obtain ⟨some, ran⟩ := check_eq_ok.1 ran
  obtain ⟨items, looped, ran⟩ := bind_eq_ok.1 ran
  simp only [ensure_eq_ok, Bool.and_eq_true, decide_eq_true_eq] at limit
  refine ⟨items, _, (pure_eq_ok.1 ran).symm, ne_nil_of_page looped (by simpa using some) limit.1,
    fun item member => ?_⟩
  obtain ⟨row, -, made⟩ := Unordered.exists_of_mapM_ok looped member
  exact ⟨_, _, response, row, made⟩

/-- **A result has an error, or it is made of items.** -/
theorem items_of_fetch {adapter : FirstAdapter}
    (fetched : adapter.fetch library loads transport now credential request = .ok result) :
    (∃ error, result = failedResult adapter.provider error) ∨
      ∃ items more, result = resultOf library adapter.provider items more ∧ items ≠ [] ∧
        ∀ item ∈ items, Emits library adapter item := by
  unfold FirstAdapter.fetch at fetched
  split at fetched
  · next found ran =>
      obtain rfl := Except.ok.inj fetched
      cases adapter with
      | marketaux => exact .inr (emits_of_marketaux ran)
      | finnhub => exact .inr (emits_of_finnhub ran)
      | eia => exact .inr (emits_of_eia ran)
      | secEdgar => exact .inr (emits_of_sec ran)
  · next error ran => exact .inl ⟨error, (Except.ok.inj fetched).symm⟩
  · exact absurd fetched nofun

/-- **The notes and the facts of one row of a result are those of an item.** -/
theorem emits_of_fetch {adapter : FirstAdapter}
    (fetched : adapter.fetch library loads transport now credential request = .ok result)
    {metadata facts : Object}
    (row : (metadata, facts) ∈ result.sanitizedMetadata.zip result.factualProjections) :
    ∃ item, Emits library adapter item ∧ item.metadata = metadata ∧ item.factual = facts := by
  rcases items_of_fetch fetched with ⟨error, rfl⟩ | ⟨items, more, rfl, -, every⟩
  · exact absurd row (by simp [failedResult])
  have zipped : (items.map Item.metadata).zip (items.map Item.factual) =
      items.map fun item => (item.metadata, item.factual) := by
    rw [List.zip_map']
  change (metadata, facts) ∈ (items.map Item.metadata).zip (items.map Item.factual) at row
  rw [zipped] at row
  obtain ⟨item, member, same⟩ := List.mem_map.1 row
  exact ⟨item, every item member, congrArg Prod.fst same, congrArg Prod.snd same⟩

end Fetched

/-! ### Texts in quotes -/

theorem escapeChar_of_isPlain {c : Char} (plain : isPlain c = true) : escapeChar c = [c] := by
  have small : c.toNat < 128 := toNat_of_isPlain plain
  refine ascii_forall (fun c => isPlain c = true → escapeChar c = [c]) ?_ small plain
  decide

/-- A character is written as itself, or behind a backslash. -/
theorem escapeChar_cases (c : Char) :
    escapeChar c = [c] ∧ c ≠ '"' ∨ ∃ rest, escapeChar c = '\\' :: rest := by
  unfold escapeChar
  split
  · next mark => exact .inr ⟨_, rfl⟩
  · next mark =>
      simp only [not_or] at mark
      split
      · exact .inl ⟨rfl, mark.1⟩
      · right
        repeat' split
        all_goals exact ⟨_, rfl⟩

/-- A plain text that begins an escaped one begins the text itself. -/
theorem prefix_of_escaped {plain text rest tail : List Char} (simple : ∀ c ∈ plain, isPlain c = true)
    (same : plain ++ rest = text.flatMap escapeChar ++ '"' :: tail) :
    ∃ more, text = plain ++ more ∧ rest = more.flatMap escapeChar ++ '"' :: tail := by
  induction plain generalizing text with
  | nil => exact ⟨text, rfl, same⟩
  | cons c plain ih =>
      have here := simple c (List.mem_cons_self ..)
      cases text with
      | nil =>
          have quote : c = '"' := (List.cons.inj same).1
          subst quote
          exact absurd here (by decide)
      | cons d text =>
          rw [List.flatMap_cons] at same
          rcases escapeChar_cases d with ⟨itself, -⟩ | ⟨escaped, behind⟩
          · simp only [itself, List.cons_append, List.nil_append, List.cons.injEq] at same
            obtain ⟨rfl, same⟩ := same
            obtain ⟨more, rfl, rest⟩ := ih (fun e member => simple e (List.mem_cons_of_mem _ member)) same
            exact ⟨more, rfl, rest⟩
          · rw [behind] at same
            obtain ⟨rfl, -⟩ := List.cons.inj same
            exact absurd here (by decide)

/-- What is escaped begins with no quote. -/
theorem nil_of_escaped {text rest tail : List Char}
    (same : '"' :: rest = text.flatMap escapeChar ++ '"' :: tail) : text = [] ∧ rest = tail := by
  cases text with
  | nil => exact ⟨rfl, (List.cons.inj same).2⟩
  | cons d text =>
      rw [List.flatMap_cons] at same
      rcases escapeChar_cases d with ⟨itself, other⟩ | ⟨escaped, behind⟩
      · rw [itself] at same
        exact absurd (List.cons.inj same).1.symm other
      · rw [behind] at same
        exact absurd (List.cons.inj same).1 (by decide)

section Texts

variable (library : StandardLibrary)

/-- The text of a list that begins with a text and has more parts. -/
theorem toList_stableText (text : String) (second : Json) (others : List Json) :
    (stableText library (.arr (.str text :: second :: others))).toList =
      '[' :: '"' :: (text.toList.flatMap escapeChar ++ '"' :: ',' ::
        (",".intercalate (stableItems library (second :: others)) ++ "]").toList) := by
  simp [stableText, stableItems, quoted, String.intercalate_cons_cons, String.toList_append]

/-- Two such texts whose first parts are plain in one of them have the same first part. -/
theorem parts_of_stableText {plain text : String} {second second' : Json} {others others' : List Json}
    (simple : ∀ c ∈ plain.toList, isPlain c = true)
    (same : stableText library (.arr (.str plain :: second :: others)) =
      stableText library (.arr (.str text :: second' :: others'))) :
    (",".intercalate (stableItems library (second :: others)) ++ "]").toList =
      (",".intercalate (stableItems library (second' :: others')) ++ "]").toList := by
  have written : plain.toList.flatMap escapeChar = plain.toList := by
    have each : plain.toList.flatMap escapeChar = plain.toList.flatMap fun c => [c] :=
      List.flatMap_congr fun c member => escapeChar_of_isPlain (simple c member)
    rw [each, List.flatMap_singleton']
  have lists := congrArg String.toList same
  rw [toList_stableText, toList_stableText, written] at lists
  obtain ⟨more, -, rest⟩ := prefix_of_escaped simple (List.cons.inj (List.cons.inj lists).2).2
  exact (List.cons.inj (nil_of_escaped rest).2).2

/-- **A quote is written differently with its time as a text and as a number.** -/
theorem quote_texts_differ {symbol code published : String} {seconds : Int}
    (simple : ∀ c ∈ code.toList, isPlain c = true) :
    stableText library (.arr [.str symbol, .str published]) ≠
      stableText library (.arr [.str code, .int seconds]) := by
  intro same
  have rest := parts_of_stableText library simple same.symm
  have quote : '"' ∈ (",".intercalate (stableItems library [.int seconds]) ++ "]").toList := by
    rw [rest]
    simp [stableItems, stableText, quoted]
  have number : '"' ∈ (toString seconds).toList := by
    simpa [stableItems, stableText] using quote
  cases seconds with
  | ofNat n =>
      exact absurd (isDecimal_of_mem_toString _ (number : '"' ∈ (toString n).toList)) (by decide)
  | negSucc n =>
      have negative : '"' ∈ ("-" ++ toString (n + 1)).toList := number
      rw [String.toList_append, List.mem_append] at negative
      rcases negative with sign | digits
      · exact absurd sign (by decide)
      · exact absurd (isDecimal_of_mem_toString _ digits) (by decide)

/-- **A price is written differently with its day and with its month.** -/
theorem price_texts_differ {published period : String} {here offset : Int}
    {parts parts' : List Json} {second second' : Json}
    (day : published.toList = isoFormat here offset)
    (month : ∀ c ∈ period.toList, isDecimal c = true ∨ c = '-') :
    stableText library (.arr (.str published :: second :: parts)) ≠
      stableText library (.arr (.str period :: second' :: parts')) := by
  intro same
  have simple : ∀ c ∈ dayText here ++ ['T'], isPlain c = true := by
    intro c member
    rcases List.mem_append.1 member with inside | mark
    · unfold dayText at inside
      cases held : dateOf here with
      | none => simp [held] at inside
      | some date =>
          simp only [held, Option.map_some, Option.getD_some, Date.text, four, two, List.mem_append,
            List.mem_cons, List.not_mem_nil, or_false] at inside
          rcases inside with ((rfl | rfl | rfl | rfl) | rfl | rfl | rfl) | rfl | rfl | rfl <;>
            simp [isPlain]
    · rw [List.mem_singleton.1 mark]
      decide
  have written : (dayText here ++ ['T']).flatMap escapeChar = dayText here ++ ['T'] := by
    have each : (dayText here ++ ['T']).flatMap escapeChar =
        (dayText here ++ ['T']).flatMap fun c => [c] :=
      List.flatMap_congr fun c member => escapeChar_of_isPlain (simple c member)
    rw [each, List.flatMap_singleton']
  have start : published.toList = (dayText here ++ ['T']) ++
      ((clockText (here % dayLength).toNat) ++ offsetText offset) := by
    rw [day, isoFormat]
    simp
  have lists := congrArg String.toList same
  rw [toList_stableText, toList_stableText, start, List.flatMap_append, written,
    List.append_assoc] at lists
  obtain ⟨more, begins, -⟩ := prefix_of_escaped simple (List.cons.inj (List.cons.inj lists).2).2
  have mark : 'T' ∈ period.toList := by rw [begins]; simp
  rcases month 'T' mark with digit | dash
  · exact absurd digit (by decide)
  · exact absurd dash (by decide)

end Texts

/-! ### The two identities of an item -/

/-- What the pipeline hashes of the notes of an item. -/
def notedValue (adapter : FirstAdapter) (metadata : Object) : IdentityValue :=
  match adapter with
  | .marketaux | .secEdgar => .single (metadata.get "provider_item_id")
  | .finnhub => .parts [metadata.get "symbol", metadata.get "published_at"]
  | .eia => .parts [metadata.get "published_at", metadata.get "geography", metadata.get "sector"]

section Values

variable {library : StandardLibrary} {item : Item}

theorem marketauxIdentity?_again {value : Json} {identity : String}
    (known : marketauxIdentity? value = some identity) :
    identity ≠ "" ∧ marketauxIdentity? (.str identity) = some identity := by
  cases value with
  | str raw =>
      by_cases holds : isMarketauxIdentity (strip raw.toList) = true
      · rw [marketauxIdentity?, if_pos holds] at known
        obtain rfl := Option.some.inj known
        have same := strip_of_noSpace (noSpace_of_forall (isPlain_of_isMarketauxIdentity holds))
        refine ⟨fun empty => ?_, ?_⟩
        · exact (headed_eq_true holds).1 (String.ofList_eq_empty_iff.1 empty)
        · rw [marketauxIdentity?, String.toList_ofList, same, if_pos holds]
      · rw [marketauxIdentity?, if_neg holds] at known
        cases known
  | _ => cases known

theorem safeIdentifier_ne_empty {maximum : Nat} {value : Json} {identity : String}
    (known : safeIdentifier maximum value = some identity) : identity ≠ "" := by
  cases value with
  | str raw =>
      simp only [safeIdentifier] at known
      split at known
      · cases known
      · next some =>
          obtain rfl := Option.some.inj known
          intro empty
          simp [String.ofList_eq_empty_iff.1 empty] at some
  | _ => cases known

/-- The notes and the facts of a news item have one identity; its time is the text of the row. -/
theorem values_of_news (emitted : Emits library .marketaux item) :
    ∃ identity published form, identity ≠ "" ∧
      item.metadata.get "provider_item_id" = .str identity ∧
      legacyIdentityValue (FirstAdapter.provider .marketaux) item.factual =
        .ok (.single (.str identity)) ∧
      item.metadata.get "published_at" = .str published ∧ timestamp (.str published) = .ok form := by
  obtain ⟨config, response, row, made⟩ := emitted
  obtain ⟨found, cleaned, made⟩ := bind_eq_ok.1 made
  obtain ⟨sanitized, given, made⟩ := bind_eq_ok.1 made
  obtain ⟨factual, accepted, made⟩ := bind_eq_ok.1 made
  obtain rfl := pure_eq_ok.1 made
  rw [attempt_of_eq_ok] at cleaned
  rw [given_eq_ok] at given
  subst given
  rw [validated_eq_ok] at accepted
  have named : ∃ identity published value, marketauxIdentity? value = some identity ∧
      sanitized.get "provider_item_id" = .str identity ∧
      sanitized.get "published_at" = .str published := by
    unfold sanitizeItem at cleaned
    split at cleaned
    · next identity published known _ =>
        split at cleaned
        · exact absurd (pure_eq_ok.1 cleaned) nofun
        · obtain ⟨url, -, cleaned⟩ := bind_eq_ok.1 cleaned
          obtain rfl := Option.some.inj (pure_eq_ok.1 cleaned)
          exact ⟨identity, published, _, known, rfl, rfl⟩
    · exact absurd (pure_eq_ok.1 cleaned) nofun
  obtain ⟨identity, published, value, known, named, dated⟩ := named
  obtain ⟨there, again⟩ := marketauxIdentity?_again known
  have clean := (validate_cases accepted).2.1
  have contracted := (validate_of_markless clean).1 ▸ accepted
  have form : marketauxIdentity ((marketauxPayload config sanitized).get "provider_item_id") =
      .ok (factual.get "provider_item_id") :=
    normal_of_run (ordered_marketaux library) (contract_eq_ok.1 contracted).2
      (by simp [marketauxSteps])
  have same : factual.get "provider_item_id" = .str identity := by
    have asked : (marketauxPayload config sanitized).get "provider_item_id" = .str identity := named
    rw [asked, marketauxIdentity, again] at form
    exact (Except.ok.inj form).symm
  have time : timestamp ((marketauxPayload config sanitized).get "published_at") =
      .ok (factual.get "published_at") :=
    normal_of_run (ordered_marketaux library) (contract_eq_ok.1 contracted).2
      (by simp [marketauxSteps])
  have noted : (marketauxPayload config sanitized).get "published_at" = .str published := dated
  rw [noted] at time
  refine ⟨identity, published, _, there, named, ?_, dated, time⟩
  simp [legacyIdentityValue, FirstAdapter.provider, same, again]

/-- The notes and the facts of a filing have one accession number; its time is that of a date. -/
theorem values_of_filing (emitted : Emits library .secEdgar item) :
    ∃ accession published value, accession ≠ "" ∧
      item.metadata.get "provider_item_id" = .str accession ∧
      legacyIdentityValue (FirstAdapter.provider .secEdgar) item.factual =
        .ok (.single (.str accession)) ∧
      item.metadata.get "published_at" = .str published ∧ isoTimestamp value = some published ∧
      secFilingDate (.str (strOf library value)) = .ok () := by
  obtain ⟨ticker, cik, response, row, made⟩ := emitted
  obtain ⟨accession, known, made⟩ := bind_eq_ok.1 made
  obtain ⟨form, -, made⟩ := bind_eq_ok.1 made
  obtain ⟨published, dated, made⟩ := bind_eq_ok.1 made
  obtain ⟨document, -, made⟩ := bind_eq_ok.1 made
  obtain ⟨url, -, made⟩ := bind_eq_ok.1 made
  obtain ⟨factual, accepted, made⟩ := bind_eq_ok.1 made
  obtain rfl := pure_eq_ok.1 made
  rw [given_eq_ok] at known
  rw [validated_eq_ok] at accepted
  have clean := (validate_cases accepted).2.1
  have contracted := (validate_of_markless clean).2.2.2.2.2 ▸ accepted
  obtain ⟨inner, contracted, -, file⟩ := sec_eq_ok contracted
  have settled : factual = inner := by
    rcases file with ⟨-, same⟩ | ⟨reference, given, some, -⟩
    · exact same
    · exact absurd given.symm some
  subst settled
  have ran := (contract_eq_ok.1 contracted).2
  have identity : factual.get "provider_item_id" = .str accession :=
    get_of_run ran (by simp [secSteps, checkField, Step.writes])
  have held : exactly (factual.get "accession_number") "projection_provider_identity_invalid"
      (factual.get "provider_item_id") = .ok () :=
    holds_of_run ordered_sec ran (show .check ["provider_item_id", "accession_number"] secIdentity ∈
      secSteps by simp [secSteps])
  have form : text 20 (.str accession) = .ok (factual.get "accession_number") :=
    normal_of_run ordered_sec ran (show .field "accession_number" (text 20) ∈ secSteps by
      simp [secSteps])
  obtain ⟨written, -, same⟩ := map_eq_ok.1 form
  rw [identity, ← same, exactly, require_eq_ok, Json.eq_str_str, beq_iff_eq] at held
  have day : secFilingDate (factual.get "filing_date") = .ok () :=
    holds_of_run ordered_sec ran (show .check ["filing_date"] (fun values =>
      secFilingDate (values.headD .null)) ∈ secSteps by simp [secSteps, checkField])
  have date : factual.get "filing_date" = .str (strOf library (row.get "filingDate")) :=
    get_of_run ran (by simp [secSteps, checkField, Step.writes])
  rw [given_eq_ok] at dated
  refine ⟨accession, published, _, safeIdentifier_ne_empty known, rfl, ?_, rfl, dated, date ▸ day⟩
  simp [legacyIdentityValue, FirstAdapter.provider, ← same, held]

/-- The notes of a quote have its time as a text, its facts as a number. -/
theorem values_of_quote (emitted : Emits library .finnhub item) :
    ∃ symbol code published seconds, item.metadata.get "symbol" = .str symbol ∧
      item.metadata.get "published_at" = .str published ∧
      legacyIdentityValue (FirstAdapter.provider .finnhub) item.factual =
        .ok (.parts [.str code, .int seconds]) ∧
      code ≠ "" ∧ (∀ c ∈ code.toList, isPlain c = true) ∧
      item.metadata.get "provider_item_id" = .str (symbol ++ ":" ++ toString seconds) ∧
      isoTimestamp (.int seconds) = some published := by
  obtain ⟨symbol, response, body, made⟩ := emitted
  obtain ⟨seconds, -, made⟩ := bind_eq_ok.1 made
  obtain ⟨published, dated, made⟩ := bind_eq_ok.1 made
  obtain ⟨-, made⟩ := check_eq_ok.1 made
  obtain ⟨finite, -, made⟩ := bind_eq_ok.1 made
  obtain ⟨-, made⟩ := check_eq_ok.1 made
  obtain ⟨-, made⟩ := check_eq_ok.1 made
  obtain ⟨factual, accepted, made⟩ := bind_eq_ok.1 made
  obtain rfl := pure_eq_ok.1 made
  rw [validated_eq_ok] at accepted
  have clean := (validate_cases accepted).2.1
  have ran := (contract_eq_ok.1 ((validate_of_markless clean).2.1 ▸ accepted)).2
  have time : factual.get "provider_timestamp" = .int seconds :=
    get_of_run ran (by simp [quoteSteps, checkField, Step.writes])
  have form : SafeProjection.symbol (.str symbol) = .ok (factual.get "symbol") :=
    normal_of_run ordered_quote ran (show .field "symbol" SafeProjection.symbol ∈ quoteSteps by
      simp [quoteSteps])
  obtain ⟨code, accepted, same⟩ := map_eq_ok.1 form
  obtain ⟨-, capitals, -, -, shape, rfl⟩ := symbolOf_eq_ok.1 accepted
  rw [given_eq_ok] at dated
  refine ⟨symbol, String.ofList capitals, published, seconds, rfl, rfl, ?_, ?_, ?_, rfl, dated⟩
  · simp [legacyIdentityValue, FirstAdapter.provider, time, ← same]
  · exact fun empty => (headed_eq_true shape).1 (String.ofList_eq_empty_iff.1 empty)
  · rw [String.toList_ofList]
    exact fun c member => (isPlain_of_isSymbol shape c member).1

/-- What `iso_timestamp` returns is the text of a time. -/
theorem isoFormat_of_isoTimestamp {value : Json} {published : String}
    (dated : isoTimestamp value = some published) :
    ∃ here offset, published.toList = isoFormat here offset := by
  have ofNumber {numerator : Int} {scale : Nat}
      (dated : (if inRange (timestampMicros numerator scale) then
        some (String.ofList (isoFormat (timestampMicros numerator scale) 0)) else none) =
        some published) : ∃ here offset, published.toList = isoFormat here offset := by
    split at dated
    · obtain rfl := Option.some.inj dated
      exact ⟨_, _, String.toList_ofList⟩
    · exact absurd dated nofun
  unfold isoTimestamp at dated
  dsimp only at dated
  split at dated
  · exact ofNumber dated
  · exact ofNumber dated
  · exact ofNumber dated
  · split at dated
    · exact absurd dated nofun
    · obtain ⟨⟨here, offset⟩, -, rfl⟩ := Option.map_eq_some_iff.1 dated
      exact ⟨_, _, String.toList_ofList⟩
  · exact absurd dated nofun

/-- The notes of a price have a day, its facts a month. -/
theorem values_of_price (emitted : Emits library .eia item) :
    ∃ published geography sector value facet facet',
      item.metadata.get "published_at" = .str published ∧
      item.metadata.get "geography" = .str geography ∧ item.metadata.get "sector" = .str sector ∧
      legacyIdentityValue (FirstAdapter.provider .eia) item.factual =
        .ok (.parts [.str (strOf library value), .str facet, .str facet']) ∧
      isoTimestamp value = some published ∧ isMonth (strOf library value).toList = true ∧
      strOf library value ≠ "" ∧ facet ≠ "" ∧ facet' ≠ "" ∧
      item.metadata.get "provider_item_id" =
        .str (strOf library value ++ ":" ++ geography ++ ":" ++ sector) := by
  obtain ⟨response, row, made⟩ := emitted
  obtain ⟨row, -, made⟩ := bind_eq_ok.1 made
  obtain ⟨published, dated, made⟩ := bind_eq_ok.1 made
  obtain ⟨geography, -, made⟩ := bind_eq_ok.1 made
  obtain ⟨sector, -, made⟩ := bind_eq_ok.1 made
  obtain ⟨-, made⟩ := check_eq_ok.1 made
  obtain ⟨series, -, made⟩ := bind_eq_ok.1 made
  obtain ⟨factual, accepted, made⟩ := bind_eq_ok.1 made
  obtain rfl := pure_eq_ok.1 made
  rw [validated_eq_ok] at accepted
  rw [given_eq_ok] at dated
  have clean := (validate_cases accepted).2.1
  have ran := (contract_eq_ok.1 ((validate_of_markless clean).2.2.2.1 ▸ accepted)).2
  -- the period is no field that is normalised: it is a text, and the month the contract asks for
  have month : eiaPeriod (factual.get "period") = .ok () :=
    holds_of_run ordered_eia ran (show .check ["period"] (fun values =>
      eiaPeriod (values.headD .null)) ∈ eiaSteps by simp [eiaSteps, checkField])
  have period : factual.get "period" = .str (strOf library (Object.get row "period")) :=
    get_of_run ran (by simp [eiaSteps, checkField, Step.writes])
  rw [period, eiaPeriod, require_eq_ok] at month
  have facetAt (key : String) (member : .field key facet ∈ eiaSteps) :
      ∃ form, factual.get key = .str form ∧ form ≠ "" := by
    obtain ⟨form, read, same⟩ := map_eq_ok.1 (normal_of_run ordered_eia ran member)
    obtain ⟨normalized, -, -, some, rfl⟩ := facetOf_eq_ok.1 read
    exact ⟨_, same.symm, fun empty => some (String.ofList_eq_empty_iff.1 empty)⟩
  obtain ⟨form, facet, there⟩ := facetAt "geography" (by simp [eiaSteps])
  obtain ⟨form', facet', there'⟩ := facetAt "sector" (by simp [eiaSteps])
  refine ⟨published, geography, sector, _, form, form', rfl, rfl, rfl, ?_, dated, month, ?_, there,
    there', rfl⟩
  · simp [legacyIdentityValue, FirstAdapter.provider, period, facet, facet']
  · intro empty
    rw [isMonth, Bool.and_eq_true] at month
    have long := length_of_shaped month.1
    rw [empty] at long
    exact absurd long (by decide)

end Values

/-! ### What the writer is handed -/

section Handed

variable {library : StandardLibrary} {item : Item} {request : EvidencePipelineRequest}
  {written : EvidenceWriteRequest}

theorem get_bind {metadata : Object} {hash location : Option String} {key : String}
    (other : key ≠ "payload_hash" ∧ key ≠ "payload_reference") :
    (bind metadata hash location).get key = metadata.get key := by
  rw [bind, Object.get_set_ne other.2, Object.get_set_ne other.1]

/-- What is handed over is mapped from notes that passed the checks. -/
theorem mapped_of_process (processed : process library request = .ok (.handed written)) :
    ∃ observedAt envelope,
      validateProviderProjection request.provider request.sanitizedProjection =
        some request.sanitizedProjection ∧
      mapProjection library request.provider request.sanitizedProjection observedAt = .ok envelope ∧
      written.envelope.providerItemId = envelope.providerItemId := by
  unfold process at processed
  split at processed
  · exact absurd (pure_eq_ok.1 processed) nofun
  · split at processed
    · exact absurd (pure_eq_ok.1 processed) nofun
    · exact absurd (pure_eq_ok.1 processed) nofun
    · next projection offset checked _ =>
        have whole : projection = request.sanitizedProjection := by
          unfold validateProviderProjection at checked
          split at checked
          · exact absurd checked nofun
          · split at checked
            · exact (Option.some.inj checked).symm
            · exact absurd checked nofun
        subst whole
        split at processed
        · exact absurd (pure_eq_ok.1 processed) nofun
        · split at processed
          · split at processed
            · exact absurd (pure_eq_ok.1 processed) nofun
            · exact absurd processed nofun
          · next envelope enveloped =>
              obtain ⟨mapped, made, same⟩ := bind_eq_ok.1 enveloped
              obtain rfl := pure_eq_ok.1 same
              split at processed
              · exact absurd (pure_eq_ok.1 processed) nofun
              · have handed := pure_eq_ok.1 processed
                injection handed with handed
                exact ⟨_, mapped, checked, made, by rw [← handed]⟩

/-- The texts of a provider's notes that are checked are there. -/
theorem isPresent_of_isSafeText {value : Json} (safe : isSafeText value = true) :
    isPresent value = true ∧ value.truthy = true := by
  cases value with
  | str text =>
      simp only [isSafeText, Bool.and_eq_true, decide_eq_true_eq] at safe
      simp [isPresent, Json.truthy, safe.1]
  | _ => exact absurd safe nofun

theorem get_cons {key other : String} {value : Json} {rest : Object} :
    Object.get ((other, value) :: rest) key = if key = other then value else Object.get rest key := by
  by_cases same : key = other
  · simp [Object.get, List.lookup, same]
  · have different : (key == other) = false := by simpa using same
    simp [Object.get, List.lookup, same, different]

theorem providerId_of_present {value : Json} (there : isPresent value = true) :
    (providerId library value).1 = some (opaqueRef library "provider-item" value) := by
  rw [providerId, if_pos there]

/-- **The identity that is handed over is the hash of the value of the notes.** -/
theorem handed_identity {adapter : FirstAdapter} {metadata : Object} {hash location : Option String}
    (provider : request.provider = adapter.provider)
    (noted : request.sanitizedProjection = bind metadata hash location)
    (processed : process library request = .ok (.handed written)) :
    written.envelope.providerItemId =
      some (opaqueRef library "provider-item" (notedValue adapter metadata).json) := by
  obtain ⟨observedAt, envelope, checked, mapped, same⟩ := mapped_of_process processed
  rw [provider, noted] at checked mapped
  rw [same]
  unfold validateProviderProjection at checked
  split at checked
  · exact absurd checked nofun
  · split at checked
    · next passed =>
        simp only [Bool.and_eq_true] at passed
        obtain ⟨⟨⟨⟨⟨⟨-, named⟩, dated⟩, -⟩, -⟩, -⟩, fits⟩ := passed
        rw [get_bind (by decide)] at named dated
        cases adapter with
        | marketaux =>
            obtain rfl := pure_eq_ok.1 mapped
            have asked : (bind metadata hash location).get "provider_item_id" =
                metadata.get "provider_item_id" := get_bind (by decide)
            simp [mapMarketauxNews, base, get_cons, asked, notedValue, IdentityValue.json,
              providerId_of_present (isPresent_of_isSafeText named).1]
        | finnhub =>
            have symbol : (bind metadata hash location).get "symbol" = metadata.get "symbol" :=
              get_bind (by decide)
            have safe : isSafeText (metadata.get "symbol") = true :=
              symbol ▸ (Bool.and_eq_true_iff.1 fits).1
            obtain ⟨numbers, -, mapped⟩ := bind_eq_ok.1 mapped
            obtain rfl := pure_eq_ok.1 mapped
            have whole : partsOf [metadata.get "symbol", metadata.get "published_at"] =
                .arr [metadata.get "symbol", metadata.get "published_at"] := by
              simp [partsOf, (isPresent_of_isSafeText safe).1, (isPresent_of_isSafeText dated).1]
            have published : (bind metadata hash location).get "published_at" =
              metadata.get "published_at" := get_bind (by decide)
            simp [mapFinnhubQuote, base, get_cons, symbol, published, whole, providerId, isPresent,
              notedValue, IdentityValue.json]
        | eia =>
            have geography : (bind metadata hash location).get "geography" =
              metadata.get "geography" := get_bind (by decide)
            have sector : (bind metadata hash location).get "sector" = metadata.get "sector" :=
              get_bind (by decide)
            have safe : isSafeText (metadata.get "geography") = true ∧
                isSafeText (metadata.get "sector") = true := by
              rw [← geography, ← sector]
              exact Bool.and_eq_true_iff.1 (Bool.and_eq_true_iff.1 fits).1
            obtain rfl := pure_eq_ok.1 mapped
            have whole : partsOf [metadata.get "published_at",
                orElse (metadata.get "geography") .null, orElse (metadata.get "sector") .null] =
                .arr [metadata.get "published_at", metadata.get "geography",
                  metadata.get "sector"] := by
              simp [partsOf, orElse, (isPresent_of_isSafeText dated).1,
                isPresent_of_isSafeText safe.1, isPresent_of_isSafeText safe.2]
            have published : (bind metadata hash location).get "published_at" =
              metadata.get "published_at" := get_bind (by decide)
            have missing (key : String) : Object.get [] key = .null := rfl
            simp [mapEiaEnergyRow, base, get_cons, published, geography, sector, missing, whole,
              providerId, isPresent, notedValue, IdentityValue.json]
        | secEdgar =>
            obtain rfl := pure_eq_ok.1 mapped
            have asked : (bind metadata hash location).get "provider_item_id" =
                metadata.get "provider_item_id" := get_bind (by decide)
            simp [mapSecFiling, base, get_cons, asked, notedValue, IdentityValue.json,
              providerId_of_present (isPresent_of_isSafeText named).1]
    · exact absurd checked nofun

end Handed

/-! ### When the identities are one -/

section Reproduced

variable {library : StandardLibrary}

/-- **The handoff computes the identity the writer is handed.** -/
def Reproduces (library : StandardLibrary) (adapter : FirstAdapter) (facts : Object)
    (written : EvidenceWriteRequest) : Prop :=
  ∃ identity, legacyProviderItemIdentity library adapter.provider adapter.operation facts =
    .ok identity ∧ written.envelope.providerItemId = some identity

/-- Two different texts with one digest. -/
def Collide (library : StandardLibrary) (left right : String) : Prop :=
  left ≠ right ∧ library.sha256 left = library.sha256 right

/-- The text that is hashed of the notes of an item. -/
def notedText (library : StandardLibrary) (adapter : FirstAdapter) (metadata : Object) : String :=
  stableText library (notedValue adapter metadata).json

/-- The text that is hashed of the facts of an item, if they have one. -/
def factsText (library : StandardLibrary) (adapter : FirstAdapter) (facts : Object) : String :=
  match legacyIdentityValue adapter.provider facts with
  | .ok value => stableText library value.json
  | .error _ => ""

theorem opaqueRef_inj {left right : Json} (space : String) :
    opaqueRef library space left = opaqueRef library space right ↔
      library.sha256 (stableText library left) = library.sha256 (stableText library right) := by
  simp [opaqueRef, stableHash]

/-- The identity of facts whose parts are there. -/
theorem legacy_of_value {adapter : FirstAdapter} {facts : Object} {value : IdentityValue}
    (known : legacyIdentityValue adapter.provider facts = .ok value) (whole : value.isWhole = true) :
    legacyProviderItemIdentity library adapter.provider adapter.operation facts =
      .ok (opaqueRef library "provider-item" value.json) := by
  have supported : legacyOpaqueIdentityOperations.contains (adapter.provider, adapter.operation) =
      true := by
    cases adapter <;> decide
  rw [legacyProviderItemIdentity, supported, known]
  exact check_eq_ok.2 ⟨rfl, bind_eq_ok.2 ⟨value, rfl, check_eq_ok.2 ⟨by rw [whole]; rfl, rfl⟩⟩⟩

/-- The identities of an item are one if the hashes of their texts are. -/
theorem reproduces_iff_hash {adapter : FirstAdapter} {metadata facts : Object}
    {value : IdentityValue} {written : EvidenceWriteRequest}
    (known : legacyIdentityValue adapter.provider facts = .ok value) (whole : value.isWhole = true)
    (handed : written.envelope.providerItemId =
      some (opaqueRef library "provider-item" (notedValue adapter metadata).json)) :
    Reproduces library adapter facts written ↔
      library.sha256 (notedText library adapter metadata) =
        library.sha256 (factsText library adapter facts) := by
  have facts' : factsText library adapter facts = stableText library value.json := by
    rw [factsText, known]
  rw [Reproduces, legacy_of_value known whole, handed, facts', notedText,
    ← opaqueRef_inj "provider-item"]
  constructor
  · rintro ⟨identity, first, second⟩
    rw [Except.ok.inj first, Option.some.inj second]
  · exact fun same => ⟨_, rfl, by rw [same]⟩

variable {loads : String → Result Json} {transport : Sent → Transported} {now : Int}
  {credential : Option String} {asked : ProviderFetchRequest} {result : ProviderFetchResult}

/-- **The identity of an older item is reproduced for news and filings, and for no quote and no
price** but one whose two texts have one digest by chance. -/
theorem identity_reproduced_iff {adapter : FirstAdapter} {metadata facts : Object}
    {request : EvidencePipelineRequest} {hash location : Option String}
    {written : EvidenceWriteRequest}
    (fetched : adapter.fetch library loads transport now credential asked = .ok result)
    (row : (metadata, facts) ∈ result.sanitizedMetadata.zip result.factualProjections)
    (provider : request.provider = adapter.provider)
    (noted : request.sanitizedProjection = bind metadata hash location)
    (processed : process library request = .ok (.handed written)) :
    Reproduces library adapter facts written ↔
      adapter = .marketaux ∨ adapter = .secEdgar ∨
        Collide library (notedText library adapter metadata) (factsText library adapter facts) := by
  have handed := handed_identity provider noted processed
  obtain ⟨item, emitted, rfl, rfl⟩ := emits_of_fetch fetched row
  cases adapter with
  | marketaux =>
      obtain ⟨identity, -, -, there, named, known, -, -⟩ := values_of_news emitted
      have texts : notedText library .marketaux item.metadata =
          factsText library .marketaux item.factual := by
        rw [notedText, factsText, known, notedValue, named]
      rw [reproduces_iff_hash known (by simp [IdentityValue.isWhole, isPresent, there]) handed, texts]
      exact iff_of_true rfl (.inl rfl)
  | secEdgar =>
      obtain ⟨accession, -, -, there, named, known, -, -, -⟩ := values_of_filing emitted
      have texts : notedText library .secEdgar item.metadata =
          factsText library .secEdgar item.factual := by
        rw [notedText, factsText, known, notedValue, named]
      rw [reproduces_iff_hash known (by simp [IdentityValue.isWhole, isPresent, there]) handed, texts]
      exact iff_of_true rfl (.inr (.inl rfl))
  | finnhub =>
      obtain ⟨symbol, code, published, seconds, symbolic, dated, known, there, simple, -, -⟩ :=
        values_of_quote emitted
      have differ : notedText library .finnhub item.metadata ≠
          factsText library .finnhub item.factual := by
        rw [notedText, factsText, known, notedValue, symbolic, dated]
        exact quote_texts_differ library simple
      rw [reproduces_iff_hash known (by simp [IdentityValue.isWhole, isPresent, there]) handed]
      simp [Collide, differ]
  | eia =>
      obtain ⟨published, geography, sector, value, facet, facet', dated, placed, sorted, known,
        written, month, there, first, second, -⟩ := values_of_price emitted
      obtain ⟨here, offset, day⟩ := isoFormat_of_isoTimestamp written
      rw [isMonth, Bool.and_eq_true] at month
      have differ : notedText library .eia item.metadata ≠ factsText library .eia item.factual := by
        rw [notedText, factsText, known, notedValue, dated, placed, sorted]
        exact price_texts_differ library day (mem_of_isMonth month.1)
      rw [reproduces_iff_hash known
        (by simp [IdentityValue.isWhole, isPresent, there, first, second]) handed]
      simp [Collide, differ]

end Reproduced

/-! ### A quote and a filing -/

/-- The digests of the texts below. -/
def digests : StandardLibrary :=
  { silentLibrary with
    sha256 := fun text =>
      if text = "[\"MSFT\",\"2024-01-01T12:00:00+00:00\"]" then
        "f27b82c7400a8b5fed144ab256afd16aef1b889d511a76e2c9ba43a301a2e8e4"
      else if text = "[\"MSFT\",1704110400]" then
        "cf0af4513e2635b872fc507a5d0c611acabb63d133ac3b8f493b5b9d7c00d07f"
      else if text = "\"0000789019-24-000001\"" then
        "27294c4f9e7c8bfe02bb400c6f3db22b0d34fb0be737b247a4301e8fe603d2df"
      else "79ca4623f49ab29079df69370a55edc093e44dfbd36c3b46df487cb323132340" }

/-- A request of a target of this configuration. -/
def askedFor (config : Object) : ProviderFetchRequest where
  cursor := none
  config := config
  limit := 1
  deadlineAt := 0
  maxResponseBytes := 1000000
  requestTimeoutSeconds := 10
  continuation := none
  targetId := 0
  configRevision := 1
  operationConfigVersion := 1
  providerContractVersion := 1
  cursorVersion := 1
  runMode := .normal

/-- A quote of the provider. -/
def quoteBody : Object :=
  [("c", .int 370), ("d", .int 1), ("dp", .int 1), ("h", .int 372), ("l", .int 366), ("o", .int 369),
    ("pc", .int 369), ("t", .int 1704110400)]

/-- An answer with this body. -/
def answerWith (body : Object) (_ : Sent) : Transported := .answered ⟨200, none, 0, .obj body⟩

def quoteNotes : Object :=
  [("provider_item_id", .str "MSFT:1704110400"), ("published_at", .str "2024-01-01T12:00:00+00:00"),
    ("field_names", .arr [.str "c", .str "d", .str "dp", .str "h", .str "l", .str "o", .str "pc",
      .str "t"]), ("symbol", .str "MSFT"), ("numeric_field_count", .int 7)]

def quoteFacts : Object := quotePayload "MSFT" "2024-01-01T12:00:00+00:00" 1704110400 quoteBody

/-- Names in order are left as they are. -/
theorem safeFieldNames_of_sorted {row : Object} (clean : row.keys.filter (fun key => !hasMarker key) = row.keys)
    (sorted : row.keys.Pairwise fun left right => decide (left ≤ right) = true) :
    safeFieldNames row = row.keys.map Json.str := by
  rw [safeFieldNames, clean, List.mergeSort_of_pairwise sorted]

theorem fetch_of_attempt {library : StandardLibrary} {loads : String → Result Json}
    {transport : Sent → Transported} {now : Int} {credential : Option String}
    {asked : ProviderFetchRequest} {adapter : FirstAdapter} {result : ProviderFetchResult}
    (ran : adapter.attempt library loads transport now credential asked = .ok result) :
    adapter.fetch library loads transport now credential asked = .ok result := by
  rw [FirstAdapter.fetch, ran]

/-- The quote is fetched. -/
theorem fetched_quote : ∃ result, FirstAdapter.finnhub.fetch digests (fun _ => .ok .null)
    (answerWith quoteBody) 0 (some "FINNHUB_API_KEY") (askedFor [("symbol", .str "msft")]) = .ok result ∧
    (quoteNotes, quoteFacts) ∈ result.sanitizedMetadata.zip result.factualProjections := by
  have names : safeFieldNames quoteBody = [.str "c", .str "d", .str "dp", .str "h", .str "l",
      .str "o", .str "pc", .str "t"] :=
    safeFieldNames_of_sorted rfl (by decide)
  have notes : quoteMetadata "MSFT:1704110400" "2024-01-01T12:00:00+00:00" "MSFT" quoteBody =
      quoteNotes := by
    rw [quoteMetadata, names]
    rfl
  have item : ∃ raw display, quoteItem digests "MSFT" ⟨200, none, 0, .obj quoteBody⟩ quoteBody =
      .ok ⟨raw, quoteNotes, quoteFacts, display⟩ := by
    rw [← notes]
    exact ⟨_, _, bind_eq_ok.2 ⟨1704110400, rfl, bind_eq_ok.2
      ⟨"2024-01-01T12:00:00+00:00", given_eq_ok.2 (by decide +kernel), check_eq_ok.2
        ⟨ensure_eq_ok.2 rfl, bind_eq_ok.2 ⟨List.replicate 7 true, by decide +kernel,
          check_eq_ok.2 ⟨rfl, check_eq_ok.2 ⟨rfl, bind_eq_ok.2
            ⟨quoteFacts, validated_eq_ok.2 (by decide +kernel), pure_eq_ok.2 rfl⟩⟩⟩⟩⟩⟩⟩⟩
  obtain ⟨raw, display, made⟩ := item
  refine ⟨_, fetch_of_attempt (check_eq_ok.2 ⟨rfl, check_eq_ok.2 ⟨rfl,
    bind_eq_ok.2 ⟨"msft", given_eq_ok.2 rfl, bind_eq_ok.2
      ⟨⟨200, none, 0, .obj quoteBody⟩, rfl, bind_eq_ok.2 ⟨quoteBody, rfl, bind_eq_ok.2
        ⟨⟨raw, quoteNotes, quoteFacts, display⟩, ?_, pure_eq_ok.2 rfl⟩⟩⟩⟩⟩⟩),
    List.mem_singleton.2 rfl⟩
  have capitals : upperText "msft" = "MSFT" := rfl
  rw [capitals]
  exact made

/-- What is bound to the raw item of the quote. -/
def quoteRequest : EvidencePipelineRequest where
  rawItemId := 1
  sourceId := 2
  sourceAccountId := none
  provider := "finnhub"
  sanitizedProjection := bind quoteNotes
    (some "79ca4623f49ab29079df69370a55edc093e44dfbd36c3b46df487cb323132340")
    (some "internal://provider/finnhub/79ca4623f49ab29079df69370a55edc093e44dfbd36c3b46df487cb323132340")
  observedAt := (0, some 0)
  correlationId := "collection-run:1"

/-- The identity that is handed over, if anything is. -/
def handedIdentity (library : StandardLibrary) (request : EvidencePipelineRequest) : Option String :=
  match process library request with
  | .ok (.handed written) => written.envelope.providerItemId
  | _ => none

theorem exists_handed {library : StandardLibrary} {request : EvidencePipelineRequest}
    {identity : String} (known : handedIdentity library request = some identity) :
    ∃ written, process library request = .ok (.handed written) ∧
      written.envelope.providerItemId = some identity := by
  unfold handedIdentity at known
  split at known
  · next written processed => exact ⟨written, processed, known⟩
  · exact absurd known nofun

/-- **A quote is called by one identity in the pipeline and by another in the handoff.** -/
theorem quote_identity_drifts : ∃ result metadata facts request hash location written,
    FirstAdapter.finnhub.fetch digests (fun _ => .ok .null) (answerWith quoteBody) 0
      (some "FINNHUB_API_KEY") (askedFor [("symbol", .str "msft")]) = .ok result ∧
    (metadata, facts) ∈ result.sanitizedMetadata.zip result.factualProjections ∧
    request.provider = "finnhub" ∧ request.sanitizedProjection = bind metadata hash location ∧
    process digests request = .ok (.handed written) ∧
    ¬ Reproduces digests .finnhub facts written := by
  obtain ⟨result, fetched, row⟩ := fetched_quote
  have known : handedIdentity digests quoteRequest = some
      "provider-item:f27b82c7400a8b5fed144ab256afd16aef1b889d511a76e2c9ba43a301a2e8e4" := by
    rfl
  have legacy : legacyProviderItemIdentity digests "finnhub" "quote" quoteFacts = .ok
      "provider-item:cf0af4513e2635b872fc507a5d0c611acabb63d133ac3b8f493b5b9d7c00d07f" := by
    rfl
  obtain ⟨written, processed, named⟩ := exists_handed known
  refine ⟨result, quoteNotes, quoteFacts, quoteRequest, _, _, written, fetched, row, rfl, rfl,
    processed, ?_⟩
  rintro ⟨identity, computed, handed⟩
  rw [FirstAdapter.provider, FirstAdapter.operation, legacy] at computed
  rw [named, ← Except.ok.inj computed] at handed
  exact absurd handed (by decide)

/-- A row of filings. -/
def filingRow : Object :=
  [("accessionNumber", .str "0000789019-24-000001"), ("filingDate", .str "2024-01-02"),
    ("form", .str "10-Q"), ("primaryDocument", .str "msft.htm")]

def filingBody : Object :=
  [("filings", .obj [("recent", .obj (filingRow.map fun entry => (entry.1, .arr [entry.2])))])]

def filingNotes : Object :=
  [("provider_item_id", .str "0000789019-24-000001"),
    ("published_at", .str "2024-01-02T00:00:00+00:00"),
    ("field_names", .arr [.str "accessionNumber", .str "filingDate", .str "form",
      .str "primaryDocument"]), ("ticker", .str "MSFT"), ("form", .str "10-Q"),
    ("has_primary_document", .bool true)]

def filingFacts : Object :=
  filingPayload (.str "0000789019") (.str "MSFT") (some "2024-01-02T00:00:00+00:00")
    "0000789019-24-000001" "2024-01-02" (.str "10-Q") (.str "msft.htm")
    "https://www.sec.gov/Archives/edgar/data/789019/000078901924000001/msft.htm"

/-- A target of the filings of one company. -/
def filerConfig : Object := [("ticker", .str "msft"), ("cik", .str "789019")]

/-- The filing is fetched. -/
theorem fetched_filing : ∃ result, FirstAdapter.secEdgar.fetch digests (fun _ => .ok .null)
    (answerWith filingBody) 0 (some "SEC_USER_AGENT") (askedFor filerConfig) = .ok result ∧
    (filingNotes, filingFacts) ∈ result.sanitizedMetadata.zip result.factualProjections := by
  have names : safeFieldNames filingRow = [.str "accessionNumber", .str "filingDate", .str "form",
      .str "primaryDocument"] :=
    safeFieldNames_of_sorted rfl (by decide)
  have notes : filingMetadata "0000789019-24-000001" "2024-01-02T00:00:00+00:00" "MSFT" "10-Q"
      filingRow = filingNotes := by
    rw [filingMetadata, names]
    rfl
  have item : ∃ raw display, filingItem digests "MSFT" "0000789019" ⟨200, none, 0, .obj filingBody⟩
      filingRow = .ok ⟨raw, filingNotes, filingFacts, display⟩ := by
    rw [← notes]
    exact ⟨_, _, bind_eq_ok.2 ⟨"0000789019-24-000001", given_eq_ok.2 rfl,
      bind_eq_ok.2 ⟨"10-Q", given_eq_ok.2 rfl, bind_eq_ok.2
        ⟨"2024-01-02T00:00:00+00:00", given_eq_ok.2 rfl, bind_eq_ok.2
          ⟨"msft.htm", given_eq_ok.2 rfl, bind_eq_ok.2
            ⟨"https://www.sec.gov/Archives/edgar/data/789019/000078901924000001/msft.htm",
              attempt_of_eq_ok.2 rfl, bind_eq_ok.2
              ⟨filingFacts, validated_eq_ok.2 (by decide +kernel), pure_eq_ok.2 rfl⟩⟩⟩⟩⟩⟩⟩
  obtain ⟨raw, display, made⟩ := item
  have rows : recentRows (.obj filingBody) = [filingRow] := rfl
  refine ⟨_, fetch_of_attempt (check_eq_ok.2 ⟨rfl, check_eq_ok.2 ⟨rfl,
    bind_eq_ok.2 ⟨("msft", "789019"), given_eq_ok.2 rfl, bind_eq_ok.2
      ⟨⟨200, none, 0, .obj filingBody⟩, rfl, check_eq_ok.2 ⟨rfl, bind_eq_ok.2
        ⟨[⟨raw, filingNotes, filingFacts, display⟩], ?_, pure_eq_ok.2 rfl⟩⟩⟩⟩⟩⟩),
    List.mem_singleton.2 rfl⟩
  have capitals : upperText "msft" = "MSFT" := rfl
  have padded : String.ofList (zfill 10 "789019".toList) = "0000789019" := rfl
  rw [rows, capitals, padded]
  exact bind_eq_ok.2 ⟨_, made, rfl⟩

def filingRequest : EvidencePipelineRequest :=
  { quoteRequest with
    provider := "sec_edgar"
    sanitizedProjection := bind filingNotes
      (some "9ce83b2099b54a6843a82f9475762e663742a16fba143ad8bbe185b448054408")
      (some "internal://provider/sec_edgar/9ce83b2099b54a6843a82f9475762e663742a16fba143ad8bbe185b448054408") }

/-- A filing is called by one identity. -/
theorem filing_identity_reproduced :
    ∃ written, process digests filingRequest = .ok (.handed written) ∧
      Reproduces digests .secEdgar filingFacts written := by
  obtain ⟨result, fetched, row⟩ := fetched_filing
  have known : handedIdentity digests filingRequest = some
      "provider-item:27294c4f9e7c8bfe02bb400c6f3db22b0d34fb0be737b247a4301e8fe603d2df" := by
    rfl
  obtain ⟨written, processed, -⟩ := exists_handed known
  exact ⟨written, processed,
    (identity_reproduced_iff fetched row rfl rfl processed).2 (.inr (.inl rfl))⟩

end NewsCollect.Evidence
