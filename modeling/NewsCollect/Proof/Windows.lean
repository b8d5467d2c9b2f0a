/-
**Windows and configurations, resolved once.**

Resolving the window of an accepted configuration gives a configuration that is accepted as it is:
the control plane may hash it, and the adapter, which validates it again, hashes the same one.

* `windowBound_eq_ok`, `validateFixed_eq_ok`, `validateRolling_eq_ok`, `breadthConfig_eq_ok`: the
  validators, condition by condition.
* `Resolved`: a configuration that is accepted, normalised and has a fixed window.
* `resolved_of_window`: an accepted configuration with an acceptable window put into it.
-/

import NewsCollect.Providers.BreadthConfig
import NewsCollect.Providers.Continuation

namespace NewsCollect.Providers

open Calendar Text

variable {provider operation : String} {config : Object}

/-! ### The validators, condition by condition -/

theorem windowBound_eq_ok {key : String} {bound : Int} :
    windowBound operation config key = .ok bound ↔
      ∃ text offset, config.get key = .str text ∧
        (operation = "electricity_retail_sales" → isMonthText text.toList = true) ∧
        isBoundText text.toList = true ∧ fromIsoFormat text.toList = some (bound, offset) := by
  unfold windowBound
  cases config.get key with
  | str text =>
      simp only [Json.str.injEq, exists_and_left, exists_eq_left']
      split
      · next bad =>
        refine iff_of_false (by simp [raise]) ?_
        rintro ⟨month, shape, -⟩
        rcases bad with ⟨monthly, wrong⟩ | wrong
        · simp [month monthly] at wrong
        · simp [shape] at wrong
      · next good =>
        simp only [not_or, not_and, Bool.not_eq_true', Bool.not_eq_false] at good
        split
        · next held offset found =>
          rw [Except.ok.injEq]
          constructor
          · rintro rfl
            exact ⟨good.1, good.2, offset, found⟩
          · rintro ⟨-, -, offset', found'⟩
            rw [found] at found'
            exact (Prod.mk.inj (Option.some.inj found')).1
        · next missing => simp [missing, raise]
  | _ => simp [raise]

/-- The length of a fixed window. -/
def lengthOk (operation : String) (start stop : Int) : Bool :=
  if operation = "electricity_retail_sales" then
    0 ≤ monthIndex stop - monthIndex start && monthIndex stop - monthIndex start ≤ 11
  else 0 < stop - start && stop - start ≤ windowCeiling operation * second

theorem validateFixed_eq_ok {u : Unit} :
    validateFixed operation config = .ok u ↔
      config.hasAny rollingKeys = false ∧ ∃ start stop,
        windowBound operation config "start" = .ok start ∧
        windowBound operation config "end" = .ok stop ∧ lengthOk operation start stop = true := by
  unfold validateFixed
  simp only [bind_eq_ok, require_eq_ok, exists_const, Bool.not_eq_true']
  refine and_congr_right fun _ => exists_congr fun start => ?_
  rw [← exists_and_left]
  refine exists_congr fun stop => and_congr_right fun _ => and_congr_right fun _ => ?_
  by_cases monthly : operation = "electricity_retail_sales" <;> simp [lengthOk, monthly]

/-- The settings of a rolling window of months. -/
structure Months (config : Object) (lookback overlap lag : Int) : Prop where
  lookback_eq : config.get "lookback_months" = .int lookback
  overlap_eq : config.get "overlap_months" = .int overlap
  lag_eq : config.get "ingestion_lag_months" = .int lag
  lookback_pos : 1 ≤ lookback
  lookback_le : lookback ≤ 12
  overlap_nonneg : 0 ≤ overlap
  overlap_lt : overlap < lookback
  lag_nonneg : 0 ≤ lag
  lag_le : lag ≤ 12

/-- The settings of a rolling window of days or hours. -/
structure Seconds (operation : String) (config : Object) (lookback overlap lag : Int) : Prop where
  lookback_eq : config.get "lookback_seconds" = .int lookback
  overlap_eq : config.get "overlap_seconds" = .int overlap
  lag_eq : config.get "ingestion_lag_seconds" = .int lag
  granularity_eq : config.get "granularity" = .str (expectedGranularity operation)
  lookback_ge : minimumLookback (expectedGranularity operation) ≤ lookback
  lookback_le : lookback ≤ windowCeiling operation
  overlap_nonneg : 0 ≤ overlap
  overlap_lt : overlap < lookback
  lag_nonneg : 0 ≤ lag
  lag_le : lag ≤ windowCeiling operation

theorem int?_eq_some {value : Json} {number : Int} :
    value.int? = some number ↔ value = .int number := by
  cases value <;> simp [Json.int?]

/-- What an accepted rolling window sets. -/
theorem settings_of_validateRolling {u : Unit} (ok : validateRolling operation config = .ok u) :
    if operation = "electricity_retail_sales" then
      ∃ lookback overlap lag, Months config lookback overlap lag
    else ∃ lookback overlap lag, Seconds operation config lookback overlap lag := by
  unfold validateRolling at ok
  simp only [bind_eq_ok, require_eq_ok, exists_const] at ok
  obtain ⟨-, ok⟩ := ok
  split
  · next monthly =>
    simp only [monthly, if_true, bind_eq_ok, require_eq_ok, exists_const] at ok
    obtain ⟨-, ok⟩ := ok
    split at ok
    · next lookback overlap lag first second third =>
      simp only [require_eq_ok, Bool.and_eq_true, decide_eq_true_eq, and_assoc] at ok
      exact ⟨lookback, overlap, lag, int?_eq_some.1 first, int?_eq_some.1 second,
        int?_eq_some.1 third, ok.1, ok.2.1, ok.2.2.1, ok.2.2.2.1, ok.2.2.2.2.1, ok.2.2.2.2.2.1⟩
    · simp [raise] at ok
  · next other =>
    simp only [other, if_false, bind_eq_ok, require_eq_ok, exists_const] at ok
    obtain ⟨-, ok⟩ := ok
    split at ok
    · next lookback overlap lag first second third =>
      simp only [bind_eq_ok, require_eq_ok, exists_const, Bool.and_eq_true, decide_eq_true_eq,
        and_assoc, Json.eq_str] at ok
      exact ⟨lookback, overlap, lag, int?_eq_some.1 first, int?_eq_some.1 second,
        int?_eq_some.1 third, ok.2.2.2.2.2.2, ok.1, ok.2.1, ok.2.2.1, ok.2.2.2.1, ok.2.2.2.2.1,
        ok.2.2.2.2.2.1⟩
    · simp [raise] at ok

theorem breadthConfig_eq_ok {result : Object} :
    breadthConfig provider operation config = .ok result ↔
      ∃ keys, operationKeys provider operation = some keys ∧
        config.keySubset (keys ++ windowKeys) = true ∧ validateWindow operation config = .ok () ∧
        providerChecks provider operation config = .ok () ∧
        result = normalized provider config := by
  unfold breadthConfig
  cases operationKeys provider operation with
  | none => simp [raise]
  | some keys =>
      simp only [check_eq_ok, require_eq_ok, pure_eq_ok, Option.some.injEq, exists_eq_left',
        eq_comm (a := result)]

/-! ### What the validators read -/

theorem windowBound_congr {other : Object} {key : String} (same : config.get key = other.get key) :
    windowBound operation config key = windowBound operation other key := by
  rw [windowBound, windowBound, same]

/-- The settings the window validator reads. -/
def windowReads : List String := "start" :: "end" :: windowKeys

theorem validateFixed_congr {other : Object} (same : Object.Agree windowReads config other) :
    validateFixed operation config = validateFixed operation other := by
  rw [validateFixed, validateFixed, same.hasAny rollingKeys (by decide),
    windowBound_congr (same.get "start" (by decide)), windowBound_congr (same.get "end" (by decide))]

theorem validateRolling_congr {other : Object} (same : Object.Agree windowReads config other) :
    validateRolling operation config = validateRolling operation other := by
  rw [validateRolling, validateRolling, same.has "start" (by decide),
    same.has "end" (by decide), same.hasAny secondsKeys (by decide),
    same.hasAny monthsKeys (by decide), same.get "lookback_months" (by decide),
    same.get "overlap_months" (by decide),
    same.get "ingestion_lag_months" (by decide),
    same.get "lookback_seconds" (by decide),
    same.get "overlap_seconds" (by decide),
    same.get "ingestion_lag_seconds" (by decide),
    same.get "granularity" (by decide)]

/-- The window validator reads its own settings only. -/
theorem validateWindow_congr {other : Object} (same : Object.Agree windowReads config other) :
    validateWindow operation config = validateWindow operation other := by
  rw [validateWindow, validateWindow, same.get "window_mode" (by decide),
    validateFixed_congr same, validateRolling_congr same]

/-- The settings the other checks read, those of the filer apart. -/
def settingReads : List String :=
  ["symbol", "ticker", "query", "language", "symbols", "frequency", "geographies", "sectors",
    "regions", "types", "forms"]

/-- The other checks read their settings only. -/
theorem providerChecks_congr {other : Object} (same : Object.Agree settingReads config other)
    (filer : provider = "sec_edgar" → isShaped isCik (config.get "cik") =
        isShaped isCik (other.get "cik") ∧
      isHistoryBudget (config.getD "max_history_files" (.int 2)) =
        isHistoryBudget (other.getD "max_history_files" (.int 2))) :
    providerChecks provider operation config = providerChecks provider operation other := by
  have marketaux : marketauxChecks config = marketauxChecks other := by
    rw [marketauxChecks, marketauxChecks, same.get "query" (by decide),
      same.get "language" (by decide), same.getD "symbols" (by decide)]
  have retail : retailChecks config = retailChecks other := by
    rw [retailChecks, retailChecks, same.get "frequency" (by decide),
      same.get "geographies" (by decide), same.get "sectors" (by decide)]
  have rto : rtoChecks config = rtoChecks other := by
    rw [rtoChecks, rtoChecks, same.get "frequency" (by decide),
      same.get "regions" (by decide), same.get "types" (by decide)]
  have sec : onlyIf (provider = "sec_edgar") (secChecks config) =
      onlyIf (provider = "sec_edgar") (secChecks other) := by
    by_cases filings : provider = "sec_edgar"
    · rw [secChecks, secChecks, (filer filings).1, (filer filings).2,
        same.get "forms" (by decide)]
    · simp [onlyIf, filings]
  rw [providerChecks, providerChecks, marketaux, retail, rto, sec,
    same.get "symbol" (by decide), same.get "ticker" (by decide)]

/-! ### Normal forms -/

theorem lookup_normalized {key : String} (notFiler : key ≠ "cik")
    (notBudget : key ≠ "max_history_files") :
    (normalized provider config).lookup key = config.lookup key := by
  unfold normalized
  split
  · rw [Object.lookup_set_ne notBudget, Object.lookup_set_ne notFiler]
  · rfl

theorem isCik_padded {value : Json} (shape : isShaped isCik value = true) :
    isShaped isCik (paddedCik value) = true := by
  cases value with
  | str cik =>
      simp only [isShaped, isCik, bounded, Bool.and_eq_true, decide_eq_true_eq] at shape
      have long := length_zfill shape.1.2
      simp only [paddedCik, isShaped, isCik, bounded, String.toList_ofList, long, Bool.and_eq_true]
      exact ⟨by decide, all_zfill (by decide) shape.2⟩
  | _ => simp [isShaped] at shape

theorem paddedCik_paddedCik (value : Json) : paddedCik (paddedCik value) = paddedCik value := by
  cases value with
  | str cik =>
      have again : zfill 10 (zfill 10 cik.toList) = zfill 10 cik.toList := by
        by_cases narrow : cik.toList.length ≤ 10
        · exact zfill_of_le (length_zfill narrow).ge
        · rw [zfill_of_le (by omega : 10 ≤ cik.toList.length), zfill_of_le (by omega)]
      rw [paddedCik, paddedCik, String.toList_ofList, again]
  | _ => rfl

theorem normalized_normalized (config : Object) :
    normalized provider (normalized provider config) = normalized provider config := by
  by_cases filings : provider = "sec_edgar"
  · have cik : (normalized provider config).lookup "cik" = some (paddedCik (config.get "cik")) := by
      rw [normalized, if_pos filings, Object.lookup_set_ne (by decide), Object.lookup_set_same]
    have budget : (normalized provider config).lookup "max_history_files" =
        some (config.getD "max_history_files" (.int 2)) := by
      rw [normalized, if_pos filings, Object.lookup_set_same]
    generalize normalized provider config = normal at cik budget
    have filer : paddedCik (normal.get "cik") = paddedCik (config.get "cik") := by
      rw [Object.get, cik, Option.getD_some, paddedCik_paddedCik]
    have most : normal.getD "max_history_files" (.int 2) =
        config.getD "max_history_files" (.int 2) := by
      rw [Object.getD, budget, Option.getD_some]
    rw [normalized, if_pos filings, filer, most, Object.set_self cik, Object.set_self budget]
  · rw [normalized, if_neg filings, normalized, if_neg filings]

/-- A normal form passes the checks its configuration passes. -/
theorem providerChecks_normalized (checks : providerChecks provider operation config = .ok ()) :
    providerChecks provider operation (normalized provider config) = .ok () := by
  rw [← checks]
  refine providerChecks_congr (fun key inside => lookup_normalized ?_ ?_) ?_
  · rintro rfl
    exact absurd inside (by decide)
  · rintro rfl
    exact absurd inside (by decide)
  · intro filings
    simp only [providerChecks, check_eq_ok, onlyIf_eq_ok, decide_eq_true_eq, filings, true_implies,
      secChecks, require_eq_ok] at checks
    obtain ⟨-, -, -, -, -, cik, -, -⟩ := checks
    rw [normalized, if_pos filings, Object.get_set_ne (by decide), Object.get_set_same,
      isCik_padded cik, cik, Object.getD, Object.lookup_set_same, Option.getD_some]
    exact ⟨rfl, rfl⟩

theorem keySubset_normalized {keys : List String} (known : operationKeys provider operation = some keys)
    (inside : config.keySubset (keys ++ windowKeys) = true) :
    (normalized provider config).keySubset (keys ++ windowKeys) = true := by
  unfold normalized
  split
  · next filings =>
    have names : "cik" ∈ keys ∧ "max_history_files" ∈ keys := by
      subst filings
      unfold operationKeys at known
      simp only [Prod.mk.injEq] at known
      simp at known
      rw [← known.2]
      decide
    exact Object.keySubset_set _ (List.mem_append_left _ names.2)
      (Object.keySubset_set _ (List.mem_append_left _ names.1) inside)
  · exact inside

/-- **Acceptance gives a normal form**: it is accepted again, and left unchanged. -/
theorem accepted_again {raw : Object} (ok : breadthConfig provider operation raw = .ok config) :
    breadthConfig provider operation config = .ok config := by
  obtain ⟨keys, known, inside, window, checks, rfl⟩ := breadthConfig_eq_ok.1 ok
  refine breadthConfig_eq_ok.2 ⟨keys, known, keySubset_normalized known inside, ?_,
    providerChecks_normalized checks, (normalized_normalized raw).symm⟩
  rw [← window]
  refine validateWindow_congr fun key read => lookup_normalized ?_ ?_
  · rintro rfl
    exact absurd read (by decide)
  · rintro rfl
    exact absurd read (by decide)

/-! ### Resolved configurations -/

/-- **A resolved configuration**: accepted, in its normal form, with a fixed window. -/
structure Resolved (provider operation : String) (config : Object) : Prop where
  accepted : breadthConfig provider operation config = .ok config
  fixed : config.get "window_mode" = .str "fixed_window"

/-- A configuration accepted with a fixed window is resolved. -/
theorem Resolved.of_accepted {raw : Object} (ok : breadthConfig provider operation raw = .ok config)
    (fixed : config.get "window_mode" = .str "fixed_window") : Resolved provider operation config :=
  ⟨accepted_again ok, fixed⟩

theorem validateWindow_fixed (fixed : config.get "window_mode" = .str "fixed_window") :
    validateWindow operation config = validateFixed operation config := by
  simp [validateWindow, fixed]

/-- The two bounds of a resolved configuration are strings. -/
theorem Resolved.bounds (resolved : Resolved provider operation config) :
    ∃ start stop, config.get "start" = .str start ∧ config.get "end" = .str stop := by
  obtain ⟨keys, -, -, window, -, -⟩ := breadthConfig_eq_ok.1 resolved.accepted
  rw [validateWindow_fixed resolved.fixed] at window
  obtain ⟨-, start, stop, first, last, -⟩ := validateFixed_eq_ok.1 window
  obtain ⟨text, -, held, -⟩ := windowBound_eq_ok.1 first
  obtain ⟨text', -, held', -⟩ := windowBound_eq_ok.1 last
  exact ⟨text, text', held, held'⟩

/-- The operations with a configuration are the operations with a continuation. -/
theorem Resolved.known (resolved : Resolved provider operation config) :
    (continuationOperations provider operation).isSome = true := by
  obtain ⟨keys, found, -⟩ := breadthConfig_eq_ok.1 resolved.accepted
  unfold operationKeys at found
  unfold continuationOperations
  split at found
  · simp [*]
  split at found
  · simp [*]
  split at found
  · simp [*]
  split at found
  · simp [*]
  split at found
  · simp [*]
  · simp at found

/-- What the filings checks establish. -/
theorem secChecks_eq_ok {u : Unit} :
    secChecks config = .ok u ↔ isShaped isCik (config.get "cik") = true ∧
      requireSubset (config.get "forms") forms "breadth_form_invalid" = .ok () ∧
      isHistoryBudget (config.getD "max_history_files" (.int 2)) = true := by
  simp only [secChecks, check_eq_ok, require_eq_ok]

/-- The normalised filer and budget of a filings configuration. -/
theorem Resolved.filer (resolved : Resolved "sec_edgar" operation config) :
    ∃ cik budget, config.get "cik" = .str cik ∧ cik.toList.all isDecimal = true ∧
      cik.toList.length = 10 ∧ config.get "max_history_files" = .int budget ∧ 0 ≤ budget ∧
      budget ≤ 5 := by
  obtain ⟨keys, -, -, -, checks, normal⟩ := breadthConfig_eq_ok.1 resolved.accepted
  simp only [providerChecks, check_eq_ok, onlyIf_eq_ok, decide_true, true_implies,
    secChecks_eq_ok] at checks
  obtain ⟨-, -, -, -, -, cikOk, -, budgetOk⟩ := checks
  have cikEq : config.get "cik" = paddedCik (config.get "cik") := by
    conv_lhs => rw [normal]
    rw [normalized, if_pos rfl, Object.get_set_ne (by decide), Object.get_set_same]
  have budgetEq : config.get "max_history_files" = config.getD "max_history_files" (.int 2) := by
    conv_lhs => rw [normal]
    rw [normalized, if_pos rfl, Object.get_set_same]
  cases held : config.get "cik" with
  | str cik =>
      rw [held, isShaped, isCik, bounded, Bool.and_eq_true, Bool.and_eq_true] at cikOk
      rw [held, paddedCik, Json.str.injEq] at cikEq
      have padded : cik.toList = zfill 10 cik.toList := by
        conv_lhs => rw [cikEq]
        rw [String.toList_ofList]
      have long : cik.toList.length = 10 := by
        rw [padded]
        exact length_zfill (by simpa using cikOk.1.2)
      cases value : config.getD "max_history_files" (.int 2) with
      | int budget =>
          rw [value] at budgetEq budgetOk
          simp only [isHistoryBudget, Bool.and_eq_true, decide_eq_true_eq] at budgetOk
          exact ⟨cik, budget, rfl, cikOk.2, long, budgetEq, budgetOk⟩
      | _ => simp [value, isHistoryBudget] at budgetOk
  | _ => simp [held, isShaped] at cikOk

end NewsCollect.Providers
