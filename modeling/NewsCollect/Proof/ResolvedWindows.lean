/-
**Rolling windows.**

A rolling window is resolved once per run, and the fixed window so computed is put into the
configuration, where the validator of fixed windows reads it again.

* `monthText_eq`, `windowBound_month`, `windowBound_instant`: the texts of a window are bounds, and
  denote the months and the instants they were made of.
* `resolveMonths_eq`, `windowEnd_eq_ok`, `windowStart_eq_ok`: the months, the days and the hours.
* `InCalendar`: what a window is computed from is in the calendar.
* `Covers`: a window that leaves no gap, and `rolling_windows_cover`: every accepted window does.
-/

import NewsCollect.Proof.Windows

namespace NewsCollect.Providers

open Calendar Text

variable {operation : String} {config result : Object} {now : Int} {watermark : Option Int}

/-! ### The texts of a window -/

theorem digitChar_eq {n : Nat} (below : n < 10) : n.digitChar = digit n := by
  interval_cases n <;> rfl

/-- A number below ten thousand, padded, is its four digits. -/
theorem zfill_toString {n : Nat} (below : n < 10000) :
    zfill 4 (toString n).toList = four n := by
  have signed : ∀ k, ¬(digit k = '+' ∨ digit k = '-') := by
    intro k same
    have digits := isDigit_digit k
    rcases same with same | same <;> rw [same] at digits <;> exact absurd digits (by decide)
  have zero : ∀ k, k % 10 = 0 → digit k = '0' := by
    intro k none
    rw [digit, none]
  have same : ∀ k, digit (k % 10) = digit k := by
    intro k
    rw [digit, digit, Nat.mod_mod]
  rw [Nat.toString_eq_repr, Nat.toList_repr]
  by_cases ones : n < 10
  · rw [Nat.toDigits_of_lt_base ones, digitChar_eq ones]
    simp [zfill, signed, four, zero (n / 1000) (by omega), zero (n / 100) (by omega),
      zero (n / 10) (by omega), List.replicate]
  have last := digitChar_eq (Nat.mod_lt n (show 0 < 10 by decide))
  rw [Nat.toDigits_of_base_le (by decide) (by omega), last, same]
  by_cases tens : n / 10 < 10
  · rw [Nat.toDigits_of_lt_base tens, digitChar_eq tens]
    simp [zfill, signed, four, zero (n / 1000) (by omega), zero (n / 100) (by omega),
      List.replicate]
  have next := digitChar_eq (Nat.mod_lt (n / 10) (show 0 < 10 by decide))
  rw [Nat.toDigits_of_base_le (by decide) (by omega), next, same]
  by_cases hundreds : n / 10 / 10 < 10
  · rw [Nat.toDigits_of_lt_base hundreds, digitChar_eq hundreds]
    simp [zfill, signed, four, zero (n / 1000) (by omega), Nat.div_div_eq_div_mul]
  have third := digitChar_eq (Nat.mod_lt (n / 10 / 10) (show 0 < 10 by decide))
  have first : n / 10 / 10 / 10 < 10 := by omega
  rw [Nat.toDigits_of_base_le (by decide) (by omega), third, same,
    Nat.toDigits_of_lt_base first, digitChar_eq first]
  simp [zfill, signed, four, Nat.div_div_eq_div_mul]

/-- The text of a month of the calendar is that of its first day. -/
theorem monthText_eq {value : Int} (first : 12 ≤ value) (last : value < 120000) :
    ∃ date : Date, monthText value = date.text ∧ (date.year * 12 + date.month : Int) = value + 1 ∧
      date.day = 1 := by
  have length : 1 ≤ daysInMonth (value / 12).toNat (value % 12 + 1).toNat := by
    unfold daysInMonth monthLength
    split <;> (try split) <;> decide
  refine ⟨⟨(value / 12).toNat, (value % 12 + 1).toNat, 1, by omega, by omega, by omega, by omega,
    le_rfl, length⟩, ?_, ?_, rfl⟩
  · have year : format04 (value / 12) = four (value / 12).toNat := by
      have size : (value / 12).natAbs = (value / 12).toNat := by omega
      rw [format04, if_neg (by omega), size, zfill_toString (by omega)]
    have one : two 1 = ['0', '1'] := by decide
    rw [monthText, year, Date.text, one]
  · show (((value / 12).toNat : Int) * 12 + (value % 12 + 1).toNat : Int) = value + 1
    omega

theorem isDecimal_digit (n : Nat) : isDecimal (digit n) = true :=
  isDecimal_of_isDigit (isDigit_digit n)

theorem isBoundText_text (date : Date) : isBoundText date.text = true := by
  simp [isBoundText, shaped, Date.text, four, two, isDecimal_digit]

theorem isBoundText_hour (date : Date) (hours : Nat) :
    isBoundText (date.text ++ 'T' :: two hours) = true := by
  simp [isBoundText, shaped, Date.text, four, two, isDecimal_digit]

/-- The two digits of a month. -/
theorem two_month {month : Nat} (positive : 1 ≤ month) (below : month ≤ 12) :
    (∃ c : Char, two month = ['0', c] ∧ 49 ≤ c.toNat ∧ c.toNat < 58) ∨
      ∃ c, two month = ['1', c] ∧ oneOf "012" c = true := by
  by_cases early : month ≤ 9
  · refine .inl ⟨digit month, ?_, ?_, ?_⟩
    · have zero : digit (month / 10) = '0' := by
        rw [show month / 10 = 0 by omega]
        decide
      rw [two, zero]
    · rw [toNat_digit]
      omega
    · rw [toNat_digit]
      omega
  · refine .inr ⟨digit month, ?_, ?_⟩
    · have one : digit (month / 10) = '1' := by
        rw [show month / 10 = 1 by omega]
        decide
      rw [two, one]
    · interval_cases month <;> first | omega | decide

theorem isMonthText_text {date : Date} (day : date.day = 1) : isMonthText date.text = true := by
  have one : two 1 = ['0', '1'] := by decide
  rw [Date.text, day, one]
  rcases two_month date.month_pos date.month_le with ⟨c, text, least, most⟩ | ⟨c, text, member⟩
  · simp [isMonthText, shaped, four, text, isDecimal_digit, least, most]
  · simp [isMonthText, shaped, four, text, isDecimal_digit, member]

/-! ### A window put into a configuration -/

section Resolved

variable (config) (start stop : List Char)

theorem get_resolvedConfig_start :
    (resolvedConfig config (window start stop)).get "start" = .str (String.ofList start) := by
  simp only [resolvedConfig, window, Object.update, List.foldl]
  rw [Object.get_set_ne (by decide), Object.get_set_same]

theorem get_resolvedConfig_end :
    (resolvedConfig config (window start stop)).get "end" = .str (String.ofList stop) := by
  simp only [resolvedConfig, window, Object.update, List.foldl]
  rw [Object.get_set_same]

theorem get_resolvedConfig_mode :
    (resolvedConfig config (window start stop)).get "window_mode" = .str "fixed_window" := by
  simp only [resolvedConfig, window, Object.update, List.foldl]
  rw [Object.get_set_ne (by decide), Object.get_set_ne (by decide), Object.get_set_same]

theorem hasAny_resolvedConfig :
    (resolvedConfig config (window start stop)).hasAny rollingKeys = false := by
  refine List.any_eq_false.2 fun key member => ?_
  have other : key ≠ "window_mode" ∧ key ≠ "start" ∧ key ≠ "end" := by
    refine ⟨?_, ?_, ?_⟩ <;> rintro rfl <;> exact absurd member (by decide)
  simp only [resolvedConfig, window, Object.update, List.foldl, Object.has]
  rw [Object.lookup_set_ne other.2.2, Object.lookup_set_ne other.2.1,
    Object.lookup_set_ne other.1, Object.lookup_without_of_mem member]
  simp

variable {config start stop}

/-- **A configuration with a window put into it** is accepted when the two texts are bounds, and the
window between them is not too long. -/
theorem validateWindow_resolvedConfig {u : Unit} :
    validateWindow operation (resolvedConfig config (window start stop)) = .ok u ↔
      ∃ first last,
        windowBound operation (resolvedConfig config (window start stop)) "start" = .ok first ∧
        windowBound operation (resolvedConfig config (window start stop)) "end" = .ok last ∧
        lengthOk operation first last = true := by
  rw [validateWindow_fixed (get_resolvedConfig_mode config start stop), validateFixed_eq_ok,
    hasAny_resolvedConfig]
  simp only [true_and]

end Resolved

/-! ### Windows of months -/

theorem monthIndex_le (instant : Int) : monthIndex instant ≤ 120000 := by
  unfold monthIndex
  cases dateOf instant with
  | none => simp
  | some date =>
      have year := date.year_le
      have month := date.month_le
      simp only [Option.map_some, Option.getD_some]
      omega

theorem monthIndex_start (date : Date) :
    monthIndex date.start = (date.year * 12 + date.month : Int) := by
  rw [monthIndex, dateOf_start, Option.map_some, Option.getD_some]

/-- The bound that the text of a month of the calendar denotes. -/
theorem windowBound_month {key : String} {value : Int} (first : 12 ≤ value) (last : value < 120000)
    (held : config.get key = .str (String.ofList (monthText value))) :
    ∃ bound, windowBound operation config key = .ok bound ∧ monthIndex bound = value + 1 := by
  obtain ⟨date, text, month, day⟩ := monthText_eq first last
  refine ⟨date.start, windowBound_eq_ok.2 ⟨_, none, held, ?_, ?_, ?_⟩, ?_⟩
  · intro _
    rw [String.toList_ofList, text, isMonthText_text day]
  · rw [String.toList_ofList, text, isBoundText_text]
  · rw [String.toList_ofList, text, fromIsoFormat_text]
  · rw [monthIndex_start, month]

/-- The text of a month before the year 1 is no bound. -/
theorem windowBound_early {key : String} {value bound : Int} (early : value < 12)
    (held : config.get key = .str (String.ofList (monthText value))) :
    windowBound operation config key ≠ .ok bound := by
  intro ok
  obtain ⟨text, offset, same, -, shape, read⟩ := windowBound_eq_ok.1 ok
  rw [held, Json.str.injEq] at same
  subst same
  rw [String.toList_ofList] at shape read
  by_cases negative : value / 12 < 0
  · -- the year has a sign
    have sign : monthText value = '-' :: (zfill 3 (toString (value / 12).natAbs).toList ++
        '-' :: two (value % 12 + 1).toNat ++ ['-', '0', '1']) := by
      rw [monthText, format04, if_pos negative]
      rfl
    have dash : isDecimal '-' = false := by decide
    rw [sign] at shape
    simp [isBoundText, shaped, dash] at shape
  · -- the year is zero
    have none : ∀ month : Fin 12, fromIsoFormat (monthText month.val) = none := by decide
    have month := none ⟨value.toNat, by omega⟩
    rw [show ((value.toNat : Nat) : Int) = value by omega] at month
    rw [month] at read
    exact absurd read (by simp)

/-- **The months of a window.** The last one is complete, and the first one is not after it; it is
the first one of the lookback, or the one that the watermark and the overlap lead to. -/
theorem resolveMonths_eq {lookback overlap lag : Int} (months : Months config lookback overlap lag)
    (now : Int) (watermark : Option Int) :
    ∃ first last, resolveMonths config now watermark = window (monthText first) (monthText last) ∧
      last = monthIndex now - 2 - lag ∧ first ≤ last ∧ last - first < lookback ∧
      (watermark = none → first = last - lookback + 1) ∧
      (∀ mark ∈ watermark, first ≤ max (last - lookback + 1) (monthIndex mark - 1 - overlap)) ∧
      (12 ≤ first ↔ 12 ≤ last ∧ (12 ≤ last - lookback + 1 ∨
        ∃ mark ∈ watermark, 12 ≤ monthIndex mark - 1 - overlap)) := by
  have positive := months.lookback_pos
  have lookbackAt : intAt config "lookback_months" = lookback := by
    rw [intAt, months.lookback_eq]
    rfl
  have overlapAt : intAt config "overlap_months" = overlap := by
    rw [intAt, months.overlap_eq]
    rfl
  have lagAt : intAt config "ingestion_lag_months" = lag := by
    rw [intAt, months.lag_eq]
    rfl
  simp only [resolveMonths, lookbackAt, overlapAt, lagAt]
  cases watermark with
  | none =>
      refine ⟨_, _, rfl, rfl, ?_, ?_, ?_, ?_, ?_⟩
      · dsimp only
        omega
      · dsimp only
        omega
      · exact fun _ => rfl
      · simp
      · simp
        omega
  | some mark =>
      refine ⟨_, _, rfl, rfl, ?_, ?_, ?_, ?_, ?_⟩
      · dsimp only
        omega
      · dsimp only
        omega
      · simp
      · simp only [Option.mem_def, Option.some.injEq, forall_eq']
        omega
      · simp only [Option.mem_def, Option.some.injEq, exists_eq_left']
        omega

/-! ### Windows of days and hours -/

/-- The length of the hours or days that the window of an operation consists of. -/
def unitOf (operation : String) : Int :=
  if operation = "electricity_rto_region_data" then hour else dayLength

/-- The bound that the text of the day or of the hour of an instant denotes. -/
theorem windowBound_instant {key : String} {instant : Int}
    (seconds : operation ≠ "electricity_retail_sales") (inside : inRange instant = true)
    (held : config.get key = .str (String.ofList
      (if operation = "electricity_rto_region_data" then hourText instant else dayText instant))) :
    windowBound operation config key = .ok (instant / unitOf operation * unitOf operation) := by
  obtain ⟨date, found, start⟩ := dateOf_of_inRange inside
  have day : dayText instant = date.text := by
    rw [dayText, found, Option.map_some, Option.getD_some]
  refine windowBound_eq_ok.2 ⟨_, none, held, fun retail => absurd retail seconds, ?_, ?_⟩
  · rw [String.toList_ofList]
    by_cases hourly : operation = "electricity_rto_region_data"
    · rw [if_pos hourly, hourText, day, isBoundText_hour]
    · rw [if_neg hourly, day, isBoundText_text]
  · rw [String.toList_ofList]
    by_cases hourly : operation = "electricity_rto_region_data"
    · rw [if_pos hourly, fromIsoFormat_hourText inside, unitOf, if_pos hourly, truncateHour]
    · rw [if_neg hourly, fromIsoFormat_dayText inside, unitOf, if_neg hourly, truncateDay]

theorem checked_eq_ok {instant value : Int} :
    checked instant = .ok value ↔ inRange instant = true ∧ value = instant := by
  unfold checked
  by_cases inside : inRange instant = true
  · simp [inside, eq_comm]
  · simp [inside, raise]

section Seconds

variable {lookback overlap lag : Int} (settings : Seconds operation config lookback overlap lag)

include settings

theorem intAt_lookback : intAt config "lookback_seconds" = lookback := by
  rw [intAt, settings.lookback_eq]
  rfl

theorem intAt_overlap : intAt config "overlap_seconds" = overlap := by
  rw [intAt, settings.overlap_eq]
  rfl

theorem intAt_lag : intAt config "ingestion_lag_seconds" = lag := by
  rw [intAt, settings.lag_eq]
  rfl

/-- The start of the hour, and of the day where the window consists of days. -/
theorem floor_eq (seconds : operation ≠ "electricity_retail_sales") (instant : Int) :
    (if granularity config = "day" then truncateDay (truncateHour instant)
      else truncateHour instant) = instant / unitOf operation * unitOf operation := by
  have named : granularity config = expectedGranularity operation := by
    rw [granularity, settings.granularity_eq]
    rfl
  rw [named, expectedGranularity, if_neg seconds, unitOf]
  by_cases hourly : operation = "electricity_rto_region_data"
  · simp [hourly, truncateHour]
  · simp only [hourly, if_false, if_true, truncateHour, truncateDay, dayLength_eq, hour_eq]
    omega

theorem windowEnd_eq_ok (seconds : operation ≠ "electricity_retail_sales") {stop : Int} :
    windowEnd config now = .ok stop ↔ inRange (now - lag * second) = true ∧
      stop = (now - lag * second) / unitOf operation * unitOf operation := by
  simp only [windowEnd, intAt_lag settings, floor_eq settings seconds, bind_eq_ok, pure_eq_ok,
    checked_eq_ok]
  constructor
  · rintro ⟨_, ⟨inside, rfl⟩, rfl⟩
    exact ⟨inside, rfl⟩
  · rintro ⟨inside, rfl⟩
    exact ⟨_, ⟨inside, rfl⟩, rfl⟩

/-- The start of a window before it is rounded. -/
def earliest (lookback overlap stop : Int) (watermark : Option Int) : Int :=
  match watermark with
  | some mark => max (stop - lookback * second) (min (mark - overlap * second) (stop - hour))
  | none => stop - lookback * second

omit settings in
/-- The start of a window is between that of the lookback and the last hour. -/
theorem earliest_spec {stop : Int} (watermark : Option Int) (long : hour ≤ lookback * second) :
    stop - lookback * second ≤ earliest lookback overlap stop watermark ∧
      earliest lookback overlap stop watermark ≤ stop - hour ∧
      ∀ mark ∈ watermark, earliest lookback overlap stop watermark ≤
        max (stop - lookback * second) (mark - overlap * second) := by
  cases watermark with
  | none =>
      refine ⟨le_rfl, ?_, by simp⟩
      show stop - lookback * second ≤ stop - hour
      omega
  | some mark =>
      refine ⟨le_max_left .., max_le ?_ (min_le_right ..), ?_⟩
      · omega
      · intro other member
        obtain rfl := Option.some.inj member
        exact max_le_max le_rfl (min_le_left ..)

theorem windowStart_eq_ok (seconds : operation ≠ "electricity_retail_sales") {stop start : Int} :
    windowStart config stop watermark = .ok start ↔ inRange (stop - lookback * second) = true ∧
      (∀ mark ∈ watermark, inRange (mark - overlap * second) = true ∧
        inRange (stop - hour) = true) ∧
      start = earliest lookback overlap stop watermark / unitOf operation * unitOf operation := by
  simp only [windowStart, intAt_lookback settings, intAt_overlap settings,
    floor_eq settings seconds, bind_eq_ok, checked_eq_ok]
  cases watermark with
  | none =>
      simp only [bind_eq_ok, pure_eq_ok, earliest]
      constructor
      · rintro ⟨_, ⟨inside, rfl⟩, _, rfl, rfl⟩
        exact ⟨inside, by simp, rfl⟩
      · rintro ⟨inside, -, rfl⟩
        exact ⟨_, ⟨inside, rfl⟩, _, rfl, rfl⟩
  | some mark =>
      simp only [bind_eq_ok, pure_eq_ok, checked_eq_ok, earliest, Option.mem_def,
        Option.some.injEq, forall_eq']
      constructor
      · rintro ⟨_, ⟨inside, rfl⟩, _, ⟨marked, rfl⟩, _, ⟨before, rfl⟩, _, rfl, rfl⟩
        exact ⟨inside, ⟨marked, before⟩, rfl⟩
      · rintro ⟨inside, ⟨marked, before⟩, rfl⟩
        exact ⟨_, ⟨inside, rfl⟩, _, ⟨marked, rfl⟩, _, ⟨before, rfl⟩, _, rfl, rfl⟩

end Seconds

/-! ### What a window covers -/

/-- **A window in the calendar**: the months, or the instants, that it is computed from are not
before the first one of the year 1. -/
def InCalendar (operation : String) (config : Object) (now : Int) (watermark : Option Int) : Prop :=
  if operation = "electricity_retail_sales" then
    let last := monthIndex now - 2 - intAt config "ingestion_lag_months"
    12 ≤ last ∧ (12 ≤ last - intAt config "lookback_months" + 1 ∨
      ∃ mark ∈ watermark, 12 ≤ monthIndex mark - 1 - intAt config "overlap_months")
  else
    let last := now - intAt config "ingestion_lag_seconds" * second
    0 ≤ last ∧
      0 ≤ last / unitOf operation * unitOf operation - intAt config "lookback_seconds" * second ∧
      ∀ mark ∈ watermark, 0 ≤ mark - intAt config "overlap_seconds" * second

/-- **A window of months that leaves no gap.** Its last month is over before the lag, and its first
one is the first of the lookback, or not after the one that the watermark and the overlap name. -/
structure CoversMonths (config : Object) (now : Int) (watermark : Option Int) (start stop : Int) :
    Prop where
  complete : monthIndex stop + 1 ≤ monthIndex now - intAt config "ingestion_lag_months"
  forward : monthIndex start ≤ monthIndex stop
  bounded : monthIndex stop - monthIndex start + 1 ≤ 12
  whole : watermark = none →
    monthIndex stop - monthIndex start + 1 = intAt config "lookback_months"
  overlapping : ∀ mark ∈ watermark, monthIndex start ≤
    max (monthIndex stop - intAt config "lookback_months" + 1)
      (monthIndex mark - intAt config "overlap_months")
  gapless : ∀ mark ∈ watermark, ∀ month,
    monthIndex mark - intAt config "overlap_months" ≤ month →
      monthIndex stop - intAt config "lookback_months" < month → monthIndex start ≤ month

/-- **A window of days or hours that leaves no gap.** -/
structure CoversInstants (operation : String) (config : Object) (now : Int)
    (watermark : Option Int) (start stop : Int) : Prop where
  complete : stop ≤ now - intAt config "ingestion_lag_seconds" * second
  forward : start < stop
  bounded : stop - start ≤ windowCeiling operation * second
  overlapping : ∀ mark ∈ watermark, start ≤ max (stop - intAt config "lookback_seconds" * second)
    (mark - intAt config "overlap_seconds" * second)
  gapless : ∀ mark ∈ watermark, ∀ instant,
    mark - intAt config "overlap_seconds" * second ≤ instant →
      stop - intAt config "lookback_seconds" * second ≤ instant → start ≤ instant

/-- **A window that leaves no gap**, in the months or in the instants of its operation. -/
structure Covers (operation : String) (config : Object) (now : Int) (watermark : Option Int)
    (start stop : Int) : Prop where
  months : operation = "electricity_retail_sales" → CoversMonths config now watermark start stop
  instants : operation ≠ "electricity_retail_sales" →
    CoversInstants operation config now watermark start stop

/-- The window is read from the configuration it has been put into. -/
structure Bounded (operation : String) (config result : Object) (start stop : Int) : Prop where
  start_eq : windowBound operation (resolvedConfig config result) "start" = .ok start
  stop_eq : windowBound operation (resolvedConfig config result) "end" = .ok stop

section Retail

variable {lookback overlap lag : Int} (months : Months config lookback overlap lag)
  (retail : operation = "electricity_retail_sales")

include months

theorem intAt_months : intAt config "lookback_months" = lookback ∧
    intAt config "overlap_months" = overlap ∧ intAt config "ingestion_lag_months" = lag := by
  rw [intAt, months.lookback_eq, intAt, months.overlap_eq, intAt, months.lag_eq]
  exact ⟨rfl, rfl, rfl⟩

include retail

/-- A window of months in the calendar. -/
theorem months_of_inCalendar (calendar : InCalendar operation config now watermark) :
    ∃ start stop, Bounded operation config (resolveMonths config now watermark) start stop ∧
      lengthOk operation start stop = true ∧ CoversMonths config now watermark start stop := by
  obtain ⟨lookbackAt, overlapAt, lagAt⟩ := intAt_months months
  obtain ⟨first, last, window, lastEq, order, length, whole, covered, early⟩ :=
    resolveMonths_eq months now watermark
  have limit := monthIndex_le now
  have nonneg := months.lag_nonneg
  have most := months.lookback_le
  rw [InCalendar, if_pos retail] at calendar
  dsimp only at calendar
  rw [lookbackAt, overlapAt, lagAt, ← lastEq] at calendar
  have inside := early.2 calendar
  obtain ⟨start, startEq, startMonth⟩ := @windowBound_month operation _ _ _ inside
    (by omega) (get_resolvedConfig_start config (monthText first) (monthText last))
  obtain ⟨stop, stopEq, stopMonth⟩ := @windowBound_month operation _ _ _
    (inside.trans order) (by omega)
    (get_resolvedConfig_end config (monthText first) (monthText last))
  rw [window]
  refine ⟨start, stop, ⟨startEq, stopEq⟩, ?_, ?_, ?_, ?_, ?_, ?_, ?_⟩
  · rw [lengthOk, if_pos retail, Bool.and_eq_true, decide_eq_true_eq, decide_eq_true_eq]
    omega
  · rw [lagAt]
    omega
  · omega
  · omega
  · intro none
    rw [lookbackAt, startMonth, stopMonth, whole none]
    omega
  · intro mark member
    have later := covered mark member
    rw [lookbackAt, overlapAt, startMonth, stopMonth]
    omega
  · intro mark member month
    have later := covered mark member
    rw [lookbackAt, overlapAt, startMonth, stopMonth]
    omega

/-- An accepted window of months is in the calendar. -/
theorem inCalendar_of_months {u : Unit} (valid : validateWindow operation
      (resolvedConfig config (resolveMonths config now watermark)) = .ok u) :
    InCalendar operation config now watermark := by
  obtain ⟨lookbackAt, overlapAt, lagAt⟩ := intAt_months months
  obtain ⟨first, last, window, lastEq, -, -, -, -, early⟩ := resolveMonths_eq months now watermark
  rw [window, validateWindow_resolvedConfig] at valid
  obtain ⟨start, -, startEq, -⟩ := valid
  have inside : 12 ≤ first := by
    by_contra before
    exact windowBound_early (not_le.1 before)
      (get_resolvedConfig_start config (monthText first) (monthText last)) startEq
  rw [InCalendar, if_pos retail]
  dsimp only
  rw [lookbackAt, overlapAt, lagAt, ← lastEq]
  exact early.1 inside

end Retail

section Instants

variable {lookback overlap lag : Int} (settings : Seconds operation config lookback overlap lag)
  (seconds : operation ≠ "electricity_retail_sales")

include settings seconds

/-- What an operation's hours or days are bounded by. -/
theorem unit_spec : hour ≤ unitOf operation ∧ unitOf operation ≤ lookback * second ∧
    ∃ units, windowCeiling operation * second = units * unitOf operation := by
  have least := settings.lookback_ge
  by_cases hourly : operation = "electricity_rto_region_data"
  · subst hourly
    have floor : (3600 : Int) ≤ lookback := least
    refine ⟨by decide, ?_, 168, by decide⟩
    show 3600 * second ≤ lookback * second
    unfold second
    omega
  · have floor : (86400 : Int) ≤ lookback := by
      simpa [expectedGranularity, seconds, hourly, minimumLookback] using least
    rw [unitOf, if_neg hourly, windowCeiling, if_neg seconds, if_neg hourly]
    refine ⟨by decide, ?_, 31, by decide⟩
    show 86400 * second ≤ lookback * second
    unfold second
    omega

/-- A window of days or hours in the calendar. -/
theorem instants_of_inCalendar (clock : inRange now = true)
    (marked : ∀ mark ∈ watermark, inRange mark = true)
    (calendar : InCalendar operation config now watermark) :
    ∃ stop start, windowEnd config now = .ok stop ∧ windowStart config stop watermark = .ok start ∧
      inRange start = true ∧ inRange stop = true ∧
      start / unitOf operation * unitOf operation = start ∧
      stop / unitOf operation * unitOf operation = stop ∧
      CoversInstants operation config now watermark start stop := by
  obtain ⟨hours, short, count, ceiling⟩ := unit_spec settings seconds
  have positive : 0 < unitOf operation := by
    rw [hour_eq] at hours
    omega
  have lagNonneg : 0 ≤ lag * second := Int.mul_nonneg settings.lag_nonneg (by decide)
  have overlapNonneg : 0 ≤ overlap * second := Int.mul_nonneg settings.overlap_nonneg (by decide)
  have longest : lookback * second ≤ windowCeiling operation * second :=
    Int.mul_le_mul_of_nonneg_right settings.lookback_le (by decide)
  rw [InCalendar, if_neg seconds] at calendar
  dsimp only at calendar
  rw [intAt_lag settings, intAt_lookback settings, intAt_overlap settings] at calendar
  obtain ⟨lastNonneg, firstNonneg, marksNonneg⟩ := calendar
  rw [inRange_iff] at clock
  have lastInside : inRange (now - lag * second) = true := inRange_iff.2 ⟨lastNonneg, by omega⟩
  generalize stopEq : (now - lag * second) / unitOf operation * unitOf operation = stop at firstNonneg
  have complete : stop ≤ now - lag * second := stopEq ▸ Int.ediv_mul_le _ positive.ne'
  have spec := @earliest_spec lookback overlap stop watermark (hours.trans short)
  generalize firstEq : earliest lookback overlap stop watermark = first at spec
  obtain ⟨low, high, covered⟩ := spec
  have rounded : first / unitOf operation * unitOf operation ≤ first :=
    Int.ediv_mul_le _ positive.ne'
  have startNonneg : 0 ≤ first / unitOf operation * unitOf operation :=
    Int.mul_nonneg (Int.ediv_nonneg (by omega) positive.le) positive.le
  have longEnough : stop - windowCeiling operation * second ≤
      first / unitOf operation * unitOf operation := by
    -- the ceiling is a number of units, so that nothing is lost by rounding
    have whole : stop - windowCeiling operation * second =
        ((now - lag * second) / unitOf operation - count) * unitOf operation := by
      rw [← stopEq, ceiling, Int.sub_mul]
    rw [whole]
    refine Int.mul_le_mul_of_nonneg_right (Int.le_ediv_of_mul_le positive ?_) positive.le
    rw [← whole]
    omega
  rw [hour_eq] at high
  have stopInside : inRange stop = true := inRange_iff.2 ⟨by omega, by omega⟩
  have again : ∀ k : Int, k * unitOf operation / unitOf operation * unitOf operation =
      k * unitOf operation := by
    intro k
    rw [Int.mul_ediv_cancel _ positive.ne']
  refine ⟨stop, first / unitOf operation * unitOf operation, ?_, ?_, ?_, stopInside, again _, ?_,
    ?_, ?_, ?_, ?_, ?_⟩
  · exact (windowEnd_eq_ok settings seconds).2 ⟨lastInside, stopEq.symm⟩
  · refine (windowStart_eq_ok settings seconds).2
      ⟨inRange_iff.2 ⟨firstNonneg, by omega⟩, ?_, by rw [firstEq]⟩
    intro mark member
    have inside := inRange_iff.1 (marked mark member)
    have nonneg := marksNonneg mark member
    refine ⟨inRange_iff.2 ⟨nonneg, by omega⟩, inRange_iff.2 ⟨?_, ?_⟩⟩
    · omega
    · rw [hour_eq]
      omega
  · exact inRange_iff.2 ⟨startNonneg, by omega⟩
  · rw [← stopEq, again]
  · rw [intAt_lag settings]
    exact complete
  · omega
  · omega
  · intro mark member
    rw [intAt_lookback settings, intAt_overlap settings]
    exact rounded.trans (covered mark member)
  · intro mark member instant after inside
    rw [intAt_overlap settings] at after
    rw [intAt_lookback settings] at inside
    exact (rounded.trans (covered mark member)).trans (max_le inside after)

/-- A window of days or hours that was resolved is in the calendar. -/
theorem inCalendar_of_instants {stop start : Int} (last : windowEnd config now = .ok stop)
    (first : windowStart config stop watermark = .ok start) :
    InCalendar operation config now watermark := by
  obtain ⟨lastInside, rfl⟩ := (windowEnd_eq_ok settings seconds).1 last
  obtain ⟨firstInside, marks, -⟩ := (windowStart_eq_ok settings seconds).1 first
  rw [InCalendar, if_neg seconds]
  dsimp only
  rw [intAt_lag settings, intAt_lookback settings, intAt_overlap settings]
  exact ⟨(inRange_iff.1 lastInside).1, (inRange_iff.1 firstInside).1,
    fun mark member => (inRange_iff.1 (marks mark member).1).1⟩

end Instants

/-! ### Rolling windows -/

section Rolling

variable (rolling : config.get "window_mode" = .str "rolling_window")
  (accepted : validateWindow operation config = .ok ())

include rolling accepted

/-- What an accepted rolling window sets. -/
theorem settings_of_accepted : if operation = "electricity_retail_sales" then
      ∃ lookback overlap lag, Months config lookback overlap lag
    else ∃ lookback overlap lag, Seconds operation config lookback overlap lag := by
  refine settings_of_validateRolling (u := ()) ?_
  rw [← accepted, validateWindow, rolling]
  simp

theorem resolveWindow_months (retail : operation = "electricity_retail_sales") :
    resolveWindow operation config now watermark = .ok (resolveMonths config now watermark) := by
  rw [resolveWindow, accepted, rolling, if_neg (by decide), if_pos retail]
  rfl

theorem resolveWindow_eq_ok (seconds : operation ≠ "electricity_retail_sales") :
    resolveWindow operation config now watermark = .ok result ↔
      ∃ stop start, windowEnd config now = .ok stop ∧
        windowStart config stop watermark = .ok start ∧
        result = window
          (if operation = "electricity_rto_region_data" then hourText start else dayText start)
          (if operation = "electricity_rto_region_data" then hourText stop else dayText stop) := by
  have settings := settings_of_accepted rolling accepted
  rw [if_neg seconds] at settings
  obtain ⟨lookback, overlap, lag, settings⟩ := settings
  have named : granularity config = expectedGranularity operation := by
    rw [granularity, settings.granularity_eq]
    rfl
  rw [resolveWindow, accepted, rolling, if_neg (by decide), if_neg seconds, named,
    expectedGranularity, if_neg seconds]
  simp only [bind_eq_ok, pure_eq_ok, true_and, exists_const]
  refine exists_congr fun stop => ?_
  rw [← exists_and_left]
  refine exists_congr fun start => and_congr_right fun _ => and_congr_right fun _ => ?_
  by_cases hourly : operation = "electricity_rto_region_data"
  · simp [hourly, eq_comm]
  · simp [hourly, eq_comm]

/-- A window of days or hours in the calendar is resolved. -/
theorem resolved_of_inCalendar (seconds : operation ≠ "electricity_retail_sales")
    (clock : inRange now = true) (marked : ∀ mark ∈ watermark, inRange mark = true)
    (calendar : InCalendar operation config now watermark) :
    ∃ start stop result, resolveWindow operation config now watermark = .ok result ∧
      Bounded operation config result start stop ∧
      validateWindow operation (resolvedConfig config result) = .ok () ∧
      CoversInstants operation config now watermark start stop := by
  have settings := settings_of_accepted rolling accepted
  rw [if_neg seconds] at settings
  obtain ⟨lookback, overlap, lag, settings⟩ := settings
  obtain ⟨stop, start, last, first, startInside, stopInside, startWhole, stopWhole, covers⟩ :=
    instants_of_inCalendar settings seconds clock marked calendar
  have startBound := windowBound_instant seconds startInside (get_resolvedConfig_start config
    (if operation = "electricity_rto_region_data" then hourText start else dayText start)
    (if operation = "electricity_rto_region_data" then hourText stop else dayText stop))
  have stopBound := windowBound_instant seconds stopInside (get_resolvedConfig_end config
    (if operation = "electricity_rto_region_data" then hourText start else dayText start)
    (if operation = "electricity_rto_region_data" then hourText stop else dayText stop))
  rw [startWhole] at startBound
  rw [stopWhole] at stopBound
  have forward := covers.forward
  have bounded := covers.bounded
  have fits : lengthOk operation start stop = true := by
    rw [lengthOk, if_neg seconds, Bool.and_eq_true, decide_eq_true_eq, decide_eq_true_eq]
    omega
  exact ⟨start, stop, _,
    (resolveWindow_eq_ok rolling accepted seconds).2 ⟨stop, start, last, first, rfl⟩,
    ⟨startBound, stopBound⟩,
    validateWindow_resolvedConfig.2 ⟨start, stop, startBound, stopBound, fits⟩, covers⟩

end Rolling

/-- **Rolling windows leave no gap and never reverse.** An accepted rolling window is resolved to an
accepted fixed one exactly where what it is computed from is in the calendar; and every window so
accepted ends before the lag, is forward and within its ceiling, and starts no later than the
lookback or the watermark less the overlap. -/
theorem rolling_windows_cover (rolling : config.get "window_mode" = .str "rolling_window")
    (accepted : validateWindow operation config = .ok ()) (clock : inRange now = true)
    (marked : ∀ mark ∈ watermark, inRange mark = true) :
    ((∃ result, resolveWindow operation config now watermark = .ok result ∧
        validateWindow operation (resolvedConfig config result) = .ok ()) ↔
      InCalendar operation config now watermark) ∧
    ∀ result, resolveWindow operation config now watermark = .ok result →
      validateWindow operation (resolvedConfig config result) = .ok () →
      ∃ start stop, Bounded operation config result start stop ∧
        Covers operation config now watermark start stop := by
  have settings := settings_of_accepted rolling accepted
  by_cases retail : operation = "electricity_retail_sales"
  · rw [if_pos retail] at settings
    obtain ⟨lookback, overlap, lag, months⟩ := settings
    simp only [resolveWindow_months rolling accepted retail, Except.ok.injEq, exists_eq_left',
      forall_eq']
    refine ⟨⟨inCalendar_of_months months retail, fun calendar => ?_⟩, fun valid => ?_⟩
    · obtain ⟨start, stop, bounds, fits, -⟩ := months_of_inCalendar months retail calendar
      exact validateWindow_resolvedConfig.2 ⟨start, stop, bounds.start_eq, bounds.stop_eq, fits⟩
    · obtain ⟨start, stop, bounds, -, covers⟩ :=
        months_of_inCalendar months retail (inCalendar_of_months months retail valid)
      exact ⟨start, stop, bounds, fun _ => covers, fun seconds => absurd retail seconds⟩
  · rw [if_neg retail] at settings
    obtain ⟨lookback, overlap, lag, settings⟩ := settings
    have inCalendar : ∀ result, resolveWindow operation config now watermark = .ok result →
        InCalendar operation config now watermark := by
      intro result resolved
      obtain ⟨stop, start, last, first, -⟩ :=
        (resolveWindow_eq_ok rolling accepted retail).1 resolved
      exact inCalendar_of_instants settings retail last first
    refine ⟨⟨fun ⟨result, resolved, _⟩ => inCalendar result resolved, fun calendar => ?_⟩, ?_⟩
    · obtain ⟨start, stop, result, resolved, -, valid, -⟩ :=
        resolved_of_inCalendar rolling accepted retail clock marked calendar
      exact ⟨result, resolved, valid⟩
    · intro other resolved' _
      obtain ⟨start, stop, result, resolved, bounds, -, covers⟩ :=
        resolved_of_inCalendar rolling accepted retail clock marked (inCalendar other resolved')
      rw [resolved, Except.ok.injEq] at resolved'
      subst resolved'
      exact ⟨start, stop, bounds, fun monthly => absurd monthly retail, fun _ => covers⟩

/-- The monthly window of the last hours of February 2024, after a watermark in the future. -/
def retailConfig : Object :=
  [("window_mode", .str "rolling_window"), ("granularity", .str "month"),
    ("lookback_months", .int 3), ("overlap_months", .int 1), ("ingestion_lag_months", .int 0)]

theorem rolling_windows_cover_retail :
    InCalendar "electricity_retail_sales" retailConfig 63844850000000000 (some 63944850000000000) ∧
    ∃ start stop, Bounded "electricity_retail_sales" retailConfig
        (resolveMonths retailConfig 63844850000000000 (some 63944850000000000)) start stop ∧
      Covers "electricity_retail_sales" retailConfig 63844850000000000 (some 63944850000000000)
        start stop := by
  have holds := @rolling_windows_cover "electricity_retail_sales" retailConfig 63844850000000000
    (some 63944850000000000) (by decide) (by decide) (by decide) (by decide)
  have valid : validateWindow "electricity_retail_sales" (resolvedConfig retailConfig
      (resolveMonths retailConfig 63844850000000000 (some 63944850000000000))) = .ok () := by
    decide
  exact ⟨holds.1.1 ⟨_, by decide, valid⟩, holds.2 _ (by decide +kernel) valid⟩

/-- **In the first month of the calendar** the window of an accepted configuration is not accepted:
its months are of the year zero. -/
theorem window_before_the_calendar :
    retailConfig.get "window_mode" = .str "rolling_window" ∧
    validateWindow "electricity_retail_sales" retailConfig = .ok () ∧ inRange 0 = true ∧
    ∃ result, resolveWindow "electricity_retail_sales" retailConfig 0 none = .ok result ∧
      validateWindow "electricity_retail_sales" (resolvedConfig retailConfig result) =
        raise .valueError "breadth_window_invalid" := by
  refine ⟨by decide, by decide, by decide, ?_⟩
  exact ⟨resolveMonths retailConfig 0 none, by decide, by decide +kernel⟩

end NewsCollect.Providers
