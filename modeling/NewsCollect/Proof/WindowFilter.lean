/-
**The window filter and the calendar.**

The bounded adapters leave out the rows outside the window of their configuration, and the
references to history files that do not overlap it. They compare the texts of the bounds with those
of the rows. A bound is a date or an hour of a date, and spans all of it; a row of company news is
of the hour of its instant, a row of operating data of its hour, a filing of its date.

* `localTime`: what a timestamp writes.
* `HasBounds`: the bounds of an accepted fixed window.
* `finnhubRow_left`, `rtoRow_left`, `filingOf_left`, `secReference_left`: what is left out.
* `windows_agree`: what is left out lies outside the window, and the exceptions.
-/

import NewsCollect.Library.IsoDates
import NewsCollect.Proof.Windows
import NewsCollect.Providers.Breadth

namespace NewsCollect.Providers

open Calendar Text

variable {rules : RowRules} {provider operation : String} {settings config row : Object}
  {rows : Rows} {start stop : DateHour}

/-! ### Timestamps -/

/-- The local time a timestamp writes, and its offset from UTC. -/
def localTime (value : Json) : Option (Int × Int) :=
  let ofNumber (numerator : Int) (scale : Nat) : Option (Int × Int) :=
    let instant := timestampMicros numerator scale
    if inRange instant then some (instant, 0) else none
  match value with
  | .int seconds => ofNumber seconds 0
  | .float numerator scale => ofNumber numerator scale
  | .special .minusZero => ofNumber 0 0
  | .str text =>
      if text = "" then none
      else
        let zoned := replaceZ text.toList
        let whole := if zoned.length = 7 ∧ zoned[4]? = some '-' then zoned ++ ['-', '0', '1'] else zoned
        (fromIsoFormat whole).map fun (here, offset) => (here, offset.getD 0)
  | _ => none

/-- A timestamp is read as its local time, and written again. -/
theorem isoTimestamp_eq (value : Json) :
    isoTimestamp value = (localTime value).map fun time => String.ofList (isoFormat time.1 time.2) := by
  have ofNumber (numerator : Int) (scale : Nat) :
      (if inRange (timestampMicros numerator scale) then
        some (String.ofList (isoFormat (timestampMicros numerator scale) 0)) else none) =
      (if inRange (timestampMicros numerator scale) then
        some (timestampMicros numerator scale, (0 : Int)) else none).map fun time =>
          String.ofList (isoFormat time.1 time.2) := by
    split <;> rfl
  cases value with
  | int seconds => exact ofNumber seconds 0
  | float numerator scale => exact ofNumber numerator scale
  | special value =>
      cases value with
      | minusZero => exact ofNumber 0 0
      | _ => rfl
  | str text =>
      simp only [isoTimestamp, localTime]
      split
      · rfl
      · rw [Option.map_map]
        rfl
  | _ => rfl

/-- The local time is on a date of the calendar. -/
theorem date_of_localTime {value : Json} {here offset : Int}
    (read : localTime value = some (here, offset)) :
    ∃ date : Date, date.start ≤ here ∧ here < date.start + dayLength := by
  have ofNumber {numerator : Int} {scale : Nat}
      (read : (if inRange (timestampMicros numerator scale) then
        some (timestampMicros numerator scale, (0 : Int)) else none) = some (here, offset)) :
      ∃ date : Date, date.start ≤ here ∧ here < date.start + dayLength := by
    rw [Option.ite_none_right_eq_some] at read
    obtain ⟨inside, same⟩ := read
    obtain ⟨rfl, -⟩ := Prod.mk.inj (Option.some.inj same)
    obtain ⟨date, -, first⟩ := dateOf_of_inRange inside
    refine ⟨date, ?_⟩
    rw [first, truncateDay, dayLength_eq]
    omega
  unfold localTime at read
  dsimp only at read
  split at read
  · exact ofNumber read
  · exact ofNumber read
  · exact ofNumber read
  · split at read
    · cases read
    · obtain ⟨⟨here', offset'⟩, found, same⟩ := Option.map_eq_some_iff.1 read
      obtain ⟨rfl, -⟩ := Prod.mk.inj same
      exact fromIsoFormat_cases found
  · cases read

/-- The first ten characters of a timestamp are its own date. -/
theorem take_isoFormat {date : Date} {here : Int} (offset : Int) (from_start : date.start ≤ here)
    (before_end : here < date.start + dayLength) :
    (isoFormat here offset).take 10 = date.text := by
  rw [isoFormat, dayText, dateOf_of_mem from_start before_end, Option.map_some, Option.getD_some,
    List.append_assoc]
  exact List.take_left' date.length_text

/-! ### The bounds -/

/-- The bounds of a fixed window. -/
structure HasBounds (config : Object) (start stop : DateHour) : Prop where
  start_eq : config.get "start" = .str (String.ofList start.text)
  stop_eq : config.get "end" = .str (String.ofList stop.text)
  order : start.first < stop.first

/-- A bound is a date, or an hour of a date. -/
theorem dateHour_of_bound {text : String} {bound : Int} {offset : Option Int}
    (shape : isBoundText text.toList = true)
    (read : fromIsoFormat text.toList = some (bound, offset)) :
    ∃ moment : DateHour, text = String.ofList moment.text ∧ moment.first = bound := by
  have plain : ∀ c : Char, isDecimal c = true → c ≠ '+' ∧ c ≠ '-' ∧ c ≠ 'Z' := by
    intro c digit
    refine ⟨?_, ?_, ?_⟩ <;> rintro rfl <;> exact absurd digit (by decide)
  have split : ∃ front back, text.toList = front ++ back ∧ front.length = 10 ∧
      front[4]? = some '-' ∧ front[5]? ≠ some 'W' ∧
      (back = [] ∨ ∃ first last, back = ['T', first, last] ∧
        ∀ c ∈ [first, last], c ≠ '+' ∧ c ≠ '-' ∧ c ≠ 'Z') := by
    rw [isBoundText, Bool.or_eq_true] at shape
    simp only [shaped_cons, shaped_nil, beq_iff_eq] at shape
    rcases shape with
      ⟨y₁, _, same, -, y₂, _, rfl, -, y₃, _, rfl, -, y₄, _, rfl, -, _, _, rfl, rfl, m₁, _, rfl,
        month, m₂, _, rfl, -, _, _, rfl, rfl, d₁, _, rfl, -, d₂, _, rfl, -, rfl⟩ |
      ⟨y₁, _, same, -, y₂, _, rfl, -, y₃, _, rfl, -, y₄, _, rfl, -, _, _, rfl, rfl, m₁, _, rfl,
        month, m₂, _, rfl, -, _, _, rfl, rfl, d₁, _, rfl, -, d₂, _, rfl, -, _, _, rfl, rfl,
        first, _, rfl, tens, last, _, rfl, ones, rfl⟩
    · refine ⟨[y₁, y₂, y₃, y₄, '-', m₁, m₂, '-', d₁, d₂], [], same, rfl, rfl, ?_, .inl rfl⟩
      rintro week
      obtain rfl := Option.some.inj week
      exact absurd month (by decide)
    · refine ⟨[y₁, y₂, y₃, y₄, '-', m₁, m₂, '-', d₁, d₂], ['T', first, last], same, rfl, rfl, ?_,
        .inr ⟨first, last, rfl, ?_⟩⟩
      · rintro week
        obtain rfl := Option.some.inj week
        exact absurd month (by decide)
      · exact List.forall_mem_cons.2 ⟨plain first tens, List.forall_mem_singleton.2 (plain last ones)⟩
  obtain ⟨front, back, same, ten, dash, other, tail⟩ := split
  rw [same] at read
  obtain ⟨moment, written, first, -⟩ := DateHour.exists_of_text ten dash other tail read
  refine ⟨moment, ?_, first⟩
  rw [← written, ← same, String.ofList_toList]

theorem HasBounds.strAt_start (bounded : HasBounds config start stop) :
    strAt config "start" = String.ofList start.text := by
  rw [strAt, bounded.start_eq, Json.str?, Option.getD_some]

theorem HasBounds.strAt_stop (bounded : HasBounds config start stop) :
    strAt config "end" = String.ofList stop.text := by
  rw [strAt, bounded.stop_eq, Json.str?, Option.getD_some]

/-- An accepted fixed window has two bounds, in order. -/
theorem bounded_of_accepted (accepted : breadthConfig provider operation settings = .ok config)
    (fixed : (settings.get "window_mode").eq (.str "fixed_window") = true)
    (daily : operation ≠ "electricity_retail_sales") :
    ∃ start stop, HasBounds config start stop := by
  obtain ⟨keys, -, -, window, -, rfl⟩ := breadthConfig_eq_ok.1 accepted
  rw [validateWindow, if_pos fixed] at window
  obtain ⟨-, first, last, started, stopped, length⟩ := validateFixed_eq_ok.1 window
  obtain ⟨startText, _, startAt, -, shape, read⟩ := windowBound_eq_ok.1 started
  obtain ⟨stopText, _, stopAt, -, shape', read'⟩ := windowBound_eq_ok.1 stopped
  obtain ⟨start, rfl, rfl⟩ := dateHour_of_bound shape read
  obtain ⟨stop, rfl, rfl⟩ := dateHour_of_bound shape' read'
  have kept : ∀ key, key ≠ "cik" → key ≠ "max_history_files" →
      (normalized provider settings).get key = settings.get key := by
    intro key other other'
    unfold normalized
    split
    · rw [Object.get_set_ne other', Object.get_set_ne other]
    · rfl
  rw [lengthOk, if_neg daily, Bool.and_eq_true, decide_eq_true_eq] at length
  refine ⟨start, stop, ⟨?_, ?_, by omega⟩⟩
  · rw [kept "start" (by decide) (by decide), startAt]
  · rw [kept "end" (by decide) (by decide), stopAt]

/-! ### The order of the texts -/

theorem ofList_le_iff {left right : List Char} :
    String.ofList left ≤ String.ofList right ↔ ¬right < left := by
  rw [← String.not_lt]
  change ¬(String.ofList right).toList < (String.ofList left).toList ↔ _
  rw [String.toList_ofList, String.toList_ofList]

/-- A date follows a bound with an hour of that date no more than one of a later date. -/
theorem start_le_date {date : Date} :
    String.ofList start.text ≤ String.ofList date.text ↔
      start.date.days < date.days ∨ start.date.days = date.days ∧ start.hours = none := by
  rw [ofList_le_iff, ← DateHour.text_ofDate, DateHour.text_lt_iff]
  cases start.hours with
  | none =>
      simp only [Option.mem_def, reduceCtorEq, false_and, exists_false, and_false, or_false,
        and_true]
      omega
  | some clock =>
      have later : ∃ held ∈ some clock, ∀ earlier ∈ (none : Option Nat), earlier < held :=
        ⟨clock, rfl, fun _ none => by cases none⟩
      simp only [later, and_true, reduceCtorEq, and_false, or_false]
      omega

theorem date_le_stop {date : Date} :
    String.ofList date.text ≤ String.ofList stop.text ↔ date.days ≤ stop.date.days := by
  rw [ofList_le_iff, ← DateHour.text_ofDate, DateHour.text_lt_iff]
  simp

/-- An hour follows every bound that begins no later. -/
theorem start_le_hour {moment : DateHour} (hourly : moment.hours.isSome = true) :
    String.ofList start.text ≤ String.ofList moment.text ↔ start.first ≤ moment.first := by
  obtain ⟨clock, held⟩ := Option.isSome_iff_exists.1 hourly
  have below := start.clock_lt
  have below' := moment.clock_lt
  rw [ofList_le_iff, DateHour.text_lt_iff, DateHour.first, DateHour.first, Date.start, Date.start,
    dayLength_eq, hour_eq]
  rw [held, Option.getD_some] at below' ⊢
  cases held' : start.hours with
  | none =>
      simp only [Option.mem_def, reduceCtorEq, false_and, exists_false, and_false, or_false,
        Option.getD_none]
      omega
  | some clock' =>
      rw [held', Option.getD_some] at below
      simp only [Option.mem_def, Option.some.injEq, exists_eq_left', forall_eq', Option.getD_some]
      omega

/-- An hour comes before the bounds that do not begin earlier, but not before its own date. -/
theorem hour_le_stop {moment : DateHour} (hourly : moment.hours.isSome = true) :
    String.ofList moment.text ≤ String.ofList stop.text ↔
      moment.first < stop.after ∧ ¬(stop.hours = none ∧ moment.date = stop.date) := by
  obtain ⟨clock, held⟩ := Option.isSome_iff_exists.1 hourly
  have below := moment.clock_lt
  have below' := stop.clock_lt
  rw [ofList_le_iff, DateHour.text_lt_iff, DateHour.after, DateHour.first, DateHour.first,
    Date.start, Date.start, dayLength_eq, hour_eq]
  rw [held, Option.getD_some] at below ⊢
  cases held' : stop.hours with
  | none =>
      have later : ∃ held ∈ some clock, ∀ earlier ∈ (none : Option Nat), earlier < held :=
        ⟨clock, rfl, fun _ none => by cases none⟩
      simp only [later, and_true, Option.getD_none, Option.isSome_none, true_and,
        Bool.false_eq_true, if_false]
      by_cases same : moment.date = stop.date
      · simp [same]
      · have apart : moment.date.days ≠ stop.date.days := mt Date.days_injective same
        simp only [same, not_false_eq_true, and_true]
        omega
  | some clock' =>
      rw [held', Option.getD_some] at below'
      simp only [Option.mem_def, Option.some.injEq, exists_eq_left', forall_eq', Option.getD_some,
        Option.isSome_some, reduceCtorEq, false_and, not_false_eq_true, and_true, if_true]
      omega

/-! ### Company news -/

theorem keep_ne (payload : Object) : rows.keep payload ≠ rows := by
  intro same
  have longer := congrArg (fun read => read.payloads.length) same
  simp [Rows.keep] at longer

theorem reject_ne (hash : String) : rows.reject hash ≠ rows := by
  intro same
  have longer := congrArg (fun read => read.rejected.length) same
  simp [Rows.reject] at longer

theorem rejectNews_ne {identity : String} : rejectNews rules rows identity ≠ .ok rows := by
  intro rejected
  obtain ⟨hash, -, same⟩ := bind_eq_ok.1 rejected
  exact reject_ne hash (pure_eq_ok.1 same)

/-- A row of company news that has an identity of its own, or a canonical address. -/
def Identified (rules : RowRules) (row : Object) : Prop :=
  ∃ url, rules.canonicalUrl (row.get "url") = .ok url ∧
    invalidIdentity (row.get "id") = false ∧ (isNull (row.get "id") && url.isNone) = false

/-- A dated row is left out without a trace for its own date only. -/
theorem finnhubRow_left {published : String}
    (dated : isoTimestamp (row.get "datetime") = some published) :
    finnhubRow rules config rows (.obj row) = .ok rows ↔
      Identified rules row ∧
        ¬(strAt config "start" ≤ String.ofList (published.toList.take 10) ∧
          String.ofList (published.toList.take 10) ≤ strAt config "end") := by
  have left (url : Option String) (identity : String) :
      newsPayload rules config row rows url identity = .ok rows ↔
        ¬(strAt config "start" ≤ String.ofList (published.toList.take 10) ∧
          String.ofList (published.toList.take 10) ≤ strAt config "end") := by
    rw [newsPayload, dated]
    dsimp only
    split
    · next inside => simp [inside, keep_ne]
    · next outside => simp [outside]
  unfold finnhubRow
  dsimp only
  cases addressed : rules.canonicalUrl (row.get "url") with
  | error raised =>
      refine iff_of_false ?_ (fun ⟨⟨_, found, _⟩, _⟩ => by simp [addressed] at found)
      dsimp only
      split
      · exact rejectNews_ne
      · simp
  | ok url =>
      dsimp only
      rw [addressedNews]
      split
      · next invalid =>
        refine iff_of_false ?_ (fun ⟨⟨_, _, valid, _⟩, _⟩ => by simp [invalid] at valid)
        rw [check_eq_ok]
        exact fun ⟨_, rejected⟩ => rejectNews_ne rejected
      · next valid =>
        rw [check_eq_ok, require_eq_ok, left, Bool.not_eq_true']
        refine and_congr_left' ⟨fun traced => ?_, ?_⟩
        · exact ⟨url, addressed, Bool.not_eq_true _ ▸ valid, traced⟩
        · rintro ⟨other, found, -, traced⟩
          obtain rfl := Except.ok.inj (addressed.symm.trans found)
          exact traced

/-- The days whose dates follow the start and do not follow the end. -/
def takenDays (start stop : DateHour) : Span :=
  ⟨start.date.start + (if start.hours.isSome then dayLength else 0), stop.date.start + dayLength⟩

theorem has_takenDays {date : Date} {here : Int} (from_start : date.start ≤ here)
    (before_end : here < date.start + dayLength) :
    (takenDays start stop).Has here ↔
      (start.date.days < date.days ∨ start.date.days = date.days ∧ start.hours = none) ∧
        date.days ≤ stop.date.days := by
  rw [Date.start, dayLength_eq] at from_start before_end
  rw [takenDays, Span.Has, Date.start, Date.start, dayLength_eq]
  cases start.hours with
  | none =>
      simp only [Option.isSome_none, Bool.false_eq_true, if_false, and_true]
      omega
  | some clock =>
      simp only [Option.isSome_some, if_true, reduceCtorEq, and_false, or_false]
      omega

/-- A row of company news is left out by the date it writes, whatever its offset. -/
theorem news_agrees (bounded : HasBounds config start stop) {here offset : Int}
    (read : localTime (row.get "datetime") = some (here, offset)) :
    (finnhubRow rules config rows (.obj row) = .ok rows →
        ¬(hourSpan (here - offset)).Meets (start.spanTo stop)) ↔
      (Identified rules row → (hourSpan (here - offset)).Meets (start.spanTo stop) →
        (takenDays start stop).Has here) := by
  obtain ⟨date, from_start, before_end⟩ := date_of_localTime read
  have dated : isoTimestamp (row.get "datetime") =
      some (String.ofList (isoFormat here offset)) := by
    rw [isoTimestamp_eq, read, Option.map_some]
  rw [finnhubRow_left dated, String.toList_ofList, take_isoFormat offset from_start before_end,
    bounded.strAt_start, bounded.strAt_stop, start_le_date, date_le_stop,
    ← has_takenDays from_start before_end]
  tauto

/-! ### Operating data -/

/-- A row of a region and a metric of the configuration, and of this hour. -/
structure RtoRow (config row : Object) (region metric : String) (moment : DateHour) : Prop where
  respondent : row.get "respondent" = .str region
  type : row.get "type" = .str metric
  requested : ((stringsAt config "regions").contains region &&
    (stringsAt config "types").contains metric) = true
  hourly : moment.hours.isSome = true
  period : row.get "period" = .str (String.ofList moment.text)

variable {region metric : String} {moment : DateHour}

theorem isHourPeriod_text {moment : DateHour} (hourly : moment.hours.isSome = true) :
    isRtoText moment.text = true ∧ isHourPeriod moment.text = true := by
  obtain ⟨clock, held⟩ := Option.isSome_iff_exists.1 hourly
  have digit : ∀ n, isDecimal (digit n) = true := fun n => isDecimal_of_isDigit (isDigit_digit n)
  rw [DateHour.text, held]
  constructor
  · simp [DateHour.mark, Date.text, four, two, isRtoText, bounded]
    decide
  · simp [DateHour.mark, Date.text, four, two, isHourPeriod, shaped, digit]

/-- A row of an hour is left out for that hour only. -/
theorem rtoRow_left (asked : RtoRow config row region metric moment) :
    eiaRow rules "electricity_rto_region_data" config rows (.obj row) = .ok rows ↔
      (isRtoText region.toList && isRtoText metric.toList) = true ∧
        ¬(strAt config "start" ≤ String.ofList moment.text ∧
          String.ofList moment.text ≤ strAt config "end") := by
  obtain ⟨shape, pattern⟩ := isHourPeriod_text asked.hourly
  rw [← String.toList_ofList (l := moment.text)] at shape pattern
  simp only [eiaRow, if_neg (show "electricity_rto_region_data" ≠ "electricity_retail_sales" by decide),
    rtoRow, asked.respondent, asked.type, asked.period, shape, asked.requested, pattern,
    Bool.and_true, Bool.not_true, Bool.false_eq_true, if_false]
  split
  · next untraceable =>
    rw [Bool.not_eq_true'] at untraceable
    exact iff_of_false (fun left => nomatch left) fun traced => by simp [untraceable] at traced
  · next traceable =>
    rw [Bool.not_eq_true', Bool.not_eq_false] at traceable
    rw [and_iff_right traceable]
    split
    · next outside =>
      rw [Bool.not_eq_true', ← Bool.not_eq_true, Bool.and_eq_true, decide_eq_true_eq,
        decide_eq_true_eq] at outside
      exact iff_of_true rfl outside
    · next inside =>
      rw [Bool.not_eq_true', Bool.not_eq_false, Bool.and_eq_true, decide_eq_true_eq,
        decide_eq_true_eq] at inside
      refine iff_of_false ?_ (not_not_intro inside)
      rw [bind_eq_ok]
      rintro ⟨series, -, kept⟩
      exact keep_ne _ (pure_eq_ok.1 kept)

/-- A row of operating data is left out inside the window in the hours of a date at its end. -/
theorem rto_agrees (bounded : HasBounds config start stop)
    (asked : RtoRow config row region metric moment) :
    (eiaRow rules "electricity_rto_region_data" config rows (.obj row) = .ok rows →
        ¬(moment.spanTo moment).Meets (start.spanTo stop)) ↔
      ((isRtoText region.toList && isRtoText metric.toList) = true →
        ¬(stop.hours = none ∧ moment.date = stop.date)) := by
  have hourly := asked.hourly
  rw [rtoRow_left asked, bounded.strAt_start, bounded.strAt_stop,
    start_le_hour hourly, hour_le_stop hourly, Span.Meets, DateHour.spanTo, DateHour.spanTo]
  have aligned : start.first ≤ moment.first ↔ start.first < moment.after := by
    rw [DateHour.after, if_pos hourly, DateHour.first, DateHour.first, Date.start, Date.start,
      dayLength_eq, hour_eq]
    omega
  -- an hour of the date that is the end is in the window
  have within : stop.hours = none ∧ moment.date = stop.date →
      start.first ≤ moment.first ∧ moment.first < stop.after := by
    rintro ⟨daily, same⟩
    have order := bounded.order
    have below := moment.clock_lt
    have midnight : stop.first = moment.date.start := by
      rw [DateHour.first, daily, same]
      simp
    have evening : stop.after = moment.date.start + dayLength := by
      rw [DateHour.after, daily, midnight]
      rfl
    have here : moment.first = moment.date.start + moment.hours.getD 0 * hour := rfl
    rw [midnight] at order
    rw [evening, here, dayLength_eq, hour_eq]
    omega
  dsimp only
  rw [← aligned]
  constructor
  · intro outside traceable bad
    exact outside ⟨traceable, fun taken => taken.2.2 bad⟩ ⟨(within bad).2, (within bad).1⟩
  · intro good left inside
    exact left.2 ⟨inside.2, inside.1, good left.1⟩

/-! ### Filings -/

/-- The text of a date comes before that of the start, though the date does not: the start names an
hour of the date, or the text is in another format and begins with an earlier year. -/
def EarlyText (start : DateHour) (text : String) (date : Date) : Prop :=
  if text.toList = date.text then start.hours.isSome = true ∧ date = start.date
  else writtenYear text.toList < start.date.year

/-- The text of a date is in another format, and begins with the year of the end or a later one. -/
def LateText (stop : DateHour) (text : String) (date : Date) : Prop :=
  text.toList ≠ date.text ∧ stop.date.year ≤ writtenYear text.toList

variable {text : String} {date : Date}

theorem start_le_written (read : isoDate text.toList = some date)
    (on : start.date.days ≤ date.days) :
    String.ofList start.text ≤ text ↔ ¬EarlyText start text date := by
  rw [EarlyText]
  split
  · next calendar =>
    rw [← String.ofList_toList (s := text), calendar, start_le_date]
    constructor
    · rintro (before | ⟨-, daily⟩) ⟨hourly, same⟩
      · rw [same] at before
        exact lt_irrefl _ before
      · rw [daily] at hourly
        exact absurd hourly (by decide)
    · intro apart
      by_cases same : date = start.date
      · refine .inr ⟨by rw [same], ?_⟩
        rw [← Option.not_isSome_iff_eq_none]
        exact fun hourly => apart ⟨hourly, same⟩
      · refine .inl (lt_of_le_of_ne on fun level => same ?_)
        exact (Date.days_injective level).symm
  · next other =>
    conv_lhs => rw [← String.ofList_toList (s := text)]
    rw [ofList_le_iff, written_lt read other]

theorem written_le_stop (read : isoDate text.toList = some date)
    (on : date.days ≤ stop.date.days) :
    text ≤ String.ofList stop.text ↔ ¬LateText stop text date := by
  conv_lhs => rw [← String.ofList_toList (s := text)]
  rw [LateText]
  by_cases calendar : text.toList = date.text
  · rw [calendar, date_le_stop]
    exact iff_of_true on fun late => late.1 rfl
  · rw [ofList_le_iff, lt_written read calendar]
    exact not_congr (and_iff_right calendar).symm

/-- Dates meet the window when they are between those of its bounds. -/
theorem spanTo_meets {first last : Date} :
    (first.spanTo last).Meets (start.spanTo stop) ↔
      first.days ≤ stop.date.days ∧ start.date.days ≤ last.days := by
  have below := start.clock_lt
  have below' := stop.clock_lt
  -- the end of the window is on the date of its last bound, or the midnight after it
  have evening : stop.date.start < stop.after ∧ stop.after ≤ stop.date.start + dayLength := by
    rw [DateHour.after, DateHour.first, dayLength_eq, hour_eq]
    cases held : stop.hours with
    | none => simp
    | some clock =>
        rw [held, Option.getD_some] at below'
        simp only [Option.getD_some, Option.isSome_some, if_true]
        omega
  rw [Date.start, dayLength_eq] at evening
  rw [Span.Meets, Date.spanTo, DateHour.spanTo, DateHour.first, Date.start, Date.start, Date.start,
    dayLength_eq, hour_eq]
  dsimp only
  omega

/-- A row of a filing of this date, and of a form of the configuration where it has one. -/
structure FilingRow (config row : Object) (written : String) (date : Date) : Prop where
  filed : row.get "filingDate" = .str written
  dated : isoDate written.toList = some date
  listed : (isShaped isForm (row.get "form") &&
    !(((config.get "forms").arr?).getD []).any (row.get "form").eq) = false

theorem filingOf_left (filing : FilingRow config row text date) :
    filingOf config row = .ok none ↔
      isShaped isAccession (row.get "accessionNumber") = true ∧
        ¬(strAt config "start" ≤ text ∧ text ≤ strAt config "end") := by
  have found : filingDate row = some text := by
    rw [filingDate, filing.filed]
    exact if_pos (Option.isSome_iff_exists.2 ⟨date, filing.dated⟩)
  rw [filingOf, found, outsideWindow, filing.listed]
  cases row.get "accessionNumber" with
  | str accession =>
      dsimp only [isShaped]
      split
      · next invalid =>
        rw [Bool.not_eq_true'] at invalid
        exact iff_of_false (fun left => nomatch left) fun traced => by simp [invalid] at traced
      · next valid =>
        rw [Bool.not_eq_true', Bool.not_eq_false] at valid
        rw [and_iff_right valid]
        split
        · next outside =>
          rw [Bool.not_eq_true', ← Bool.not_eq_true, Bool.and_eq_true, decide_eq_true_eq,
            decide_eq_true_eq] at outside
          exact iff_of_true rfl outside
        · next inside =>
          rw [Bool.not_eq_true', Bool.not_eq_false, Bool.and_eq_true, decide_eq_true_eq,
            decide_eq_true_eq] at inside
          exact iff_of_false (fun left => by simp at left) (not_not_intro inside)
  | _ => exact iff_of_false (fun left => nomatch left) fun traced => nomatch traced.1

/-- A filing is left out inside the window for the way its date is written. -/
theorem filings_agree (bounded : HasBounds config start stop)
    (filing : FilingRow config row text date) :
    (filingOf config row = .ok none → ¬(date.spanTo date).Meets (start.spanTo stop)) ↔
      (isShaped isAccession (row.get "accessionNumber") = true →
        (date.spanTo date).Meets (start.spanTo stop) →
        ¬EarlyText start text date ∧ ¬LateText stop text date) := by
  rw [filingOf_left filing, bounded.strAt_start, bounded.strAt_stop, spanTo_meets]
  constructor
  · intro agrees traced inside
    have kept := not_imp_not.1 (fun outside => agrees ⟨traced, outside⟩) inside
    exact ⟨(start_le_written filing.dated inside.2).1 kept.1,
      (written_le_stop filing.dated inside.1).1 kept.2⟩
  · intro written left inside
    obtain ⟨early, late⟩ := written left.1 inside
    exact left.2 ⟨(start_le_written filing.dated inside.2).2 early,
      (written_le_stop filing.dated inside.1).2 late⟩

/-! ### References to history files -/

/-- A reference with two dates. -/
structure DatedReference (reference : Object) (earliest latest : String) (first last : Date) :
    Prop where
  filingFrom : reference.get "filingFrom" = .str earliest
  filingTo : reference.get "filingTo" = .str latest
  dated_from : isoDate earliest.toList = some first
  dated_to : isoDate latest.toList = some last

/-- A reference to a file of the filer, with its dates in order. -/
def Acceptable (config reference : Object) (first last : Date) : Prop :=
  ["name", "filingFrom", "filingTo"].all (Object.has reference) = true ∧
    (∃ name, secFile (strAt config "cik") (reference.get "name") = .ok name) ∧
    first.days ≤ last.days

variable {files : List String} {reference : Object} {earliest latest : String} {first last : Date}

theorem secReference_left (dated : DatedReference reference earliest latest first last) :
    secReference config files (.obj reference) = .ok files ↔
      Acceptable config reference first last ∧
        ¬(strAt config "start" ≤ latest ∧ earliest ≤ strAt config "end") := by
  have longer (name : String) : files ++ [name] ≠ files := by
    intro same
    have length := congrArg List.length same
    simp at length
  rw [secReference]
  simp only [bind_eq_ok, exists_const, require_eq_ok, dated.filingFrom, dated.filingTo,
    dated.dated_from, dated.dated_to, decide_eq_true_eq, pure_eq_ok, Acceptable, and_assoc]
  refine and_congr_right fun _ => ?_
  rw [← exists_and_right]
  refine exists_congr fun name => and_congr_right fun _ => and_congr_right fun _ => ?_
  split
  · next overlaps => exact iff_of_false (longer name) (not_not_intro overlaps)
  · next apart => exact iff_of_true rfl apart

/-- A reference that overlaps the window is left out for the way its dates are written. -/
theorem references_agree (bounded : HasBounds config start stop)
    (dated : DatedReference reference earliest latest first last) :
    (secReference config files (.obj reference) = .ok files →
        ¬(first.spanTo last).Meets (start.spanTo stop)) ↔
      (Acceptable config reference first last →
        (first.spanTo last).Meets (start.spanTo stop) →
        ¬EarlyText start latest last ∧ ¬LateText stop earliest first) := by
  rw [secReference_left dated, bounded.strAt_start, bounded.strAt_stop, spanTo_meets]
  constructor
  · intro agrees traced inside
    have kept := not_imp_not.1 (fun outside => agrees ⟨traced, outside⟩) inside
    exact ⟨(start_le_written dated.dated_to inside.2).1 kept.1,
      (written_le_stop dated.dated_from inside.1).1 kept.2⟩
  · intro written left inside
    obtain ⟨early, late⟩ := written left.1 inside
    exact left.2 ⟨(start_le_written dated.dated_to inside.2).2 early,
      (written_le_stop dated.dated_from inside.1).2 late⟩

/-! ### The window filter -/

/-- **What is left out lies outside the window**, both bounds included, except: company news that
write another date than those between the bounds, or the date of a start with an hour; the hours of
a date that is the end of operating data; and dates of filings and of references that are those of a
start with an hour, or are not written in the calendar format in the years of the window. -/
theorem windows_agree (accepted : breadthConfig provider operation settings = .ok config)
    (fixed : (settings.get "window_mode").eq (.str "fixed_window") = true)
    (daily : operation ≠ "electricity_retail_sales") :
    ∃ start stop, HasBounds config start stop ∧
      (∀ (rules : RowRules) (rows : Rows) (row : Object) (here offset : Int),
        localTime (row.get "datetime") = some (here, offset) →
        ((finnhubRow rules config rows (.obj row) = .ok rows →
            ¬(hourSpan (here - offset)).Meets (start.spanTo stop)) ↔
          (Identified rules row → (hourSpan (here - offset)).Meets (start.spanTo stop) →
            (takenDays start stop).Has here))) ∧
      (∀ (rules : RowRules) (rows : Rows) (row : Object) (region metric : String)
          (moment : DateHour), RtoRow config row region metric moment →
        ((eiaRow rules "electricity_rto_region_data" config rows (.obj row) = .ok rows →
            ¬(moment.spanTo moment).Meets (start.spanTo stop)) ↔
          ((isRtoText region.toList && isRtoText metric.toList) = true →
            ¬(stop.hours = none ∧ moment.date = stop.date)))) ∧
      (∀ (row : Object) (text : String) (date : Date), FilingRow config row text date →
        ((filingOf config row = .ok none → ¬(date.spanTo date).Meets (start.spanTo stop)) ↔
          (isShaped isAccession (row.get "accessionNumber") = true →
            (date.spanTo date).Meets (start.spanTo stop) →
            ¬EarlyText start text date ∧ ¬LateText stop text date))) ∧
      ∀ (files : List String) (reference : Object) (earliest latest : String) (first last : Date),
        DatedReference reference earliest latest first last →
        ((secReference config files (.obj reference) = .ok files →
            ¬(first.spanTo last).Meets (start.spanTo stop)) ↔
          (Acceptable config reference first last →
            (first.spanTo last).Meets (start.spanTo stop) →
            ¬EarlyText start latest last ∧ ¬LateText stop earliest first)) := by
  obtain ⟨start, stop, bounded⟩ := bounded_of_accepted accepted fixed daily
  refine ⟨start, stop, bounded, ?_, ?_, ?_, ?_⟩
  · intro rules rows row here offset read
    exact news_agrees bounded read
  · intro rules rows row region metric moment asked
    exact rto_agrees bounded asked
  · intro row text date filing
    exact filings_agree bounded filing
  · intro files reference earliest latest first last dated
    exact references_agree bounded dated

/-! ### A window that starts at an hour, and one that ends on a date -/

/-- News of one company, from an hour on. -/
def morningNews : Object :=
  [("symbol", .str "AAPL"), ("window_mode", .str "fixed_window"), ("start", .str "2026-01-05T10"),
    ("end", .str "2026-01-08")]

/-- A row of the same day, two hours later. -/
def noonRow : Object := [("id", .int 7), ("datetime", .str "2026-01-05T12:00:00Z")]

/-- Operating data of one region, to a date. -/
def demandData : Object :=
  [("regions", .arr [.str "PJM"]), ("types", .arr [.str "D"]), ("frequency", .str "hourly"),
    ("window_mode", .str "fixed_window"), ("start", .str "2026-01-05"), ("end", .str "2026-01-08")]

/-- The first hour of that date. -/
def midnightRow : Object :=
  [("respondent", .str "PJM"), ("type", .str "D"), ("period", .str "2026-01-08T00")]

/-- Rules that know no address. -/
def plainRules : RowRules where
  sanitizeItem _ := .ok none
  canonicalUrl _ := .ok none
  sha256 text := text
  canonicalHash _ := .ok ""
  toFloat _ := none
  eiaSeries geography sector := .ok ("eia:" ++ geography ++ ":" ++ sector)
  rtoSeries region metric := .ok ("rto:" ++ region ++ ":" ++ metric)
  officialUrl _ _ _ := "https://www.sec.gov/"

/-- A day of January 2026, or an hour of it. -/
def inJanuary (day : Nat) (hours : Option Nat) (day_pos : 1 ≤ day) (day_le : day ≤ 31)
    (hours_lt : ∀ clock ∈ hours, clock < 24) : DateHour :=
  ⟨⟨2026, 1, day, by decide, by decide, by decide, by decide, day_pos, day_le⟩, hours, hours_lt⟩

/-- The fifth, from ten. -/
def fifthAtTen : DateHour := inJanuary 5 (some 10) (by decide) (by decide) (by decide)

/-- The fifth. -/
def fifth : DateHour := inJanuary 5 none (by decide) (by decide) (by decide)

/-- The eighth. -/
def eighth : DateHour := inJanuary 8 none (by decide) (by decide) (by decide)

/-- The first hour of the eighth. -/
def eighthAtMidnight : DateHour := inJanuary 8 (some 0) (by decide) (by decide) (by decide)

/-- Filings of one filer, between two dates. -/
def filerSettings : Object :=
  [("ticker", .str "AAPL"), ("cik", .str "320193"), ("forms", .arr [.str "8-K"]),
    ("window_mode", .str "fixed_window"), ("start", .str "2026-01-05"), ("end", .str "2026-01-08")]

/-- A filing of the last date, written without hyphens. -/
def lateFiling : Object :=
  [("accessionNumber", .str "0000320193-26-000001"), ("filingDate", .str "20260108"),
    ("form", .str "8-K")]

/-- A history file of the filer, to the first date. -/
def earlierFile : Object :=
  [("name", .str "CIK0000320193-submissions-001.json"), ("filingFrom", .str "2026-01-01"),
    ("filingTo", .str "2026-01-05")]

/-- The first of January. -/
def newYear : DateHour := inJanuary 1 none (by decide) (by decide) (by decide)

/-- The instant of the news at noon. -/
def noon : Int := 63903211200000000

theorem windows_agree_news :
    (∃ start stop, HasBounds morningNews start stop ∧ ∀ rules rows,
      ((finnhubRow rules morningNews rows (.obj noonRow) = .ok rows →
          ¬(hourSpan (noon - 0)).Meets (start.spanTo stop)) ↔
        (Identified rules noonRow → (hourSpan (noon - 0)).Meets (start.spanTo stop) →
          (takenDays start stop).Has noon))) ∧
    (∃ start stop, HasBounds demandData start stop ∧ ∀ rules rows,
      ((eiaRow rules "electricity_rto_region_data" demandData rows (.obj midnightRow) = .ok rows →
          ¬(eighthAtMidnight.spanTo eighthAtMidnight).Meets (start.spanTo stop)) ↔
        ((isRtoText "PJM".toList && isRtoText "D".toList) = true →
          ¬(stop.hours = none ∧ eighthAtMidnight.date = stop.date)))) ∧
    ∃ start stop, HasBounds (normalized "sec_edgar" filerSettings) start stop ∧
      ((filingOf (normalized "sec_edgar" filerSettings) lateFiling = .ok none →
          ¬(eighth.date.spanTo eighth.date).Meets (start.spanTo stop)) ↔
        (isShaped isAccession (lateFiling.get "accessionNumber") = true →
          (eighth.date.spanTo eighth.date).Meets (start.spanTo stop) →
          ¬EarlyText start "20260108" eighth.date ∧ ¬LateText stop "20260108" eighth.date)) ∧
      ∀ files, ((secReference (normalized "sec_edgar" filerSettings) files (.obj earlierFile) =
            .ok files →
          ¬(newYear.date.spanTo fifth.date).Meets (start.spanTo stop)) ↔
        (Acceptable (normalized "sec_edgar" filerSettings) earlierFile newYear.date fifth.date →
          (newYear.date.spanTo fifth.date).Meets (start.spanTo stop) →
          ¬EarlyText start "2026-01-05" fifth.date ∧
            ¬LateText stop "2026-01-01" newYear.date)) := by
  refine ⟨?_, ?_, ?_⟩
  · obtain ⟨start, stop, bounded, news, -⟩ :=
      @windows_agree "finnhub" "company_news" morningNews morningNews rfl rfl (by decide)
    exact ⟨start, stop, bounded, fun rules rows =>
      news rules rows noonRow noon 0 (by decide +kernel)⟩
  · obtain ⟨start, stop, bounded, -, operating, -⟩ :=
      @windows_agree "eia" "electricity_rto_region_data" demandData demandData rfl rfl (by decide)
    exact ⟨start, stop, bounded, fun rules rows =>
      operating rules rows midnightRow "PJM" "D" eighthAtMidnight ⟨rfl, rfl, rfl, rfl, rfl⟩⟩
  · obtain ⟨start, stop, bounded, -, -, filings, references⟩ :=
      @windows_agree "sec_edgar" "submissions_recent" filerSettings
        (normalized "sec_edgar" filerSettings) rfl rfl (by decide)
    exact ⟨start, stop, bounded, filings lateFiling "20260108" eighth.date ⟨rfl, rfl, rfl⟩,
      fun files => references files earlierFile "2026-01-01" "2026-01-05" newYear.date fifth.date
        ⟨rfl, rfl, rfl, rfl⟩⟩

/-- News of noon are left out of a window that starts at ten, and the first hour of a date is left
out of one that ends on it. -/
theorem left_out_inside :
    (breadthConfig "finnhub" "company_news" morningNews = .ok morningNews ∧
      HasBounds morningNews fifthAtTen eighth ∧
      localTime (noonRow.get "datetime") = some (noon, 0) ∧
      (hourSpan noon).Meets (fifthAtTen.spanTo eighth) ∧
      finnhubRow plainRules morningNews ⟨[], []⟩ (.obj noonRow) = .ok ⟨[], []⟩) ∧
    (breadthConfig "eia" "electricity_rto_region_data" demandData = .ok demandData ∧
      HasBounds demandData fifth eighth ∧
      midnightRow.get "period" = .str (String.ofList eighthAtMidnight.text) ∧
      (eighthAtMidnight.spanTo eighthAtMidnight).Meets (fifth.spanTo eighth) ∧
      eiaRow plainRules "electricity_rto_region_data" demandData ⟨[], []⟩ (.obj midnightRow) =
        .ok ⟨[], []⟩) := by
  refine ⟨⟨rfl, ⟨rfl, rfl, by decide⟩, ?_, ?_, rfl⟩, ⟨rfl, ⟨rfl, rfl, by decide⟩, rfl, ?_, rfl⟩⟩
  · decide
  · decide
  · decide

end NewsCollect.Providers
