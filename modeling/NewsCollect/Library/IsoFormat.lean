/-
**Instants and their ISO 8601 texts.**

An instant is a number of microseconds since the start of the year 1 in UTC; a local time is the
same count without a zone. Both follow Python's `datetime`: the years 1 to 9999, offsets of less
than a day, and the texts of `isoformat` and `fromisoformat`.

* `fromIsoFormat`: the calendar, basic and week formats of a date, a time of any precision with an
  optional offset after it.
* `isoFormat`: the text of an aware time, at most 42 characters long (`length_isoFormat`).
* `dayText`, `hourText`: the texts of the day and of the hour of an instant, and what
  `fromIsoFormat` reads in them (`fromIsoFormat_dayText`, `fromIsoFormat_hourText`).
-/

import NewsCollect.Library.Calendar
import NewsCollect.Library.Doubles

namespace NewsCollect.Calendar

open Doubles Text

def second : Int := 1000000
def hour : Int := 3600 * second
def dayLength : Int := 86400 * second

/-- The instants `datetime` can represent. -/
def inRange (instant : Int) : Bool := 0 ≤ instant && instant < dayCount * dayLength

theorem hour_eq : hour = 3600000000 := rfl

theorem dayLength_eq : dayLength = 86400000000 := rfl

theorem inRange_iff {instant : Int} :
    inRange instant = true ↔ 0 ≤ instant ∧ instant < 315537897600000000 := by
  rw [inRange, Bool.and_eq_true, decide_eq_true_eq, decide_eq_true_eq]
  exact Iff.rfl

/-- The instant that timestamps are counted from: 1970-01-01. -/
def epoch : Int := 62135596800 * second

/-- `timestamp`: the double nearest to the seconds of an instant since 1970. -/
def posixTimestamp (instant : Int) : ℚ := nearest ((instant - epoch : Int) / (second : ℚ))

/-- `fromtimestamp`, of a double of whole seconds and a fraction: the fraction is multiplied as a
double, and then rounded to microseconds. -/
def fromTimestamp (whole : Int) (fraction : ℚ) : Int :=
  epoch + whole * second + roundEven (nearest (fraction * second))

/-- The start of the hour of an instant. -/
def truncateHour (instant : Int) : Int := instant / hour * hour

/-- The start of the day of an instant. -/
def truncateDay (instant : Int) : Int := instant / dayLength * dayLength

/-- The first instant of a date. -/
def Date.start (date : Date) : Int := date.days * dayLength

/-- The date of an instant. -/
def dateOf (instant : Int) : Option Date :=
  if inside : (instant / dayLength).toNat < dayCount ∧ 0 ≤ instant then
    some (Date.ofDays (instant / dayLength).toNat inside.1)
  else none

/-! ### Texts of dates and times -/

/-- `%Y-%m-%d`. -/
def Date.text (date : Date) : List Char :=
  four date.year ++ '-' :: two date.month ++ '-' :: two date.day

/-- `%Y-%m-%d` of an instant. -/
def dayText (instant : Int) : List Char := ((dateOf instant).map Date.text).getD []

/-- `%Y-%m-%dT%H` of an instant. -/
def hourText (instant : Int) : List Char :=
  dayText instant ++ 'T' :: two (instant % dayLength / hour).toNat

/-- Microseconds in six digits. -/
def six (n : Nat) : List Char := two (n / 10000) ++ four (n % 10000)

/-- `HH:MM:SS`, and the microseconds when there are any. -/
def clockText (time : Nat) : List Char :=
  two (time / 3600000000) ++ ':' :: two (time / 60000000 % 60) ++ ':' ::
    two (time / 1000000 % 60) ++
    (if time % 1000000 = 0 then [] else '.' :: six (time % 1000000))

/-- `+HH:MM`, and the seconds and microseconds when there are any. -/
def offsetText (offset : Int) : List Char :=
  let size := offset.natAbs
  (if offset < 0 then '-' else '+') :: two (size / 3600000000) ++ ':' ::
    two (size / 60000000 % 60) ++
    (if size % 60000000 = 0 then []
      else ':' :: two (size / 1000000 % 60) ++
        (if size % 1000000 = 0 then [] else '.' :: six (size % 1000000)))

/-- `isoformat` of an aware local time. -/
def isoFormat (here : Int) (offset : Int) : List Char :=
  dayText here ++ 'T' :: clockText (here % dayLength).toNat ++ offsetText offset

/-! ### Reading -/

/-- The date of an ISO year, week and day of the week. -/
def isoWeekDate (year week day : Nat) : Option Date :=
  if 1 ≤ year ∧ year ≤ 9999 ∧ 1 ≤ week ∧ week ≤ 53 ∧ 1 ≤ day ∧ day ≤ 7 then
    -- Monday of week 1 is the Monday of the week of January 4; day 0 was a Monday
    let first := daysBeforeYear year
    let weekday := first % 7
    let long := weekday = 3 ∨ weekday = 2 ∧ isLeap year
    if week = 53 ∧ ¬long then none
    else
      let monday : Int := if weekday ≤ 3 then first - weekday else first - weekday + 7
      let days := monday + (week - 1) * 7 + (day - 1)
      if inside : 0 ≤ days ∧ days.toNat < dayCount then some (Date.ofDays days.toNat inside.2)
      else none
  else none

/-- `text.replace("Z", "+00:00")`. -/
def replaceZ (text : List Char) : List Char :=
  text.flatMap fun c => if c = 'Z' then "+00:00".toList else [c]

/-- A date in the calendar, basic or week format. -/
def isoDate (text : List Char) : Option Date :=
  match text with
  | y₁ :: y₂ :: y₃ :: y₄ :: rest =>
      (number [y₁, y₂, y₃, y₄]).bind fun year =>
        match rest with
        | ['-', m₁, m₂, '-', d₁, d₂] =>
            (number [m₁, m₂]).bind fun month => (number [d₁, d₂]).bind (Date.make? year month)
        | ['-', 'W', w₁, w₂, '-', d] | ['W', w₁, w₂, d] =>
            (number [w₁, w₂]).bind fun week => (number [d]).bind (isoWeekDate year week)
        | ['-', 'W', w₁, w₂] | ['W', w₁, w₂] =>
            (number [w₁, w₂]).bind fun week => isoWeekDate year week 1
        | [m₁, m₂, d₁, d₂] =>
            (number [m₁, m₂]).bind fun month => (number [d₁, d₂]).bind (Date.make? year month)
        | _ => none
  | _ => none

/-- Where the date ends: the formats are told apart by their fourth and fifth characters. -/
def dateLength (text : List Char) : Nat :=
  if text.length = 7 then 7
  else if text[4]? = some '-' then
    if text[5]? = some 'W' then
      if text[8]? = some '-' ∧ ¬(text[10]?.any isDigit) then 10 else 8
    else 10
  else if text[4]? = some 'W' then
    let digits := ((text.drop 7).takeWhile isDigit).length
    if digits < 2 then 7 + digits else if (7 + digits) % 2 = 0 then 7 else 8
  else 8

/-- The microseconds a decimal fraction spells, further digits being dropped. -/
def fraction (text : List Char) : Option Nat :=
  if text.isEmpty || !text.all isDigit then none
  else (number (text.take 6)).map fun value => value * 10 ^ (6 - min 6 text.length)

/-- Hours, minutes, seconds and microseconds, with or without colons. -/
def isoClock (text : List Char) : Option (Nat × Nat × Nat × Nat) :=
  match text with
  | h₁ :: h₂ :: rest =>
      (number [h₁, h₂]).bind fun hours =>
        match rest with
        | [] => some (hours, 0, 0, 0)
        | [':', m₁, m₂] | [m₁, m₂] => (number [m₁, m₂]).map fun minutes => (hours, minutes, 0, 0)
        | ':' :: m₁ :: m₂ :: ':' :: s₁ :: s₂ :: rest | m₁ :: m₂ :: s₁ :: s₂ :: rest =>
            (number [m₁, m₂]).bind fun minutes =>
              (number [s₁, s₂]).bind fun seconds =>
                match rest with
                | [] => some (hours, minutes, seconds, 0)
                | mark :: digits =>
                    if mark = '.' ∨ mark = ',' then
                      (fraction digits).map fun micros => (hours, minutes, seconds, micros)
                    else none
        | _ => none
  | _ => none

/-- The microseconds of a time of day. -/
def clockMicros (clock : Nat × Nat × Nat × Nat) : Int :=
  clock.1 * hour + clock.2.1 * (60 * second) + clock.2.2.1 * second + clock.2.2.2

/-- An offset: `Z`, or a sign and a time of less than a day. -/
def isoOffset (text : List Char) : Option Int :=
  match text with
  | ['Z'] => some 0
  | sign :: clock =>
      if sign = '+' ∨ sign = '-' then
        (isoClock clock).bind fun clock =>
          let size := clockMicros clock
          if size < dayLength then some (if sign = '-' then -size else size) else none
      else none
  | [] => none

/-- A time of day and the offset after it. -/
def isoTime (text : List Char) : Option (Int × Option Int) :=
  let clock := text.takeWhile fun c => c ≠ '+' ∧ c ≠ '-' ∧ c ≠ 'Z'
  let zone := text.drop clock.length
  (isoClock clock).bind fun clock =>
    if clock.1 < 24 ∧ clock.2.1 < 60 ∧ clock.2.2.1 < 60 then
      if zone.isEmpty then some (clockMicros clock, none)
      else (isoOffset zone).map fun offset => (clockMicros clock, some offset)
    else none

/-- `datetime.fromisoformat`: the local time and its offset, if it has one. -/
def fromIsoFormat (text : List Char) : Option (Int × Option Int) :=
  if text.length < 7 then none
  else
    (isoDate (text.take (dateLength text))).bind fun date =>
      match text.drop (dateLength text) with
      | [] => some (date.start, none)
      | _ :: time => (isoTime time).map fun (micros, offset) => (date.start + micros, offset)

/-! ### Round trips -/

theorem length_four (n : Nat) : (four n).length = 4 := rfl

theorem length_two (n : Nat) : (two n).length = 2 := rfl

theorem Date.length_text (date : Date) : date.text.length = 10 := rfl

theorem isoDate_text (date : Date) : isoDate date.text = some date := by
  have year := number_four (n := date.year) (by have := date.year_le; omega)
  have month := number_two (n := date.month) (by have := date.month_le; omega)
  have day := number_two (n := date.day) (by
    have := date.day_le
    have : daysInMonth date.year date.month ≤ 31 := by
      unfold daysInMonth monthLength
      split <;> (try split) <;> decide
    omega)
  simp only [four, two] at year month day
  simp only [Date.text, four, two, isoDate, List.cons_append, List.nil_append, year, month, day,
    Option.bind_some, Date.make?_self]

theorem digit_ne {c : Char} (other : isDigit c = false) (n : Nat) : digit n ≠ c := by
  intro same
  have digits := isDigit_digit n
  rw [same, other] at digits
  exact absurd digits (by decide)

theorem dateLength_text (date : Date) (rest : List Char) :
    dateLength (date.text ++ rest) = 10 := by
  have long : (date.text ++ rest).length ≠ 7 := by
    rw [List.length_append, Date.length_text]
    omega
  have dash : (date.text ++ rest)[4]? = some '-' := rfl
  have month : (date.text ++ rest)[5]? = some (digit (date.month / 10)) := rfl
  rw [dateLength, if_neg long, dash, month]
  simp [digit_ne (show isDigit 'W' = false by decide)]

/-- The text of a day is read as its first instant. -/
theorem fromIsoFormat_text (date : Date) :
    fromIsoFormat date.text = some (date.start, none) := by
  have length : dateLength date.text = 10 := by
    simpa using dateLength_text date []
  have whole : date.text.take 10 = date.text := by
    rw [← Date.length_text date, List.take_length]
  have nothing : date.text.drop 10 = [] := by
    rw [← Date.length_text date, List.drop_length]
  simp [fromIsoFormat, length, whole, nothing, isoDate_text, Date.length_text]

/-- The text of an hour is read as its first instant. -/
theorem fromIsoFormat_hour (date : Date) {hours : Nat} (inside : hours < 24) :
    fromIsoFormat (date.text ++ 'T' :: two hours) = some (date.start + hours * hour, none) := by
  have clock : isoTime (two hours) = some (hours * hour, none) := by
    have first : ∀ n, (digit n ≠ '+' ∧ digit n ≠ '-' ∧ digit n ≠ 'Z') := by
      intro n
      have digits := isDigit_digit n
      refine ⟨?_, ?_, ?_⟩ <;> intro same <;> rw [same] at digits <;> exact absurd digits (by decide)
    have all : (two hours).takeWhile (fun c => c ≠ '+' ∧ c ≠ '-' ∧ c ≠ 'Z') = two hours := by
      simp [two, first]
    have value := number_two (n := hours) (by omega)
    simp only [two] at value
    have read : isoClock (two hours) = some (hours, 0, 0, 0) := by
      simp [two, isoClock, value]
    rw [isoTime, all, List.drop_length, read]
    simp [inside, clockMicros]
  have long : ¬(date.text ++ 'T' :: two hours).length < 7 := by
    rw [List.length_append, Date.length_text]
    omega
  have front : (date.text ++ 'T' :: two hours).take 10 = date.text :=
    List.take_left' (Date.length_text date)
  have back : (date.text ++ 'T' :: two hours).drop 10 = 'T' :: two hours :=
    List.drop_left' (Date.length_text date)
  rw [fromIsoFormat, if_neg long, dateLength_text, front, back, isoDate_text]
  simp [clock]

theorem dateOf_of_inRange {instant : Int} (inside : inRange instant = true) :
    ∃ date, dateOf instant = some date ∧ date.start = truncateDay instant := by
  rw [inRange_iff] at inside
  have day : (instant / dayLength).toNat < dayCount ∧ 0 ≤ instant := by
    rw [dayLength_eq, dayCount]
    omega
  refine ⟨Date.ofDays (instant / dayLength).toNat day.1, ?_, ?_⟩
  · rw [dateOf, dif_pos day]
  · rw [Date.start, Date.days_ofDays, truncateDay]
    have positive : 0 ≤ instant / dayLength := by
      rw [dayLength_eq]
      omega
    rw [Int.toNat_of_nonneg positive]

/-- The first instant of a date is on that date. -/
theorem dateOf_start (date : Date) : dateOf date.start = some date := by
  have day : date.start / dayLength = date.days := by
    rw [Date.start, dayLength_eq]
    omega
  have inside : (date.start / dayLength).toNat < dayCount ∧ 0 ≤ date.start := by
    rw [day, Int.toNat_natCast, Date.start, dayLength_eq]
    exact ⟨date.days_lt, by omega⟩
  rw [dateOf, dif_pos inside]
  simp only [day, Int.toNat_natCast, Date.ofDays_days]

/-- **The text of the day of an instant** is read as the start of that day. -/
theorem fromIsoFormat_dayText {instant : Int} (inside : inRange instant = true) :
    fromIsoFormat (dayText instant) = some (truncateDay instant, none) := by
  obtain ⟨date, found, start⟩ := dateOf_of_inRange inside
  rw [dayText, found, Option.map_some, Option.getD_some, fromIsoFormat_text, start]

/-- **The text of the hour of an instant** is read as the start of that hour. -/
theorem fromIsoFormat_hourText {instant : Int} (inside : inRange instant = true) :
    fromIsoFormat (hourText instant) = some (truncateHour instant, none) := by
  obtain ⟨date, found, start⟩ := dateOf_of_inRange inside
  have hours : (instant % dayLength / hour).toNat < 24 := by
    rw [dayLength_eq, hour_eq]
    omega
  rw [hourText, dayText, found, Option.map_some, Option.getD_some, fromIsoFormat_hour date hours,
    start]
  have split : truncateDay instant + ((instant % dayLength / hour).toNat : Int) * hour =
      truncateHour instant := by
    rw [truncateDay, truncateHour, dayLength_eq, hour_eq]
    omega
  rw [split]

theorem length_dayText (instant : Int) : (dayText instant).length ≤ 10 := by
  unfold dayText
  cases dateOf instant with
  | none => simp
  | some date => exact (Date.length_text date).le

/-- A date is at most ten characters, and at least one. -/
theorem length_of_isoDate {text : List Char} (date : (isoDate text).isSome = true) :
    1 ≤ text.length ∧ text.length ≤ 10 := by
  unfold isoDate at date
  split at date
  · rw [Option.isSome_bind] at date
    obtain ⟨year, -, date⟩ := (Option.any_eq_true _ _).1 date
    split at date
    all_goals simp at date ⊢
  · simp at date

/-- The text of an aware time is short, and not empty. -/
theorem length_isoFormat (here : Int) (offset : Int) :
    1 ≤ (isoFormat here offset).length ∧ (isoFormat here offset).length ≤ 42 := by
  have day := length_dayText here
  have micros : ∀ n, (six n).length = 6 := fun n => rfl
  have clock : (clockText (here % dayLength).toNat).length ≤ 15 := by
    unfold clockText
    split <;> simp [length_two, micros]
  have zone : (offsetText offset).length ≤ 16 := by
    unfold offsetText
    dsimp only
    by_cases minutes : offset.natAbs % 60000000 = 0
    · simp [minutes, length_two]
    · by_cases seconds : offset.natAbs % 1000000 = 0 <;>
        simp [minutes, seconds, length_two, micros]
  simp only [isoFormat, List.length_append, List.length_cons]
  omega

/-! ### The text of an instant -/

theorem number_six {n : Nat} (below : n < 1000000) : number (six n) = some n := by
  simp only [number, six, two, four, List.cons_append, List.nil_append, List.foldl,
    digitValue_digit, Option.bind_some, Option.map_some, Option.some.injEq]
  omega

/-- The characters of the text of a time of day. -/
theorem mem_clockText {time : Nat} {c : Char} (member : c ∈ clockText time) :
    isDigit c = true ∨ c = ':' ∨ c = '.' := by
  unfold clockText at member
  split at member
  · simp only [two, List.mem_append, List.mem_cons, List.not_mem_nil, or_false] at member
    rcases member with ((rfl | rfl) | rfl | rfl | rfl) | rfl | rfl | rfl <;> simp
  · simp only [two, six, four, List.mem_append, List.mem_cons, List.not_mem_nil, or_false]
      at member
    rcases member with
      (((rfl | rfl) | rfl | rfl | rfl) | rfl | rfl | rfl) | rfl | (rfl | rfl) | rfl | rfl | rfl | rfl
      <;> simp

/-- The text of a time of day has no sign in it. -/
theorem takeWhile_clockText (time : Nat) (zone : List Char) :
    (clockText time ++ '+' :: zone).takeWhile (fun c => c ≠ '+' ∧ c ≠ '-' ∧ c ≠ 'Z') =
      clockText time := by
  have all : ∀ c ∈ clockText time, decide (c ≠ '+' ∧ c ≠ '-' ∧ c ≠ 'Z') = true := by
    intro c member
    rcases mem_clockText member with digit | rfl | rfl
    · rw [decide_eq_true_eq]
      refine ⟨?_, ?_, ?_⟩ <;> rintro rfl <;> exact absurd digit (by decide)
    · decide
    · decide
  rw [List.takeWhile_append_of_pos all, List.takeWhile_cons_of_neg (by decide), List.append_nil]

/-- The text of a time of day is read as its parts. -/
theorem isoClock_clockText {time : Nat} (inside : time < 86400000000) :
    isoClock (clockText time) =
      some (time / 3600000000, time / 60000000 % 60, time / 1000000 % 60, time % 1000000) := by
  have hours := @number_two (time / 3600000000) (by omega)
  have minutes := @number_two (time / 60000000 % 60) (by omega)
  have seconds := @number_two (time / 1000000 % 60) (by omega)
  have micros := @number_six (time % 1000000) (by omega)
  simp only [two] at hours minutes seconds
  unfold clockText
  by_cases whole : time % 1000000 = 0
  · simp [whole, two, isoClock, hours, minutes, seconds]
  · have digits : (six (time % 1000000)).all isDigit = true := by simp [six, two, four]
    have read : fraction (six (time % 1000000)) = some (time % 1000000) := by
      have length : (six (time % 1000000)).length = 6 := rfl
      have all : (six (time % 1000000)).take 6 = six (time % 1000000) := rfl
      rw [fraction, digits, all, micros, length]
      simp [six, two]
    simp [whole, two, isoClock, hours, minutes, seconds, read]

/-- **The text of an instant** is read as that instant. -/
theorem fromIsoFormat_isoFormat {instant : Int} (inside : inRange instant = true) :
    fromIsoFormat (isoFormat instant 0) = some (instant, some 0) := by
  obtain ⟨date, found, start⟩ := dateOf_of_inRange inside
  have below : (instant % dayLength).toNat < 86400000000 := by
    rw [dayLength_eq]
    omega
  have text : isoFormat instant 0 = date.text ++ 'T' ::
      (clockText (instant % dayLength).toNat ++ '+' :: "00:00".toList) := by
    rw [isoFormat, dayText, found, Option.map_some, Option.getD_some, List.append_assoc,
      List.cons_append]
    rfl
  have long : ¬(date.text ++ 'T' :: (clockText (instant % dayLength).toNat ++
      '+' :: "00:00".toList)).length < 7 := by
    rw [List.length_append, Date.length_text]
    omega
  have time : isoTime (clockText (instant % dayLength).toNat ++ '+' :: "00:00".toList) =
      some (instant % dayLength, some 0) := by
    have zone : isoOffset ('+' :: "00:00".toList) = some 0 := by decide
    have size : clockMicros ((instant % dayLength).toNat / 3600000000,
        (instant % dayLength).toNat / 60000000 % 60, (instant % dayLength).toNat / 1000000 % 60,
        (instant % dayLength).toNat % 1000000) = instant % dayLength := by
      simp only [clockMicros, hour, second]
      rw [dayLength_eq] at below ⊢
      omega
    have limits : (instant % dayLength).toNat / 3600000000 < 24 ∧
        (instant % dayLength).toNat / 60000000 % 60 < 60 ∧
        (instant % dayLength).toNat / 1000000 % 60 < 60 := by omega
    rw [isoTime, takeWhile_clockText, List.drop_left, isoClock_clockText below]
    simp only [Option.bind_some, limits, and_self, if_true, size]
    rw [if_neg (by simp), zone]
    rfl
  rw [text, fromIsoFormat, if_neg long, dateLength_text,
    List.take_left' (Date.length_text date), List.drop_left' (Date.length_text date),
    isoDate_text, Option.bind_some]
  simp only [time, Option.map_some, Option.some.injEq, Prod.mk.injEq, and_true]
  rw [start, truncateDay, dayLength_eq]
  omega

/-- The characters of the text of an instant. -/
theorem mem_isoFormat {instant : Int} {c : Char} (member : c ∈ isoFormat instant 0) :
    isDigit c = true ∨ c ∈ ['-', 'T', ':', '.', '+'] := by
  have zone : offsetText 0 = ['+', '0', '0', ':', '0', '0'] := by decide
  rw [isoFormat, zone, List.mem_append, List.mem_append, List.mem_cons] at member
  rcases member with (day | rfl | clock) | zone
  · unfold dayText at day
    cases held : dateOf instant with
    | none => simp [held] at day
    | some date =>
        simp only [held, Option.map_some, Option.getD_some, Date.text, four, two, List.mem_append,
          List.mem_cons, List.not_mem_nil, or_false] at day
        rcases day with ((rfl | rfl | rfl | rfl) | rfl | rfl | rfl) | rfl | rfl | rfl <;> simp
  · simp
  · rcases mem_clockText clock with digit | rfl | rfl
    · exact .inl digit
    · simp
    · simp
  · have sorts : c = '+' ∨ c = '0' ∨ c = ':' := by
      simp only [List.mem_cons, List.not_mem_nil, or_false] at zone
      tauto
    rcases sorts with rfl | rfl | rfl
    · simp
    · exact .inl (by decide)
    · simp

/-- A text without the letter Z is left as it is. -/
theorem replaceZ_eq_self {text : List Char} (absent : ∀ c ∈ text, c ≠ 'Z') :
    replaceZ text = text := by
  induction text with
  | nil => rfl
  | cons c text ih =>
      rw [replaceZ, List.flatMap_cons, if_neg (absent c (List.mem_cons_self ..))]
      exact congrArg (c :: ·) (ih fun d member => absent d (List.mem_cons_of_mem _ member))

/-- The text of an instant has no letter Z. -/
theorem replaceZ_isoFormat (instant : Int) :
    replaceZ (isoFormat instant 0) = isoFormat instant 0 := by
  refine replaceZ_eq_self fun c member => ?_
  rintro rfl
  rcases mem_isoFormat member with digit | mark
  · exact absurd digit (by decide)
  · exact absurd mark (by decide)

/-- The text of a date has no letter Z. -/
theorem replaceZ_text (date : Date) : replaceZ date.text = date.text := by
  have digits : ∀ n, digit n ≠ 'Z' := digit_ne (by decide)
  refine replaceZ_eq_self fun c member => ?_
  simp only [Date.text, four, two, List.mem_append, List.mem_cons, List.not_mem_nil, or_false]
    at member
  rcases member with ((rfl | rfl | rfl | rfl) | rfl | rfl | rfl) | rfl | rfl | rfl
  all_goals first | exact digits _ | decide

/-- A text of ten characters in the calendar format is read as a day. -/
theorem fromIsoFormat_ten {text : List Char} (long : text.length = 10) (dash : text[4]? = some '-')
    (other : text[5]? ≠ some 'W') {time : Int × Option Int} (read : fromIsoFormat text = some time) :
    ∃ date : Date, time = (date.start, none) := by
  have length : dateLength text = 10 := by
    rw [dateLength, if_neg (by omega), if_pos dash, if_neg other]
  rw [fromIsoFormat, if_neg (by omega), length, ← long, List.take_length, List.drop_length] at read
  obtain ⟨date, -, same⟩ := Option.bind_eq_some_iff.1 read
  exact ⟨date, (Option.some.inj same).symm⟩

/-- The first instant of a date is in the calendar. -/
theorem Date.inRange_start (date : Date) : inRange date.start = true := by
  have below := date.days_lt
  rw [dayCount] at below
  rw [inRange_iff, Date.start, dayLength_eq]
  omega

end NewsCollect.Calendar
