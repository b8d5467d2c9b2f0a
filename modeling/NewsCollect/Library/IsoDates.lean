/-
**Dates and hours as spans of time, and the order of their texts.**

A date, alone or with an hour, spans a day or an hour. The texts of two of them in the calendar
format compare as the times do, except where one is the other with an hour after it. A date may
also be written in the basic or the week format: such a text follows every calendar text of the
year it begins with, and comes before those of the next year.

* `Span`, `DateHour`: spans of time, and the dates and hours that have one.
* `fromIsoFormat_cases`: a local time is on a date of the calendar.
* `DateHour.text_lt_iff`: the order of calendar texts.
* `lt_of_written`, `written_lt`: the order of the other formats.
-/

import Mathlib.Data.List.TakeWhile
import NewsCollect.Library.IsoOrder

namespace NewsCollect.Calendar

open Text

/-! ### Digits, read back -/

theorem eq_digit {c : Char} {n : Nat} (read : digitValue c = some n) : c = digit n ∧ n < 10 := by
  rw [digitValue, Option.ite_none_right_eq_some, Option.some.injEq] at read
  obtain ⟨inside, rfl⟩ := read
  simp only [isDigit, Bool.and_eq_true, decide_eq_true_eq] at inside
  refine ⟨Char.toNat_inj.1 ?_, by omega⟩
  rw [toNat_digit]
  omega

/-- A number of so many digits is below that power of ten. -/
theorem number_lt {text : List Char} {n : Nat} (read : number text = some n) :
    n < 10 ^ text.length := by
  -- a digit after a value multiplies it by ten and adds less than ten
  have step : ∀ (rest : List Char) (held : Option Nat) (bound : Nat),
      (∀ value ∈ held, value < bound) →
      ∀ value ∈ rest.foldl (fun total c => total.bind fun value =>
        (digitValue c).map fun held => value * 10 + held) held,
      value < bound * 10 ^ rest.length := by
    intro rest
    induction rest with
    | nil => simp
    | cons c rest ih =>
        intro held bound below value member
        have next := ih _ (bound * 10) ?_ value member
        · rw [List.length_cons, Nat.pow_succ', ← Nat.mul_assoc]
          exact next
        · intro value member
          obtain ⟨before, found, member⟩ := Option.bind_eq_some_iff.1 member
          obtain ⟨digit, read, rfl⟩ := Option.map_eq_some_iff.1 member
          have small := (eq_digit read).2
          have less := below before found
          omega
  have total := step text (some 0) 1 (by simp) n read
  rwa [Nat.one_mul] at total

theorem eq_two {a b : Char} {n : Nat} (read : number [a, b] = some n) : [a, b] = two n := by
  simp only [number, List.foldl, Option.bind_eq_some_iff, Option.map_eq_some_iff] at read
  obtain ⟨tens, ⟨_, same, first, found, rfl⟩, ones, found', rfl⟩ := read
  obtain rfl := Option.some.inj same
  obtain ⟨rfl, below⟩ := eq_digit found
  obtain ⟨rfl, below'⟩ := eq_digit found'
  rw [two, List.cons.injEq, List.cons.injEq]
  refine ⟨digit_congr ?_, digit_congr ?_, rfl⟩ <;> omega

theorem eq_four {a b c d : Char} {n : Nat} (read : number [a, b, c, d] = some n) :
    [a, b, c, d] = four n := by
  simp only [number, List.foldl, Option.bind_eq_some_iff, Option.map_eq_some_iff] at read
  obtain ⟨_, ⟨_, ⟨_, ⟨_, same, first, found₁, rfl⟩, second, found₂, rfl⟩, third, found₃, rfl⟩,
    fourth, found₄, rfl⟩ := read
  obtain rfl := Option.some.inj same
  obtain ⟨rfl, below₁⟩ := eq_digit found₁
  obtain ⟨rfl, below₂⟩ := eq_digit found₂
  obtain ⟨rfl, below₃⟩ := eq_digit found₃
  obtain ⟨rfl, below₄⟩ := eq_digit found₄
  simp only [four, List.cons.injEq, and_true]
  refine ⟨digit_congr ?_, digit_congr ?_, digit_congr ?_, digit_congr ?_⟩ <;> omega

/-! ### Dates, read back -/

theorem make?_eq_some {year month day : Nat} {date : Date}
    (made : Date.make? year month day = some date) :
    date.year = year ∧ date.month = month ∧ date.day = day := by
  unfold Date.make? at made
  split at made
  · obtain rfl := Option.some.inj made
    exact ⟨rfl, rfl, rfl⟩
  · cases made

/-- The year a text begins with. -/
def writtenYear (text : List Char) : Nat := (number (text.take 4)).getD 0

/-- After the year comes what no calendar text has there: the mark of a week, or a digit. -/
inductive Uncommon : List Char → Prop
  | week (rest : List Char) : Uncommon ('-' :: 'W' :: rest)
  | basic {c : Char} (later : '-' < c) (rest : List Char) : Uncommon (c :: rest)

/-- A date is written in the calendar format, or in one that has something else after the year. -/
theorem isoDate_cases {text : List Char} {date : Date} (read : isoDate text = some date) :
    text = date.text ∨ ∃ rest, text = four (writtenYear text) ++ rest ∧ writtenYear text < 10000 ∧
      Uncommon rest := by
  unfold isoDate at read
  split at read
  · next y₁ y₂ y₃ y₄ rest =>
    obtain ⟨year, found, read⟩ := Option.bind_eq_some_iff.1 read
    have written : writtenYear (y₁ :: y₂ :: y₃ :: y₄ :: rest) = year := by
      rw [writtenYear, List.take_succ_cons, List.take_succ_cons, List.take_succ_cons,
        List.take_succ_cons, List.take_zero, found, Option.getD_some]
    have front : y₁ :: y₂ :: y₃ :: y₄ :: rest = four year ++ rest := by
      rw [← eq_four found]
      rfl
    have small : year < 10000 := by simpa using number_lt found
    rw [written]
    split at read
    · next m₁ m₂ d₁ d₂ =>
      obtain ⟨month, found', read⟩ := Option.bind_eq_some_iff.1 read
      obtain ⟨day, found'', made⟩ := Option.bind_eq_some_iff.1 read
      obtain ⟨rfl, rfl, rfl⟩ := make?_eq_some made
      refine .inl ?_
      rw [front, Date.text, ← eq_two found', ← eq_two found'']
      rfl
    · exact .inr ⟨_, front, small, .week _⟩
    · exact .inr ⟨_, front, small, .basic (by decide) _⟩
    · exact .inr ⟨_, front, small, .week _⟩
    · exact .inr ⟨_, front, small, .basic (by decide) _⟩
    · next m₁ m₂ d₁ d₂ _ _ _ =>
      obtain ⟨month, found', -⟩ := Option.bind_eq_some_iff.1 read
      have head : m₁ = digit (month / 10) := (List.cons.inj (eq_two found')).1
      refine .inr ⟨_, front, small, .basic ?_ _⟩
      rw [head, Char.lt_def, UInt32.lt_iff_toNat_lt]
      show ('-').toNat < (digit (month / 10)).toNat
      rw [toNat_digit]
      have dash : ('-').toNat = 45 := rfl
      omega
    · cases read
  · cases read

/-! ### Times of day, read back -/

theorem fraction_lt {text : List Char} {n : Nat} (read : fraction text = some n) : n < 1000000 := by
  unfold fraction at read
  split at read
  · exact absurd read nofun
  · obtain ⟨value, found, rfl⟩ := Option.map_eq_some_iff.1 read
    have below := number_lt found
    rw [List.length_take] at below
    calc value * 10 ^ (6 - min 6 text.length)
        < 10 ^ min 6 text.length * 10 ^ (6 - min 6 text.length) :=
          Nat.mul_lt_mul_of_pos_right below (by positivity)
      _ = 10 ^ 6 := by rw [← Nat.pow_add, Nat.add_sub_cancel' (min_le_left ..)]
      _ = 1000000 := by norm_num

/-- What follows the seconds is nothing, or a fraction. -/
theorem micros_of_rest {hours : Nat} {first second : List Char} {rest : List Char}
    {clock : Nat × Nat × Nat × Nat}
    (read : ((number first).bind fun minutes => (number second).bind fun seconds =>
      match rest with
      | [] => some (hours, minutes, seconds, 0)
      | mark :: digits =>
          if mark = '.' ∨ mark = ',' then
            (fraction digits).map fun micros => (hours, minutes, seconds, micros)
          else none) = some clock) : clock.2.2.2 < 1000000 := by
  obtain ⟨minutes, -, read⟩ := Option.bind_eq_some_iff.1 read
  obtain ⟨seconds, -, read⟩ := Option.bind_eq_some_iff.1 read
  split at read
  · obtain rfl := Option.some.inj read
    exact Nat.succ_pos _
  · split at read
    · obtain ⟨micros, found, rfl⟩ := Option.map_eq_some_iff.1 read
      exact fraction_lt found
    · exact absurd read nofun

theorem micros_lt {text : List Char} {clock : Nat × Nat × Nat × Nat}
    (read : isoClock text = some clock) : clock.2.2.2 < 1000000 := by
  unfold isoClock at read
  split at read
  · obtain ⟨hours, -, read⟩ := Option.bind_eq_some_iff.1 read
    split at read
    · obtain rfl := Option.some.inj read
      exact Nat.succ_pos _
    · obtain ⟨minutes, -, rfl⟩ := Option.map_eq_some_iff.1 read
      exact Nat.succ_pos _
    · obtain ⟨minutes, -, rfl⟩ := Option.map_eq_some_iff.1 read
      exact Nat.succ_pos _
    · exact micros_of_rest read
    · exact micros_of_rest read
    · exact absurd read nofun
  · exact absurd read nofun

theorem isoTime_inside {text : List Char} {time : Int × Option Int}
    (read : isoTime text = some time) : 0 ≤ time.1 ∧ time.1 < dayLength := by
  unfold isoTime at read
  obtain ⟨clock, found, read⟩ := Option.bind_eq_some_iff.1 read
  have micros := micros_lt found
  split at read
  · next limits =>
    have size : 0 ≤ clockMicros clock ∧ clockMicros clock < dayLength := by
      rw [clockMicros, hour_eq, dayLength_eq, second]
      omega
    split at read
    · obtain rfl := Option.some.inj read
      exact size
    · obtain ⟨offset, -, rfl⟩ := Option.map_eq_some_iff.1 read
      exact size
  · cases read

/-- A local time is a time of day on a date of the calendar. -/
theorem fromIsoFormat_cases {text : List Char} {here : Int} {offset : Option Int}
    (read : fromIsoFormat text = some (here, offset)) :
    ∃ date : Date, date.start ≤ here ∧ here < date.start + dayLength := by
  unfold fromIsoFormat at read
  split at read
  · exact absurd read nofun
  · obtain ⟨date, -, read⟩ := Option.bind_eq_some_iff.1 read
    refine ⟨date, ?_⟩
    split at read
    · obtain ⟨rfl, -⟩ := Prod.mk.inj (Option.some.inj read)
      rw [dayLength_eq]
      omega
    · obtain ⟨time, found, same⟩ := Option.map_eq_some_iff.1 read
      obtain ⟨rfl, -⟩ := Prod.mk.inj same
      have inside := isoTime_inside found
      omega

/-- A time of day on a date is on that date. -/
theorem dateOf_of_mem {date : Date} {here : Int} (from_start : date.start ≤ here)
    (before_end : here < date.start + dayLength) : dateOf here = some date := by
  have below := date.days_lt
  rw [Date.start, dayLength_eq] at from_start before_end
  have day : here / dayLength = date.days := by
    rw [dayLength_eq]
    omega
  have inside : (here / dayLength).toNat < dayCount ∧ 0 ≤ here := by
    rw [day, Int.toNat_natCast]
    exact ⟨below, by omega⟩
  rw [dateOf, dif_pos inside]
  simp only [day, Int.toNat_natCast, Date.ofDays_days]

/-! ### Spans of time -/

/-- The time from one instant to before another. -/
structure Span where
  first : Int
  after : Int

/-- An instant is in the span. -/
def Span.Has (span : Span) (instant : Int) : Prop := span.first ≤ instant ∧ instant < span.after

/-- Two spans have an instant in common. -/
def Span.Meets (left right : Span) : Prop := left.first < right.after ∧ right.first < left.after

instance (left right : Span) : Decidable (left.Meets right) := inferInstanceAs (Decidable (_ ∧ _))

/-- The hour of an instant. -/
def hourSpan (instant : Int) : Span := ⟨truncateHour instant, truncateHour instant + hour⟩

/-- From the first instant of a date to the last of another. -/
def Date.spanTo (first last : Date) : Span := ⟨first.start, last.start + dayLength⟩

/-- A date, or an hour of a date. -/
structure DateHour where
  date : Date
  hours : Option Nat
  hours_lt : ∀ clock ∈ hours, clock < 24

namespace DateHour

/-- What follows the date. -/
def mark : Option Nat → List Char
  | none => []
  | some clock => 'T' :: two clock

def text (moment : DateHour) : List Char := moment.date.text ++ mark moment.hours

/-- The first instant. -/
def first (moment : DateHour) : Int := moment.date.start + moment.hours.getD 0 * hour

/-- The first instant after it. -/
def after (moment : DateHour) : Int :=
  moment.first + if moment.hours.isSome then hour else dayLength

/-- From one date or hour to another, with both. -/
def spanTo (start stop : DateHour) : Span := ⟨start.first, stop.after⟩

/-- The clock of an hour is within its date. -/
theorem clock_lt (moment : DateHour) : moment.hours.getD 0 < 24 := by
  cases held : moment.hours with
  | none => decide
  | some clock => exact moment.hours_lt clock held

theorem text_ofDate (date : Date) : text ⟨date, none, nofun⟩ = date.text := List.append_nil _

end DateHour

/-! ### Dates and hours, read back -/

/-- A date that has a dash after its year, and no week, is in the calendar format. -/
theorem eq_text_of_dash {text : List Char} {date : Date} (read : isoDate text = some date)
    (dash : text[4]? = some '-') (other : text[5]? ≠ some 'W') : text = date.text := by
  rcases isoDate_cases read with same | ⟨rest, front, -, uncommon⟩
  · exact same
  · rw [front, List.getElem?_append_right (length_four _).le, length_four] at dash
    rw [front, List.getElem?_append_right (by rw [length_four]; decide), length_four] at other
    cases uncommon with
    | week after => exact absurd rfl other
    | basic later after =>
        obtain rfl := Option.some.inj dash
        exact absurd later (by decide)

/-- Two characters after the date are the hour. -/
theorem isoTime_two {first last : Char} {micros : Int} {offset : Option Int}
    (plain : ∀ c ∈ [first, last], c ≠ '+' ∧ c ≠ '-' ∧ c ≠ 'Z')
    (read : isoTime [first, last] = some (micros, offset)) :
    ∃ clock : Nat, [first, last] = two clock ∧ clock < 24 ∧ micros = clock * hour ∧
      offset = none := by
  have all : [first, last].takeWhile (fun c => c ≠ '+' ∧ c ≠ '-' ∧ c ≠ 'Z') = [first, last] :=
    List.takeWhile_eq_self_iff.2 fun c member => decide_eq_true (plain c member)
  rw [isoTime, all, List.drop_length] at read
  obtain ⟨parts, found, read⟩ := Option.bind_eq_some_iff.1 read
  obtain ⟨clock, spelled, same⟩ := Option.bind_eq_some_iff.1 found
  obtain rfl := Option.some.inj same
  split at read
  · next limits =>
    obtain ⟨rfl, rfl⟩ := Prod.mk.inj (Option.some.inj read)
    exact ⟨clock, eq_two spelled, limits.1, by simp [clockMicros], rfl⟩
  · cases read

/-- A calendar text of ten characters, or with an hour after them, is that of a date or hour. -/
theorem DateHour.exists_of_text {front back : List Char} {here : Int} {offset : Option Int}
    (ten : front.length = 10) (dash : front[4]? = some '-') (other : front[5]? ≠ some 'W')
    (tail : back = [] ∨ ∃ first last, back = ['T', first, last] ∧
      ∀ c ∈ [first, last], c ≠ '+' ∧ c ≠ '-' ∧ c ≠ 'Z')
    (read : fromIsoFormat (front ++ back) = some (here, offset)) :
    ∃ moment : DateHour, front ++ back = moment.text ∧ moment.first = here ∧ offset = none := by
  have length : dateLength (front ++ back) = 10 := by
    rw [dateLength, List.length_append, if_neg (by omega), List.getElem?_append_left (by omega),
      if_pos dash, List.getElem?_append_left (by omega), if_neg other]
  rw [fromIsoFormat, List.length_append, if_neg (by omega), length, List.take_left' ten,
    List.drop_left' ten] at read
  obtain ⟨date, found, read⟩ := Option.bind_eq_some_iff.1 read
  have written := eq_text_of_dash found dash other
  rw [written]
  rcases tail with rfl | ⟨first, last, rfl, plain⟩
  · obtain ⟨rfl, rfl⟩ := Prod.mk.inj (Option.some.inj read)
    exact ⟨⟨date, none, nofun⟩, rfl, by simp [DateHour.first], rfl⟩
  · obtain ⟨⟨micros, zone⟩, timed, same⟩ := Option.map_eq_some_iff.1 read
    obtain ⟨rfl, rfl⟩ := Prod.mk.inj same
    obtain ⟨clock, spelled, below, rfl, rfl⟩ := isoTime_two plain timed
    refine ⟨⟨date, some clock, fun _ held => Option.some.inj held ▸ below⟩, ?_, rfl, rfl⟩
    rw [DateHour.text, DateHour.mark, spelled]

/-! ### The order of calendar texts -/

/-- Texts are in the order of their numbers when each order of the numbers gives it to them. -/
theorem lt_iff_of_order {left right : List Char} {n m : Nat} (up : n < m → left < right)
    (down : m < n → right < left) (level : n = m → left = right) : left < right ↔ n < m := by
  refine ⟨fun lower => ?_, up⟩
  rcases lt_trichotomy n m with before | same | after
  · exact before
  · rw [level same] at lower
    exact absurd lower (List.lt_irrefl _)
  · exact absurd lower (List.lt_asymm (down after))

/-- The first fields decide, and the rest decides where they are the same. -/
theorem append_lt_iff {front front' back back' : List Char}
    (width : front.length = front'.length) :
    front ++ back < front' ++ back' ↔ front < front' ∨ front = front' ∧ back < back' := by
  refine ⟨fun lower => ?_, lt_append width⟩
  induction front generalizing front' with
  | nil =>
      obtain rfl := List.length_eq_zero_iff.1 width.symm
      exact .inr ⟨rfl, lower⟩
  | cons c front ih =>
      obtain ⟨d, rest, rfl⟩ := List.exists_cons_of_length_eq_add_one width.symm
      rw [List.length_cons, List.length_cons, Nat.add_right_cancel_iff] at width
      rw [List.cons_append, List.cons_append, List.cons_lt_cons_iff] at lower
      rcases lower with below | ⟨rfl, lower⟩
      · exact .inl (List.cons_lt_cons_iff.2 (.inl below))
      · rcases ih width lower with before | ⟨rfl, later⟩
        · exact .inl (List.cons_lt_cons_iff.2 (.inr ⟨rfl, before⟩))
        · exact .inr ⟨rfl, later⟩

theorem Date.text_lt_iff {first last : Date} : first.text < last.text ↔ first.days < last.days :=
  lt_iff_of_order Date.text_lt Date.text_lt fun same => by rw [Date.days_injective same]

theorem Date.text_inj {first last : Date} (same : first.text = last.text) : first = last := by
  have read := isoDate_text first
  rw [same, isoDate_text] at read
  exact (Option.some.inj read).symm

theorem two_lt_iff {n m : Nat} (small : n < 100) (small' : m < 100) : two n < two m ↔ n < m :=
  lt_iff_of_order (fun lower => two_lt lower small') (fun lower => two_lt lower small)
    fun same => by rw [same]

theorem four_lt_iff {n m : Nat} (small : n < 10000) (small' : m < 10000) :
    four n < four m ↔ n < m :=
  lt_iff_of_order (fun lower => four_lt lower small') (fun lower => four_lt lower small)
    fun same => by rw [same]

theorem four_inj {n m : Nat} (small : n < 10000) (small' : m < 10000) (same : four n = four m) :
    n = m := by
  have read := number_four small
  rw [same, number_four small'] at read
  exact (Option.some.inj read).symm

/-- Nothing is before an hour, and an hour before a later one. -/
theorem mark_lt_iff {first last : DateHour} :
    DateHour.mark first.hours < DateHour.mark last.hours ↔
      ∃ clock ∈ last.hours, ∀ earlier ∈ first.hours, earlier < clock := by
  obtain ⟨-, hours, small⟩ := first
  obtain ⟨-, hours', small'⟩ := last
  cases hours with
  | none => cases hours' <;> simp [DateHour.mark]
  | some earlier =>
      cases hours' with
      | none => simp [DateHour.mark]
      | some clock =>
          have below := small earlier rfl
          have below' := small' clock rfl
          have widths := @two_lt_iff earlier clock (by omega) (by omega)
          simp [DateHour.mark, widths]

/-- **The order of the texts of dates and hours.** -/
theorem DateHour.text_lt_iff {first last : DateHour} :
    first.text < last.text ↔ first.date.days < last.date.days ∨
      first.date.days = last.date.days ∧
        ∃ clock ∈ last.hours, ∀ earlier ∈ first.hours, earlier < clock := by
  rw [text, text, append_lt_iff (first.date.length_text.trans last.date.length_text.symm),
    Date.text_lt_iff, mark_lt_iff]
  refine or_congr_right (and_congr_left' ⟨congrArg Date.days ∘ Date.text_inj, fun same => ?_⟩)
  rw [Date.days_injective same]

/-! ### The order of the other formats -/

section Written

variable {moment : DateHour} {written : List Char} {date : Date}

/-- What follows the year in the text of a date or hour comes before what follows it elsewhere. -/
theorem rest_lt (uncommon : Uncommon written) {n : Nat} (rest : List Char) :
    '-' :: digit n :: rest < written := by
  cases uncommon with
  | week after =>
      refine List.cons_lt_cons_iff.2 (.inr ⟨rfl, List.cons_lt_cons_iff.2 (.inl ?_)⟩)
      rw [Char.lt_def, UInt32.lt_iff_toNat_lt]
      show (digit n).toNat < ('W').toNat
      have letter : ('W').toNat = 87 := rfl
      rw [toNat_digit]
      omega
  | basic later after => exact List.cons_lt_cons_iff.2 (.inl later)

theorem DateHour.text_eq_year (moment : DateHour) : ∃ n rest,
    moment.text = four moment.date.year ++ '-' :: digit n :: rest :=
  ⟨_, _, by rw [text, Date.text, List.append_assoc]; rfl⟩

/-- A text in another format follows the calendar texts of the year it begins with. -/
theorem lt_written (read : isoDate written = some date) (other : written ≠ date.text) :
    moment.text < written ↔ moment.date.year ≤ writtenYear written := by
  obtain ⟨rest, front, small, uncommon⟩ := (isoDate_cases read).resolve_left other
  obtain ⟨n, back, text⟩ := moment.text_eq_year
  have small' := moment.date.year_le
  have before := @rest_lt _ uncommon n back
  conv_lhs => rw [text, front]
  rw [append_lt_iff ((length_four _).trans (length_four _).symm), four_lt_iff (by omega) small,
    Nat.le_iff_lt_or_eq]
  refine or_congr_right ⟨fun same => four_inj (by omega) small same.1, fun same => ?_⟩
  exact ⟨by rw [same], before⟩

/-- A text in another format comes before the calendar texts of later years only. -/
theorem written_lt (read : isoDate written = some date) (other : written ≠ date.text) :
    written < moment.text ↔ writtenYear written < moment.date.year := by
  obtain ⟨rest, front, small, uncommon⟩ := (isoDate_cases read).resolve_left other
  obtain ⟨n, back, text⟩ := moment.text_eq_year
  have small' := moment.date.year_le
  have before := @rest_lt _ uncommon n back
  conv_lhs => rw [text, front]
  rw [append_lt_iff ((length_four _).trans (length_four _).symm), four_lt_iff small (by omega),
    or_iff_left_iff_imp]
  exact fun same => absurd same.2 (List.lt_asymm before)

end Written

end NewsCollect.Calendar
