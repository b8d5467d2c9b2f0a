/-
**ISO 8601 texts are ordered as the instants they denote.**

The fields of a text of an instant in UTC have fixed widths, from the year to the second, and a
fraction follows a whole second in the order of the characters as it does in time.

* `lt_append`: the order of two texts whose first fields have one width.
* `Date.text_lt`, `clockText_lt`: dates and times of day.
* `isoFormat_lt_iff`: instants.
-/

import NewsCollect.Library.IsoFormat

namespace NewsCollect.Calendar

open Text

/-- The first fields decide, and the rest decides where they are the same. -/
theorem lt_append {front front' back back' : List Char} (width : front.length = front'.length)
    (later : front < front' ∨ front = front' ∧ back < back') : front ++ back < front' ++ back' := by
  induction front generalizing front' with
  | nil =>
      obtain rfl := List.length_eq_zero_iff.1 width.symm
      rcases later with impossible | ⟨-, further⟩
      · exact absurd impossible (List.lt_irrefl [])
      · exact further
  | cons c front ih =>
      obtain ⟨d, rest, rfl⟩ := List.exists_cons_of_length_eq_add_one width.symm
      simp only [List.length_cons, Nat.add_right_cancel_iff] at width
      rw [List.cons_append, List.cons_append, List.cons_lt_cons_iff]
      rcases later with first | ⟨same, further⟩
      · rcases List.cons_lt_cons_iff.1 first with lower | ⟨rfl, next⟩
        · exact .inl lower
        · exact .inr ⟨rfl, ih width (.inl next)⟩
      · obtain ⟨rfl, rfl⟩ := List.cons.inj same
        exact .inr ⟨rfl, ih width (.inr ⟨rfl, further⟩)⟩

/-! ### Numbers -/

theorem digit_lt {n m : Nat} (lower : n % 10 < m % 10) : digit n < digit m := by
  rw [Char.lt_def, UInt32.lt_iff_toNat_lt]
  show (digit n).toNat < (digit m).toNat
  rw [toNat_digit, toNat_digit]
  omega

theorem digit_congr {n m : Nat} (same : n % 10 = m % 10) : digit n = digit m := by
  rw [digit, digit, same]

theorem two_lt {n m : Nat} (lower : n < m) (small : m < 100) : two n < two m := by
  rw [two, two, List.cons_lt_cons_iff]
  by_cases tens : n / 10 = m / 10
  · refine .inr ⟨digit_congr (by rw [tens]), List.cons_lt_cons_iff.2 (.inl (digit_lt ?_))⟩
    omega
  · refine .inl (digit_lt ?_)
    omega

theorem four_lt {n m : Nat} (lower : n < m) (small : m < 10000) : four n < four m := by
  have halves : ∀ k, four k = two (k / 100) ++ two (k % 100) := by
    intro k
    have thousands : k / 100 / 10 = k / 1000 := by omega
    have tens : digit (k % 100 / 10) = digit (k / 10) := digit_congr (by omega)
    have ones : digit (k % 100) = digit k := digit_congr (by omega)
    simp only [four, two, List.cons_append, List.nil_append, thousands, tens, ones]
  rw [halves, halves]
  refine lt_append rfl ?_
  by_cases hundreds : n / 100 = m / 100
  · refine .inr ⟨by rw [hundreds], two_lt ?_ ?_⟩ <;> omega
  · refine .inl (two_lt ?_ ?_) <;> omega

theorem six_lt {n m : Nat} (lower : n < m) (small : m < 1000000) : six n < six m := by
  refine lt_append rfl ?_
  by_cases high : n / 10000 = m / 10000
  · refine .inr ⟨by rw [high], four_lt ?_ ?_⟩ <;> omega
  · refine .inl (two_lt ?_ ?_) <;> omega

/-! ### Dates -/

/-- An earlier day is in an earlier year, or in an earlier month of the same year, or earlier in
the same month. -/
theorem Date.lt_of_days_lt {first last : Date} (earlier : first.days < last.days) :
    first.year < last.year ∨ first.year = last.year ∧ (first.month < last.month ∨
      first.month = last.month ∧ first.day < last.day) := by
  have lastYear := last.day_of_year_lt
  have positive := first.day_pos
  unfold days at earlier
  rcases lt_trichotomy first.year last.year with before | years | after
  · exact .inl before
  · refine .inr ⟨years, ?_⟩
    have lastDay : last.day ≤ monthLength (isLeap last.year) last.month := last.day_le
    rw [years] at earlier
    rcases lt_trichotomy first.month last.month with before | months | after
    · exact .inl before
    · refine .inr ⟨months, ?_⟩
      rw [months] at earlier
      omega
    · have apart := daysBeforeMonth_le (isLeap last.year) last.month_pos after
      omega
  · have apart := daysBeforeYear_le last.year_pos after
    omega

theorem Date.text_lt {first last : Date} (earlier : first.days < last.days) :
    first.text < last.text := by
  have year := last.year_le
  have month := last.month_le
  have day : last.day < 100 := by
    have limit := last.day_le
    have most : daysInMonth last.year last.month ≤ 31 := by
      unfold daysInMonth monthLength
      split <;> (try split) <;> decide
    omega
  simp only [Date.text, List.append_assoc, List.cons_append]
  refine lt_append rfl ?_
  rcases lt_of_days_lt earlier with years | ⟨years, rest⟩
  · exact .inl (four_lt years (by omega))
  · refine .inr ⟨by rw [years], List.cons_lt_cons_iff.2 (.inr ⟨rfl, lt_append rfl ?_⟩)⟩
    rcases rest with months | ⟨months, days⟩
    · exact .inl (two_lt months (by omega))
    · exact .inr ⟨by rw [months], List.cons_lt_cons_iff.2 (.inr ⟨rfl, two_lt days day⟩)⟩

/-! ### Times of day -/

/-- A later time of day has a later text, whatever zone follows it with a plus. -/
theorem clockText_lt {first last : Nat} (earlier : first < last) (inside : last < 86400000000)
    (zone : List Char) : clockText first ++ '+' :: zone < clockText last ++ '+' :: zone := by
  have plus : ('+' : Char) < '.' := by decide
  simp only [clockText, List.append_assoc, List.cons_append]
  refine lt_append rfl ?_
  by_cases hours : first / 3600000000 = last / 3600000000
  · refine .inr ⟨by rw [hours], List.cons_lt_cons_iff.2 (.inr ⟨rfl, lt_append rfl ?_⟩)⟩
    by_cases minutes : first / 60000000 % 60 = last / 60000000 % 60
    · refine .inr ⟨by rw [minutes], List.cons_lt_cons_iff.2 (.inr ⟨rfl, lt_append rfl ?_⟩)⟩
      by_cases seconds : first / 1000000 % 60 = last / 1000000 % 60
      · have fractions : first % 1000000 < last % 1000000 := by omega
        refine .inr ⟨by rw [seconds], ?_⟩
        rw [if_neg (show last % 1000000 ≠ 0 by omega)]
        by_cases whole : first % 1000000 = 0
        · rw [if_pos whole]
          exact List.cons_lt_cons_iff.2 (.inl plus)
        · rw [if_neg whole]
          refine List.cons_lt_cons_iff.2 (.inr ⟨rfl, lt_append rfl (.inl (six_lt fractions ?_))⟩)
          omega
      · exact .inl (two_lt (by omega) (by omega))
    · exact .inl (two_lt (by omega) (by omega))
  · exact .inl (two_lt (by omega) (by omega))

/-! ### Instants -/

theorem isoFormat_lt {first last : Int} (earlier : first < last) (inside : inRange first = true)
    (inside' : inRange last = true) : isoFormat first 0 < isoFormat last 0 := by
  obtain ⟨day, found, start⟩ := dateOf_of_inRange inside
  obtain ⟨day', found', start'⟩ := dateOf_of_inRange inside'
  have zone : offsetText 0 = '+' :: "00:00".toList := by decide
  rw [isoFormat, isoFormat, dayText, dayText, found, found', zone, Option.map_some,
    Option.getD_some, Option.map_some, Option.getD_some, List.append_assoc, List.append_assoc]
  rw [Date.start, truncateDay, dayLength_eq] at start start'
  refine lt_append (day.length_text.trans day'.length_text.symm) ?_
  by_cases same : day.days = day'.days
  · refine .inr ⟨by rw [Date.days_injective same], ?_⟩
    rw [List.cons_append, List.cons_append]
    refine List.cons_lt_cons_iff.2 (.inr ⟨rfl, clockText_lt ?_ ?_ _⟩)
    · rw [dayLength_eq]
      omega
    · rw [dayLength_eq]
      omega
  · exact .inl (Date.text_lt (by omega))

/-- **The texts of instants are in the order of the instants.** -/
theorem isoFormat_lt_iff {first last : Int} (inside : inRange first = true)
    (inside' : inRange last = true) : isoFormat first 0 < isoFormat last 0 ↔ first < last := by
  refine ⟨fun earlier => ?_, fun earlier => isoFormat_lt earlier inside inside'⟩
  by_contra later
  rcases (not_lt.1 later).lt_or_eq with before | rfl
  · exact absurd earlier (List.lt_asymm (isoFormat_lt before inside' inside))
  · exact absurd earlier (List.lt_irrefl _)

end NewsCollect.Calendar
