/-
**Characters, digits and the shapes of short texts.**

The regular expressions of a validator are almost always a sequence of character classes, some of
them repeated between two bounds. `Text.shaped` matches a fixed sequence, `Text.bounded` a repeated
class and `Text.headed` a class followed by a repeated one; all three match the whole text.

* `Text.isDecimal`: Python's `\d`, the decimal digits of every script (Unicode 15).
* `Text.digit`, `Text.digitValue`: ASCII digits and their values, `Text.digitValue_digit`.
* `Text.number`, `Text.padded`: fixed-width decimal numbers, `Text.number_padded`.
* `Text.zfill`: Python's `str.zfill`.
* `Text.split_front`, `Text.split_back`: texts that a separator takes apart in one way.
* `Text.toString_int_injective`: a number is what is written.
-/

import Mathlib

namespace NewsCollect.Text

/-- The code points of the digit zero of every script. -/
def decimalZeros : List Nat :=
  [48, 1632, 1776, 1984, 2406, 2534, 2662, 2790, 2918, 3046, 3174, 3302, 3430, 3558, 3664, 3792,
    3872, 4160, 4240, 6112, 6160, 6470, 6608, 6784, 6800, 6992, 7088, 7232, 7248, 42528, 43216,
    43264, 43472, 43504, 43600, 44016, 65296, 66720, 68912, 69734, 69872, 69942, 70096, 70384,
    70736, 70864, 71248, 71360, 71472, 71904, 72016, 72784, 73040, 73120, 73552, 92768, 92864,
    93008, 120782, 120792, 120802, 120812, 120822, 123200, 123632, 124144, 125264, 130032]

/-- A decimal digit of any script. -/
def isDecimal (c : Char) : Bool :=
  decimalZeros.any fun zero => zero ≤ c.toNat && c.toNat < zero + 10

/-- The value of a decimal digit of any script. -/
def decimalValue (c : Char) : Option Nat :=
  (decimalZeros.find? fun zero => zero ≤ c.toNat && c.toNat < zero + 10).map (c.toNat - ·)

/-- An ASCII digit. -/
def isDigit (c : Char) : Bool := 48 ≤ c.toNat && c.toNat < 58

/-- An ASCII capital letter. -/
def isUpper (c : Char) : Bool := 65 ≤ c.toNat && c.toNat ≤ 90

/-- An ASCII small letter. -/
def isLower (c : Char) : Bool := 97 ≤ c.toNat && c.toNat ≤ 122

/-- One of these characters. -/
def oneOf (set : String) (c : Char) : Bool := set.toList.contains c

/-- The text is one character of each class, in order. -/
def shaped : List (Char → Bool) → List Char → Bool
  | [], [] => true
  | member :: members, c :: text => member c && shaped members text
  | _, _ => false

/-- The text is between so many characters of the class. -/
def bounded (member : Char → Bool) (least most : Nat) (text : List Char) : Bool :=
  least ≤ text.length && text.length ≤ most && text.all member

/-- The text is a character of the first class and at most so many of the second. -/
def headed (first rest : Char → Bool) (most : Nat) : List Char → Bool
  | [] => false
  | c :: text => first c && bounded rest 0 most text

/-- The small ASCII letter a case-insensitive pattern takes a character for: the capital letters,
and the four other characters whose case folds to an ASCII letter. -/
def foldCase (c : Char) : Char :=
  if isUpper c then Char.ofNat (c.toNat + 32)
  else if c.toNat = 0x130 ∨ c.toNat = 0x131 then 'i'
  else if c.toNat = 0x17F then 's'
  else if c.toNat = 0x212A then 'k'
  else c

/-- The text has this word somewhere. -/
def contains (word text : List Char) : Bool := text.tails.any word.isPrefixOf

/-- The text has one of these words somewhere, whatever the case of its letters. -/
def containsAny (words : List String) (text : List Char) : Bool :=
  words.any fun word => contains word.toList (text.map foldCase)

/-! ### Shapes, part by part -/

section Shapes

attribute [local simp] shaped

theorem shaped_append {first second : List (Char → Bool)} {text : List Char} :
    shaped (first ++ second) text = true ↔
      ∃ front back, text = front ++ back ∧ shaped first front = true ∧
        shaped second back = true := by
  induction first generalizing text with
  | nil =>
      constructor
      · intro holds
        exact ⟨[], text, rfl, rfl, holds⟩
      · rintro ⟨front, back, rfl, holds, rest⟩
        cases front with
        | nil => exact rest
        | cons c front => simp at holds
  | cons member members ih =>
      cases text with
      | nil =>
          simp only [List.cons_append, shaped]
          refine iff_of_false (by simp) ?_
          rintro ⟨front, back, empty, holds, -⟩
          obtain ⟨rfl, rfl⟩ := List.append_eq_nil_iff.1 empty.symm
          simp at holds
      | cons c text =>
          simp only [List.cons_append, shaped, Bool.and_eq_true, ih]
          constructor
          · rintro ⟨inside, front, back, rfl, holds, rest⟩
            exact ⟨c :: front, back, rfl, by simp [inside, holds], rest⟩
          · rintro ⟨front, back, equal, holds, rest⟩
            cases front with
            | nil => simp at holds
            | cons c' front =>
                obtain ⟨rfl, rfl⟩ := List.cons.inj equal
                simp only [shaped, Bool.and_eq_true] at holds
                exact ⟨holds.1, front, back, rfl, holds.2, rest⟩

/-- The shape of a text whose front is as long as the first shape. -/
theorem shaped_append_iff {first second : List (Char → Bool)} {front back : List Char}
    (long : front.length = first.length) :
    shaped (first ++ second) (front ++ back) = true ↔
      shaped first front = true ∧ shaped second back = true := by
  induction first generalizing front with
  | nil =>
      rw [List.length_nil, List.length_eq_zero_iff] at long
      subst long
      simp
  | cons member members ih =>
      cases front with
      | nil => simp at long
      | cons c front =>
          rw [List.cons_append, List.cons_append, shaped, shaped, Bool.and_eq_true,
            Bool.and_eq_true, ih (by simpa using long), and_assoc]

/-- A fixed word matches itself only. -/
theorem shaped_word {word text : List Char} :
    shaped (word.map fun c => (· == c)) text = true ↔ text = word := by
  induction word generalizing text with
  | nil => cases text <;> simp
  | cons c word ih => cases text <;> simp [ih]

/-- A class repeated so many times. -/
theorem shaped_replicate {member : Char → Bool} {count : Nat} {text : List Char} :
    shaped (List.replicate count member) text = true ↔
      text.length = count ∧ text.all member = true := by
  induction count generalizing text with
  | zero => cases text <;> simp
  | succ count ih =>
      cases text with
      | nil => simp [List.replicate_succ]
      | cons c text =>
          simp only [List.replicate_succ, shaped, Bool.and_eq_true, ih, List.length_cons,
            Nat.add_right_cancel_iff, List.all_cons]
          tauto

theorem shaped_nil {text : List Char} : shaped [] text = true ↔ text = [] := by
  cases text <;> simp

theorem shaped_cons {member : Char → Bool} {members : List (Char → Bool)} {text : List Char} :
    shaped (member :: members) text = true ↔
      ∃ c rest, text = c :: rest ∧ member c = true ∧ shaped members rest = true := by
  cases text <;> simp

theorem length_of_shaped {members : List (Char → Bool)} {text : List Char}
    (holds : shaped members text = true) : text.length = members.length := by
  induction members generalizing text with
  | nil => cases text <;> simp_all
  | cons member members ih =>
      cases text with
      | nil => simp at holds
      | cons c text =>
          simp only [shaped, Bool.and_eq_true] at holds
          simp [ih holds.2]

/-- A character of a text of this shape is of one of the classes. -/
theorem exists_of_shaped {members : List (Char → Bool)} {text : List Char}
    (holds : shaped members text = true) : ∀ c ∈ text, ∃ member ∈ members, member c = true := by
  induction members generalizing text with
  | nil =>
      cases text with
      | nil => exact fun c member => absurd member List.not_mem_nil
      | cons c text => simp at holds
  | cons member members ih =>
      cases text with
      | nil => simp at holds
      | cons c text =>
          simp only [shaped, Bool.and_eq_true] at holds
          refine List.forall_mem_cons.2 ⟨⟨member, List.mem_cons_self .., holds.1⟩, fun d later => ?_⟩
          obtain ⟨other, listed, inside⟩ := ih holds.2 d later
          exact ⟨other, List.mem_cons_of_mem _ listed, inside⟩

end Shapes

theorem isDecimal_of_isDigit {c : Char} (digit : isDigit c = true) : isDecimal c = true := by
  simp only [isDigit, Bool.and_eq_true, decide_eq_true_eq] at digit
  simp only [isDecimal, decimalZeros, List.any_cons, Bool.or_eq_true, Bool.and_eq_true,
    decide_eq_true_eq]
  exact .inl digit

/-! ### Digits and fixed-width numbers -/

/-- The ASCII digit of a number below ten. -/
def digit (n : Nat) : Char := Char.ofNat (48 + n % 10)

/-- The value of an ASCII digit. -/
def digitValue (c : Char) : Option Nat := if isDigit c then some (c.toNat - 48) else none

theorem toNat_digit (n : Nat) : (digit n).toNat = 48 + n % 10 := by
  have below : n % 10 < 10 := Nat.mod_lt _ (by decide)
  unfold digit
  generalize n % 10 = k at below
  interval_cases k <;> rfl

@[simp] theorem isDigit_digit (n : Nat) : isDigit (digit n) = true := by
  have below : n % 10 < 10 := Nat.mod_lt _ (by decide)
  simp only [isDigit, toNat_digit, Bool.and_eq_true, decide_eq_true_eq]
  omega

@[simp] theorem digitValue_digit (n : Nat) : digitValue (digit n) = some (n % 10) := by
  simp [digitValue, toNat_digit]

/-- The number these digits spell. -/
def number (text : List Char) : Option Nat :=
  text.foldl (fun total c => total.bind fun value =>
    (digitValue c).map fun held => value * 10 + held) (some 0)

/-- A number in two digits. -/
def two (n : Nat) : List Char := [digit (n / 10), digit n]

/-- A number in four digits. -/
def four (n : Nat) : List Char := [digit (n / 1000), digit (n / 100), digit (n / 10), digit n]

theorem number_two {n : Nat} (below : n < 100) : number (two n) = some n := by
  simp only [number, two, List.foldl, digitValue_digit, Option.bind_some, Option.map_some,
    Option.some.injEq]
  omega

theorem number_four {n : Nat} (below : n < 10000) : number (four n) = some n := by
  simp only [number, four, List.foldl, digitValue_digit, Option.bind_some, Option.map_some,
    Option.some.injEq]
  omega

/-! ### Padding -/

/-- `str.zfill`: zeros on the left up to the width, after a sign. -/
def zfill (width : Nat) (text : List Char) : List Char :=
  match text with
  | c :: rest =>
      if c = '+' ∨ c = '-' then c :: (List.replicate (width - text.length) '0' ++ rest)
      else List.replicate (width - text.length) '0' ++ text
  | [] => List.replicate width '0'

/-- A text that is wide enough is left as it is. -/
theorem zfill_of_le {width : Nat} {text : List Char} (wide : width ≤ text.length) :
    zfill width text = text := by
  cases text with
  | nil =>
      have : width = 0 := by simpa using wide
      simp [zfill, this]
  | cons c rest =>
      have none : width - (rest.length + 1) = 0 := by
        simp only [List.length_cons] at wide
        omega
      by_cases signed : c = '+' ∨ c = '-' <;> simp [zfill, signed, none]

theorem length_zfill {width : Nat} {text : List Char} (narrow : text.length ≤ width) :
    (zfill width text).length = width := by
  cases text with
  | nil => simp [zfill]
  | cons c rest =>
      simp only [List.length_cons] at narrow
      by_cases signed : c = '+' ∨ c = '-'
      · simp only [zfill, signed, if_true, List.length_cons, List.length_append,
          List.length_replicate]
        omega
      · simp only [zfill, signed, if_false, List.length_cons, List.length_append,
          List.length_replicate]
        omega

/-- A class that has the digit zero survives the padding. -/
theorem all_zfill {member : Char → Bool} {width : Nat} {text : List Char}
    (zero : member '0' = true) (holds : text.all member = true) :
    (zfill width text).all member = true := by
  cases text with
  | nil => simp [zfill, zero]
  | cons c rest =>
      simp only [List.all_cons, Bool.and_eq_true] at holds
      by_cases signed : c = '+' ∨ c = '-' <;>
        simpa [zfill, signed, List.all_append, holds.1, zero] using List.all_eq_true.1 holds.2

/-! ### Separators -/

section Separators

variable {α : Type} {sep : α} {front front' back back' : List α}

/-- A text is taken apart in one way at the first separator. -/
theorem split_front (clean : sep ∉ front) (clean' : sep ∉ front')
    (same : front ++ sep :: back = front' ++ sep :: back') : front = front' ∧ back = back' := by
  induction front generalizing front' with
  | nil =>
      cases front' with
      | nil => exact ⟨rfl, (List.cons.inj same).2⟩
      | cons c rest => exact absurd ((List.cons.inj same).1 ▸ List.mem_cons_self) clean'
  | cons c front ih =>
      cases front' with
      | nil => exact absurd ((List.cons.inj same).1 ▸ List.mem_cons_self) clean
      | cons c' front' =>
          obtain ⟨rfl, rest⟩ := List.cons.inj same
          obtain ⟨rfl, rfl⟩ := ih (List.not_mem_of_not_mem_cons clean)
            (List.not_mem_of_not_mem_cons clean') rest
          exact ⟨rfl, rfl⟩

/-- A text is taken apart in one way at the last separator. -/
theorem split_back (clean : sep ∉ back) (clean' : sep ∉ back')
    (same : front ++ sep :: back = front' ++ sep :: back') : front = front' ∧ back = back' := by
  have mirrored := congrArg List.reverse same
  simp only [List.reverse_append, List.reverse_cons, List.append_assoc, List.singleton_append]
    at mirrored
  obtain ⟨backs, fronts⟩ := split_front (mt List.mem_reverse.1 clean)
    (mt List.mem_reverse.1 clean') mirrored
  exact ⟨List.reverse_injective fronts, List.reverse_injective backs⟩

/-- No separator other than a sign is written in a number. -/
theorem mem_toString_int {n : Int} {c : Char} (member : c ∈ (toString n).toList) :
    c = '-' ∨ c.isDigit = true := by
  have digits : ∀ {m : Nat}, c ∈ m.repr.toList → c.isDigit = true := fun inside => by
    rw [Nat.toList_repr] at inside
    exact Nat.isDigit_of_mem_toDigits (by omega) (by omega) inside
  rw [Int.toString_eq_repr, Int.repr_eq_if] at member
  split at member
  · exact .inr (digits member)
  · rw [String.toList_append, List.mem_append] at member
    rcases member with sign | digit
    · exact .inl (List.mem_singleton.1 sign)
    · exact .inr (digits digit)

theorem repr_injective : Function.Injective Nat.repr := by
  intro first second same
  have digits := congrArg String.toList same
  rw [Nat.toList_repr, Nat.toList_repr] at digits
  rw [← @Nat.ofDigitChars_ten_toDigits first, digits, Nat.ofDigitChars_ten_toDigits]

/-- A number is what is written. -/
theorem toString_int_injective : Function.Injective (toString : Int → String) := by
  have unsigned : ∀ m n : Nat, m.repr ≠ "-" ++ n.repr := by
    intro m n same
    have sign : '-' ∈ m.repr.toList := by
      rw [same, String.toList_append]
      exact List.mem_append_left _ (List.mem_singleton_self _)
    rw [Nat.toList_repr] at sign
    exact absurd (Nat.isDigit_of_mem_toDigits (by omega) (by omega) sign) (by decide)
  intro first second same
  rw [Int.toString_eq_repr, Int.toString_eq_repr, Int.repr_eq_if, Int.repr_eq_if] at same
  split at same
  · split at same
    · have equal := repr_injective same
      omega
    · exact absurd same (unsigned _ _)
  · split at same
    · exact absurd same.symm (unsigned _ _)
    · have equal := repr_injective (String.append_right_inj _ |>.1 same)
      omega

end Separators

end NewsCollect.Text
