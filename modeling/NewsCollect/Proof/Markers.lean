/-
**Markers and the case of letters.**

A symbol is looked at for secret markers before it is put into capitals. Some letters are spelled
out in capitals, so that a text without a marker can become one.

* `upper_foldCase`: a text in capitals is the text spelled out, but for case.
* `spellings`, `containsAny_upper`: the texts that become a marker are those with one of four words.
* `containsAny_of_part`, `containsAny_append_cons`, `containsAny_collapse`: markers in the parts of a
  text.
-/

import NewsCollect.Library.Spelling
import NewsCollect.SafeProjection.Contracts

namespace NewsCollect.SafeProjection

open Text

/-! ### Words in a text -/

theorem contains_iff {word text : List Char} : contains word text = true ↔ word <:+: text := by
  rw [contains, List.any_eq_true, List.infix_iff_prefix_suffix]
  constructor
  · rintro ⟨ending, member, begins⟩
    exact ⟨ending, List.isPrefixOf_iff_prefix.1 begins, (List.mem_tails _ _).1 member⟩
  · rintro ⟨ending, begins, suffix⟩
    exact ⟨ending, (List.mem_tails _ _).2 suffix, List.isPrefixOf_iff_prefix.2 begins⟩

theorem containsAny_iff {words : List String} {text : List Char} :
    containsAny words text = true ↔ ∃ word ∈ words, word.toList <:+: text.map foldCase := by
  simp only [containsAny, List.any_eq_true, contains_iff]

/-- A word in a part of a text is in the text. -/
theorem containsAny_of_part {words : List String} {part text : List Char} (inside : part <:+: text)
    (held : containsAny words part = true) : containsAny words text = true := by
  obtain ⟨word, member, within⟩ := containsAny_iff.1 held
  exact containsAny_iff.2 ⟨word, member, within.trans (inside.map foldCase)⟩

/-- A word without the mark is on one side of it. -/
theorem infix_append_cons {word left right : List Char} {mark : Char} (absent : mark ∉ word) :
    word <:+: left ++ mark :: right ↔ word <:+: left ∨ word <:+: right := by
  constructor
  · intro inside
    rcases List.infix_append_iff.1 inside with first | rest | ⟨front, back, rfl, ends, begins⟩
    · exact .inl first
    · rcases List.infix_cons_iff.1 rest with begins | later
      · rcases List.prefix_cons_iff.1 begins with rfl | ⟨tail, rfl, -⟩
        · exact .inl List.nil_infix
        · exact absurd (List.mem_cons_self ..) absent
      · exact .inr later
    · rcases List.prefix_cons_iff.1 begins with rfl | ⟨tail, rfl, -⟩
      · rw [List.append_nil]
        exact .inl ends.isInfix
      · exact absurd (List.mem_append_right _ (List.mem_cons_self ..)) absent
  · rintro (first | rest)
    · exact List.infix_append_of_infix_left first
    · exact List.infix_append_of_infix_right (rest.trans (List.suffix_cons mark right).isInfix)

/-- **A mark that is in no word keeps two texts apart.** -/
theorem containsAny_append_cons {words : List String} {left right : List Char} {mark : Char}
    (absent : ∀ word ∈ words, foldCase mark ∉ word.toList) :
    containsAny words (left ++ mark :: right) =
      (containsAny words left || containsAny words right) := by
  rw [Bool.eq_iff_iff, Bool.or_eq_true, containsAny_iff, containsAny_iff, containsAny_iff,
    List.map_append, List.map_cons]
  constructor
  · rintro ⟨word, member, inside⟩
    rcases (infix_append_cons (absent word member)).1 inside with first | rest
    · exact .inl ⟨word, member, first⟩
    · exact .inr ⟨word, member, rest⟩
  · rintro (⟨word, member, inside⟩ | ⟨word, member, inside⟩)
    · exact ⟨word, member, (infix_append_cons (absent word member)).2 (.inl inside)⟩
    · exact ⟨word, member, (infix_append_cons (absent word member)).2 (.inr inside)⟩

/-- A word is in one of the texts that are joined by a mark it does not have. -/
theorem exists_of_containsAny_intercalate {words : List String} {mark : Char}
    (absent : ∀ word ∈ words, foldCase mark ∉ word.toList) (parts : List (List Char))
    (some : ∀ word ∈ words, word.toList ≠ [])
    (held : containsAny words ([mark].intercalate parts) = true) :
    ∃ part ∈ parts, containsAny words part = true := by
  induction parts with
  | nil =>
      obtain ⟨word, member, inside⟩ := containsAny_iff.1 held
      have empty : word.toList <:+: [] := inside
      exact absurd (List.infix_nil.1 empty) (some word member)
  | cons part parts ih =>
      cases parts with
      | nil =>
          rw [intercalate_singleton] at held
          exact ⟨part, List.mem_singleton.2 rfl, held⟩
      | cons next parts =>
          rw [intercalate_cons_cons, containsAny_append_cons absent, Bool.or_eq_true] at held
          rcases held with first | rest
          · exact ⟨part, List.mem_cons_self .., first⟩
          · obtain ⟨other, member, inside⟩ := ih rest
            exact ⟨other, List.mem_cons_of_mem _ member, inside⟩

/-- Whitespace that is collapsed makes no marker. -/
theorem containsAny_collapse {text : List Char} (clean : containsAny markers text = false) :
    containsAny markers (collapse text) = false := by
  refine Bool.eq_false_iff.2 fun held => ?_
  obtain ⟨part, member, inside⟩ :=
    exists_of_containsAny_intercalate (by decide) _ (by decide) held
  exact Bool.false_ne_true (clean.symm.trans (containsAny_of_part (infix_of_mem_pieces member) inside))

/-- Only the letters matter, not their case. -/
theorem containsAny_congr {words : List String} {text other : List Char}
    (same : text.map foldCase = other.map foldCase) :
    containsAny words text = containsAny words other := by
  rw [containsAny, containsAny, same]

/-- A text that has none of these letters has no marker, where every marker has one. -/
theorem containsAny_markers_of_forall (letters : List Char)
    (lettered : (markers.all fun word => letters.any word.toList.contains) = true)
    {text : List Char} (none : ∀ c ∈ text, letters.contains (foldCase c) = false) :
    containsAny markers text = false := by
  rw [Bool.eq_false_iff]
  intro held
  obtain ⟨word, member, within⟩ := containsAny_iff.1 held
  obtain ⟨other, listed, inside⟩ := List.any_eq_true.1 (List.all_eq_true.1 lettered word member)
  obtain ⟨c, held, rfl⟩ := List.mem_map.1 (within.subset (List.contains_iff_mem.1 inside))
  exact Bool.false_ne_true ((none c held).symm.trans (List.contains_iff_mem.2 listed))

/-- The case of a digit of any script is its own. -/
theorem foldCase_of_isDecimal {c : Char} (decimal : isDecimal c = true) : foldCase c = c := by
  have others : ∀ n ∈ (List.range 26).map (65 + ·) ++ [0x130, 0x131, 0x17F, 0x212A],
      (decimalZeros.any fun zero => zero ≤ n && n < zero + 10) = false := by decide
  have absent : c.toNat ∉ (List.range 26).map (65 + ·) ++ [0x130, 0x131, 0x17F, 0x212A] :=
    fun listed => Bool.false_ne_true ((others _ listed).symm.trans decimal)
  simp only [List.mem_append, List.mem_map, List.mem_range, List.mem_cons, List.not_mem_nil,
    or_false, not_or, not_exists, not_and] at absent
  obtain ⟨capital, first, second, third, fourth⟩ := absent
  have small : isUpper c = false := by
    refine Bool.eq_false_iff.2 fun upper => ?_
    simp only [isUpper, Bool.and_eq_true, decide_eq_true_eq] at upper
    exact capital (c.toNat - 65) (by omega) (by omega)
  simp [foldCase, small, first, second, third, fourth]

/-- Digits of any script have no marker. -/
theorem containsAny_of_decimal {text : List Char} (decimal : ∀ c ∈ text, isDecimal c = true) :
    containsAny markers text = false := by
  refine containsAny_markers_of_forall ['a', 'o', 's'] (by decide) fun c member => ?_
  have letters : (['a', 'o', 's'].all fun other => !isDecimal other) = true := by decide
  rw [foldCase_of_isDecimal (decimal c member), Bool.eq_false_iff]
  intro listed
  have none := List.all_eq_true.1 letters c (List.contains_iff_mem.1 listed)
  rw [decimal c member] at none
  exact absurd none nofun

/-! ### Letters that are spelled out -/

/-- The letters that are several capitals, and what they are spelled as. -/
def ligatures : List (Char × List Char) :=
  [('ß', ['s', 's']), ('ﬀ', ['f', 'f']), ('ﬁ', ['f', 'i']), ('ﬂ', ['f', 'l']),
    ('ﬃ', ['f', 'f', 'i']), ('ﬄ', ['f', 'f', 'l']), ('ﬅ', ['s', 't']), ('ﬆ', ['s', 't'])]

/-- The spellings of a marker that are none in small letters. -/
def spellings : List String := ["paßword", "ßecret", "ﬅoken", "ﬆoken"]

theorem upperChar_foldCase {c : Char} {letters : List Char} (spelled : upperChar c = some letters) :
    letters.map foldCase = Spelling.image ligatures (foldCase c) := by
  have narrow : ∀ n : Fin 128, (upperChar (Char.ofNat n)).map (List.map foldCase) =
      some (Spelling.image ligatures (foldCase (Char.ofNat n))) := by decide
  have special : ∀ entry ∈ upperSpecials, entry.2.map foldCase =
      Spelling.image ligatures (foldCase (Char.ofNat entry.1)) := by decide
  by_cases small : c.toNat < 128
  · have known := narrow ⟨c.toNat, small⟩
    rw [Char.ofNat_toNat, spelled] at known
    exact Option.some.inj known
  · have wide : isLower c = false := by
      simp only [isLower, Bool.and_eq_false_iff, decide_eq_false_iff_not]
      omega
    rw [upperChar, wide, if_neg Bool.false_ne_true, if_neg small] at spelled
    have known := special _ (Spelling.mem_of_lookup spelled)
    rwa [Char.ofNat_toNat] at known

theorem upper_cons {c : Char} {text result : List Char} (spelled : upper (c :: text) = some result) :
    ∃ letters rest, upperChar c = some letters ∧ upper text = some rest ∧
      result = letters ++ rest := by
  simp only [upper, List.mapM_cons, Option.map_eq_some_iff, Option.bind_eq_bind,
    Option.bind_eq_some_iff] at spelled
  obtain ⟨_, ⟨letters, first, parts, later, same⟩, rfl⟩ := spelled
  obtain rfl := Option.some.inj same
  exact ⟨letters, parts.flatten, first, by rw [upper, later, Option.map_some], rfl⟩

/-- **A text in capitals is the text spelled out**, but for the case of its letters. -/
theorem upper_foldCase {text result : List Char} (spelled : upper text = some result) :
    result.map foldCase = Spelling.expand ligatures (text.map foldCase) := by
  induction text generalizing result with
  | nil =>
      simp only [upper, List.mapM_nil, Option.map_eq_some_iff] at spelled
      obtain ⟨_, same, rfl⟩ := spelled
      obtain rfl := Option.some.inj same
      rfl
  | cons c text ih =>
      obtain ⟨letters, rest, first, later, rfl⟩ := upper_cons spelled
      rw [List.map_append, upperChar_foldCase first, ih later]
      simp [Spelling.expand]

/-- **What becomes a marker in capitals**: a marker, or one of its spellings. -/
theorem containsAny_upper {text result : List Char} (spelled : upper text = some result) :
    containsAny markers result = true ↔
      containsAny markers text = true ∨ containsAny spellings text = true := by
  have before : ∀ word ∈ markers, ∀ part ∈ Spelling.preimages ligatures word.toList,
      (∃ marker ∈ markers, contains marker.toList part = true) ∨
        ∃ spelling ∈ spellings, contains spelling.toList part = true := by decide +kernel
  have after : ∀ spelling ∈ markers ++ spellings, ∃ marker ∈ markers,
      contains marker.toList (Spelling.expand ligatures spelling.toList) = true := by
    decide +kernel
  have letters : ∀ word ∈ markers, word.toList ≠ [] := by decide
  constructor
  · intro held
    obtain ⟨word, member, within⟩ := containsAny_iff.1 held
    rw [upper_foldCase spelled] at within
    obtain ⟨part, known, inside⟩ := Spelling.exists_preimage (by decide) word.toList _ within
      (letters word member)
    rcases before word member part known with ⟨marker, listed, held⟩ | ⟨spelling, listed, held⟩
    · exact .inl (containsAny_iff.2 ⟨marker, listed, (contains_iff.1 held).trans inside⟩)
    · exact .inr (containsAny_iff.2 ⟨spelling, listed, (contains_iff.1 held).trans inside⟩)
  · have spelledOut : ∀ word ∈ markers ++ spellings, word.toList <:+: text.map foldCase →
        containsAny markers result = true := by
      intro word member within
      obtain ⟨marker, listed, held⟩ := after word member
      refine containsAny_iff.2 ⟨marker, listed, ?_⟩
      rw [upper_foldCase spelled]
      exact (contains_iff.1 held).trans (Spelling.expand_within within)
    rintro (held | held) <;> obtain ⟨word, member, within⟩ := containsAny_iff.1 held
    · exact spelledOut word (List.mem_append_left _ member) within
    · exact spelledOut word (List.mem_append_right _ member) within

end NewsCollect.SafeProjection
