/-
**Whitespace, case and slugs.**

Normal forms of short texts: the pieces between separators joined again by one mark, and the case
mappings of Unicode as far as they stay in ASCII.

* `Text.rejoin`: `Text.rejoin_rejoin`, a text that has been joined again is left as it is.
* `Text.length_rejoin_le`, `Text.infix_of_mem_pieces`: it is not longer, and made of parts of it.
* `Text.collapse`: Python's `" ".join(text.split())`; `Text.strip`: `text.strip()`.
* `Text.upper`: `text.upper()`, where the result is in ASCII.
* `Text.slug`: lower case, and every run of other characters a hyphen.
-/

import Mathlib.Data.List.Basic
import NewsCollect.Library.Text

namespace NewsCollect.Text

/-! ### Pieces joined by a mark -/

section Rejoin

variable (separates : Char → Bool) (mark : Char)

/-- The pieces of a text between separators. -/
def pieces (text : List Char) : List (List Char) :=
  (text.splitOnP separates).filter fun piece => !piece.isEmpty

/-- The pieces joined by one mark. -/
def rejoin (text : List Char) : List Char := [mark].intercalate (pieces separates text)

variable {separates mark} {text piece : List Char}

theorem mem_splitOnP (member : piece ∈ text.splitOnP separates) :
    ∀ c ∈ piece, c ∈ text ∧ separates c = false := by
  induction text generalizing piece with
  | nil =>
      rw [List.splitOnP_nil, List.mem_singleton] at member
      simp [member]
  | cons first rest ih =>
      rw [List.splitOnP_cons_eq_if_modifyHead] at member
      by_cases separator : separates first = true
      · rw [if_pos separator] at member
        rcases List.mem_cons.1 member with rfl | later
        · simp
        · exact fun c inside => (ih later c inside).imp_left (List.mem_cons_of_mem _)
      · rw [if_neg separator] at member
        cases split : rest.splitOnP separates with
        | nil => exact absurd split (List.splitOnP_ne_nil separates rest)
        | cons head tail =>
            rw [split, List.modifyHead_cons] at member
            rw [split] at ih
            rcases List.mem_cons.1 member with rfl | later
            · intro c inside
              rcases List.mem_cons.1 inside with rfl | within
              · exact ⟨List.mem_cons_self .., by simpa using separator⟩
              · exact (ih (List.mem_cons_self ..) c within).imp_left (List.mem_cons_of_mem _)
            · exact fun c inside =>
                (ih (List.mem_cons_of_mem _ later) c inside).imp_left (List.mem_cons_of_mem _)

/-- A piece is not empty and has no separator. -/
theorem mem_pieces (member : piece ∈ pieces separates text) :
    piece ≠ [] ∧ ∀ c ∈ piece, c ∈ text ∧ separates c = false := by
  obtain ⟨inside, some⟩ := List.mem_filter.1 member
  exact ⟨by simpa using some, mem_splitOnP inside⟩

/-- Pieces that are joined are found again. -/
theorem pieces_intercalate (separator : separates mark = true) (parts : List (List Char))
    (whole : ∀ part ∈ parts, part ≠ [] ∧ ∀ c ∈ part, separates c = false) :
    pieces separates ([mark].intercalate parts) = parts := by
  induction parts with
  | nil => rfl
  | cons part parts ih =>
      obtain ⟨some, inside⟩ := whole part (List.mem_cons_self ..)
      have later := ih fun other member => whole other (List.mem_cons_of_mem _ member)
      have kept : (!part.isEmpty) = true := by simpa using some
      cases parts with
      | nil =>
          rw [show [mark].intercalate [part] = part by simp [List.intercalate], pieces,
            List.splitOnP_eq_singleton inside]
          simp [kept]
      | cons next parts =>
          have joined : [mark].intercalate (part :: next :: parts) =
              part ++ mark :: [mark].intercalate (next :: parts) := by
            simp [List.intercalate]
          rw [joined, pieces, List.splitOnP_append_cons_of_forall_mem inside mark separator, List.filter_cons,
            if_pos kept]
          exact congrArg (part :: ·) later

/-- **A text that has been joined again is left as it is.** -/
theorem rejoin_rejoin (separator : separates mark = true) (text : List Char) :
    rejoin separates mark (rejoin separates mark text) = rejoin separates mark text := by
  unfold rejoin
  rw [pieces_intercalate separator]
  exact fun part member => (mem_pieces member).imp_right fun inside c held => (inside c held).2

/-- A text without a separator is left as it is. -/
theorem rejoin_of_all (inside : ∀ c ∈ text, separates c = false) :
    rejoin separates mark text = text := by
  unfold rejoin pieces
  rw [List.splitOnP_eq_singleton inside]
  cases text with
  | nil => rfl
  | cons c text => simp [List.intercalate]

/-- The characters of a text that has been joined again. -/
theorem mem_rejoin {c : Char} (member : c ∈ rejoin separates mark text) :
    c = mark ∨ c ∈ text ∧ separates c = false := by
  have parts : ∀ parts : List (List Char),
      (∀ part ∈ parts, ∀ c ∈ part, c ∈ text ∧ separates c = false) →
        c ∈ [mark].intercalate parts → c = mark ∨ c ∈ text ∧ separates c = false := by
    intro parts inside
    induction parts with
    | nil => simp [List.intercalate]
    | cons part parts ih =>
        have later := ih fun other held => inside other (List.mem_cons_of_mem _ held)
        have here := inside part (List.mem_cons_self ..)
        cases parts with
        | nil =>
            intro held
            exact .inr (here c (by simpa [List.intercalate] using held))
        | cons next parts =>
            intro held
            have joined : [mark].intercalate (part :: next :: parts) =
                part ++ mark :: [mark].intercalate (next :: parts) := by
              simp [List.intercalate]
            rw [joined, List.mem_append, List.mem_cons] at held
            rcases held with first | rfl | rest
            · exact .inr (here c first)
            · exact .inl rfl
            · exact later rest
  exact parts _ (fun part held => (mem_pieces held).2) member

theorem splitOnP_cons (separates : Char → Bool) (c : Char) (text : List Char) :
    ∃ head tail, text.splitOnP separates = head :: tail ∧
      (c :: text).splitOnP separates =
        if separates c = true then [] :: head :: tail else (c :: head) :: tail := by
  cases split : text.splitOnP separates with
  | nil => exact absurd split (List.splitOnP_ne_nil separates text)
  | cons head tail =>
      refine ⟨head, tail, rfl, ?_⟩
      rw [List.splitOnP_cons_eq_if_modifyHead, split, List.modifyHead_cons]

/-- The first part begins the text, and every part is in it. -/
theorem infix_splitOnP : ∀ head tail, text.splitOnP separates = head :: tail →
    head <+: text ∧ ∀ part ∈ tail, part <:+: text := by
  induction text with
  | nil =>
      intro head tail split
      rw [List.splitOnP_nil] at split
      obtain ⟨rfl, rfl⟩ := List.cons.inj split
      exact ⟨List.nil_prefix, fun part member => absurd member List.not_mem_nil⟩
  | cons c text ih =>
      intro head tail split
      obtain ⟨first, rest, before, after⟩ := splitOnP_cons separates c text
      obtain ⟨begins, inside⟩ := ih first rest before
      have later {part : List Char} (within : part <:+: text) : part <:+: c :: text :=
        within.trans (List.suffix_cons c text).isInfix
      rw [after] at split
      by_cases separator : separates c = true
      · rw [if_pos separator] at split
        obtain ⟨rfl, rfl⟩ := List.cons.inj split
        refine ⟨List.nil_prefix, List.forall_mem_cons.2 ⟨later begins.isInfix, ?_⟩⟩
        exact fun part member => later (inside part member)
      · rw [if_neg separator] at split
        obtain ⟨rfl, rfl⟩ := List.cons.inj split
        exact ⟨List.cons_prefix_cons.2 ⟨rfl, begins⟩, fun part member => later (inside part member)⟩

/-- A piece is in the text. -/
theorem infix_of_mem_pieces (member : piece ∈ pieces separates text) : piece <:+: text := by
  have inside := (List.mem_filter.1 member).1
  cases split : text.splitOnP separates with
  | nil => exact absurd split (List.splitOnP_ne_nil separates text)
  | cons head tail =>
      obtain ⟨begins, rest⟩ := infix_splitOnP head tail split
      rw [split] at inside
      rcases List.mem_cons.1 inside with rfl | later
      · exact begins.isInfix
      · exact rest piece later

theorem intercalate_cons_cons (part next : List Char) (parts : List (List Char)) :
    [mark].intercalate (part :: next :: parts) =
      part ++ mark :: [mark].intercalate (next :: parts) := by
  simp [List.intercalate]

theorem intercalate_singleton (part : List Char) : [mark].intercalate [part] = part := by
  simp [List.intercalate]

/-- A text that has been joined again is not longer than it was. -/
theorem length_rejoin_le (text : List Char) : (rejoin separates mark text).length ≤ text.length := by
  have total : ∀ text : List Char,
      ((text.splitOnP separates).map fun part => part.length + 1).sum = text.length + 1 := by
    intro text
    induction text with
    | nil => simp
    | cons c text ih =>
        obtain ⟨head, tail, before, after⟩ := splitOnP_cons separates c text
        rw [before] at ih
        rw [after]
        by_cases separator : separates c = true
        · rw [if_pos separator]
          simp only [List.map_cons, List.sum_cons, List.length_cons, List.length_nil] at ih ⊢
          omega
        · rw [if_neg separator]
          simp only [List.map_cons, List.sum_cons, List.length_cons] at ih ⊢
          omega
  have joined : ∀ parts : List (List Char), parts ≠ [] →
      ([mark].intercalate parts).length + 1 ≤ (parts.map fun part => part.length + 1).sum := by
    intro parts some
    induction parts with
    | nil => exact absurd rfl some
    | cons part parts ih =>
        cases parts with
        | nil =>
            rw [intercalate_singleton]
            simp
        | cons next parts =>
            have rest := ih (List.cons_ne_nil _ _)
            rw [intercalate_cons_cons, List.length_append, List.length_cons, List.map_cons,
              List.sum_cons]
            omega
  have kept : ∀ parts : List (List Char), ((parts.filter fun part => !part.isEmpty).map
      fun part => part.length + 1).sum ≤ (parts.map fun part => part.length + 1).sum := by
    intro parts
    induction parts with
    | nil => exact Nat.le_refl _
    | cons part parts ih =>
        rw [List.filter_cons]
        split
        · simp only [List.map_cons, List.sum_cons]
          omega
        · simp only [List.map_cons, List.sum_cons]
          omega
  rw [rejoin]
  by_cases none : pieces separates text = []
  · simp [none, List.intercalate]
  · have some := joined _ none
    have bound := kept (text.splitOnP separates)
    rw [total] at bound
    rw [pieces] at some ⊢
    omega

/-- A character that separates nothing is still there. -/
theorem mem_rejoin_of_mem {c : Char} (member : c ∈ text) (inside : separates c = false) :
    c ∈ rejoin separates mark text := by
  have piece : ∃ piece ∈ pieces separates text, c ∈ piece := by
    have parts : ∃ part ∈ text.splitOnP separates, c ∈ part := by
      induction text with
      | nil => exact absurd member List.not_mem_nil
      | cons first text ih =>
          obtain ⟨head, tail, before, after⟩ := splitOnP_cons separates first text
          rw [after]
          rcases List.mem_cons.1 member with rfl | later
          · rw [if_neg (by simp [inside])]
            exact ⟨_, List.mem_cons_self .., List.mem_cons_self ..⟩
          · obtain ⟨part, held, within⟩ := ih later
            rw [before] at held
            by_cases separator : separates first = true
            · rw [if_pos separator]
              exact ⟨part, List.mem_cons_of_mem _ held, within⟩
            · rw [if_neg separator]
              rcases List.mem_cons.1 held with rfl | rest
              · exact ⟨_, List.mem_cons_self .., List.mem_cons_of_mem _ within⟩
              · exact ⟨part, List.mem_cons_of_mem _ rest, within⟩
    obtain ⟨part, held, within⟩ := parts
    refine ⟨part, List.mem_filter.2 ⟨held, ?_⟩, within⟩
    cases part with
    | nil => exact absurd within List.not_mem_nil
    | cons => rfl
  obtain ⟨piece, held, within⟩ := piece
  have joined : ∀ parts : List (List Char), piece ∈ parts → c ∈ [mark].intercalate parts := by
    intro parts held
    induction parts with
    | nil => exact absurd held List.not_mem_nil
    | cons part parts ih =>
        cases parts with
        | nil =>
            rw [List.mem_singleton.1 held] at within
            rwa [intercalate_singleton]
        | cons next parts =>
            rw [intercalate_cons_cons, List.mem_append]
            rcases List.mem_cons.1 held with rfl | later
            · exact .inl within
            · exact .inr (List.mem_cons_of_mem _ (ih later))
  exact joined _ held

end Rejoin

/-! ### Whitespace -/

/-- `c.isspace()`. -/
def isSpace (c : Char) : Bool :=
  (9 ≤ c.toNat && c.toNat ≤ 13) || (28 ≤ c.toNat && c.toNat ≤ 32) || c.toNat == 0x85 ||
    c.toNat == 0xA0 || c.toNat == 0x1680 || (0x2000 ≤ c.toNat && c.toNat ≤ 0x200A) ||
    c.toNat == 0x2028 || c.toNat == 0x2029 || c.toNat == 0x202F || c.toNat == 0x205F ||
    c.toNat == 0x3000

/-- A digit of any script is no whitespace. -/
theorem isSpace_of_isDecimal {c : Char} (decimal : isDecimal c = true) : isSpace c = false := by
  have spaces : ∀ n ∈ [9, 10, 11, 12, 13, 28, 29, 30, 31, 32, 0x85, 0xA0, 0x1680, 0x2000, 0x2001,
      0x2002, 0x2003, 0x2004, 0x2005, 0x2006, 0x2007, 0x2008, 0x2009, 0x200A, 0x2028, 0x2029,
      0x202F, 0x205F, 0x3000],
      (decimalZeros.any fun zero => zero ≤ n && n < zero + 10) = false := by decide
  refine Bool.eq_false_iff.2 fun space => ?_
  have listed : c.toNat ∈ [9, 10, 11, 12, 13, 28, 29, 30, 31, 32, 0x85, 0xA0, 0x1680, 0x2000,
      0x2001, 0x2002, 0x2003, 0x2004, 0x2005, 0x2006, 0x2007, 0x2008, 0x2009, 0x200A, 0x2028,
      0x2029, 0x202F, 0x205F, 0x3000] := by
    simp only [isSpace, Bool.or_eq_true, Bool.and_eq_true, decide_eq_true_eq, beq_iff_eq] at space
    simp only [List.mem_cons, List.not_mem_nil, or_false]
    omega
  exact Bool.false_ne_true ((spaces _ listed).symm.trans decimal)

/-- `" ".join(text.split())`. -/
def collapse (text : List Char) : List Char := rejoin isSpace ' ' text

theorem collapse_collapse (text : List Char) : collapse (collapse text) = collapse text :=
  rejoin_rejoin (by decide) text

/-- `text.strip()`. -/
def strip (text : List Char) : List Char :=
  ((text.dropWhile isSpace).reverse.dropWhile isSpace).reverse

/-! ### Case -/

/-- The characters outside ASCII whose upper case is in ASCII. -/
def upperSpecials : List (Nat × List Char) :=
  [(0xDF, ['S', 'S']), (0x131, ['I']), (0x17F, ['S']), (0xFB00, ['F', 'F']), (0xFB01, ['F', 'I']),
    (0xFB02, ['F', 'L']), (0xFB03, ['F', 'F', 'I']), (0xFB04, ['F', 'F', 'L']),
    (0xFB05, ['S', 'T']), (0xFB06, ['S', 'T'])]

/-- `c.upper()`, where all of it is in ASCII. -/
def upperChar (c : Char) : Option (List Char) :=
  if isLower c then some [Char.ofNat (c.toNat - 32)]
  else if c.toNat < 128 then some [c]
  else upperSpecials.lookup c.toNat

/-- `text.upper()`, where all of it is in ASCII. -/
def upper (text : List Char) : Option (List Char) := (text.mapM upperChar).map List.flatten

/-- `c.lower()`. Outside ASCII, only the two characters that become a small letter matter to a
slug. -/
def lowerChar (c : Char) : List Char :=
  if isUpper c then [Char.ofNat (c.toNat + 32)]
  else if c.toNat = 0x130 then ['i', Char.ofNat 0x307]
  else if c.toNat = 0x212A then ['k']
  else [c]

/-- A small letter or a digit. -/
def isSlug (c : Char) : Bool := isLower c || isDigit c

/-- `re.sub(r"[^a-z0-9]+", "-", text.lower()).strip("-")`. -/
def slug (text : List Char) : List Char := rejoin (fun c => !isSlug c) '-' (text.flatMap lowerChar)

end NewsCollect.Text
