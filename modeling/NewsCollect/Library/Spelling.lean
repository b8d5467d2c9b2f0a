/-
**Texts whose letters are spelled out.**

Some letters are replaced by several: the upper case of a ligature is its letters. A word that
appears in the text that is spelled out has a finite number of preimages, and one of them is in the
text.

* `Spelling.expand`: a text spelled out.
* `Spelling.preimages`, `Spelling.exists_preimage`: what a word may have been before.
-/

import Mathlib.Data.List.Infix

namespace NewsCollect.Spelling

variable {α : Type} [DecidableEq α] (table : List (α × List α))

/-- The letters a letter is spelled as. -/
def image (letter : α) : List α := (table.lookup letter).getD [letter]

/-- A text spelled out. -/
def expand (text : List α) : List α := text.flatMap (image table)

/-- What a text may begin with that begins with the word when it is spelled out. -/
def beginnings : Nat → List α → List (List α)
  | _, [] => [[]]
  | 0, _ => []
  | fuel + 1, letter :: word =>
      (beginnings fuel word).map (letter :: ·) ++ table.flatMap fun entry =>
        if (letter :: word).isPrefixOf entry.2 then [[entry.1]]
        else if entry.2.isPrefixOf (letter :: word) then
          (beginnings fuel ((letter :: word).drop entry.2.length)).map (entry.1 :: ·)
        else []

/-- What is in a text that has the word in it when it is spelled out: the word begins with a letter,
or within the letters one is spelled as. -/
def preimages (word : List α) : List (List α) :=
  beginnings table word.length word ++ table.flatMap fun entry =>
    entry.2.tails.flatMap fun ending =>
      if word.isPrefixOf ending then [[entry.1]]
      else if ending.isPrefixOf word then
        (beginnings table word.length (word.drop ending.length)).map (entry.1 :: ·)
      else []

variable {table} {word text : List α}

theorem image_of_lookup {letter : α} {letters : List α}
    (found : table.lookup letter = some letters) : image table letter = letters := by
  rw [image, found, Option.getD_some]

theorem image_of_none {letter : α} (absent : table.lookup letter = none) :
    image table letter = [letter] := by
  rw [image, absent, Option.getD_none]

theorem mem_of_lookup {β : Type} {entries : List (α × β)} {key : α} {value : β}
    (found : entries.lookup key = some value) : (key, value) ∈ entries := by
  obtain ⟨before, after, rfl, -⟩ := List.lookup_eq_some_iff.1 found
  exact List.mem_append_right _ (List.mem_cons_self ..)

omit [DecidableEq α] in
/-- A word at the beginning of two texts in a row is in the first one, or goes on in the second. -/
theorem prefix_append {first second : List α} (begins : word <+: first ++ second) :
    word <+: first ∨ first <+: word ∧ word.drop first.length <+: second := by
  rcases List.prefix_or_prefix_of_prefix begins (List.prefix_append first second) with short | long
  · exact .inl short
  · obtain ⟨rest, rfl⟩ := long
    refine .inr ⟨List.prefix_append .., ?_⟩
    rw [List.drop_left]
    exact (List.prefix_append_right_inj first).1 begins

/-- The rest of the word, after what one letter is spelled as. -/
theorem begins_letter {fuel : Nat} {letter : α} {ending : List α}
    (ih : ∀ rest : List α, rest.length ≤ fuel → rest <+: expand table text →
      ∃ before ∈ beginnings table fuel rest, before <+: text)
    (few : (word.drop ending.length).length ≤ fuel)
    (begins : word <+: ending ++ expand table text) :
    ∃ before ∈ (if word.isPrefixOf ending then [[letter]]
      else if ending.isPrefixOf word then
        (beginnings table fuel (word.drop ending.length)).map (letter :: ·)
      else []), before <+: letter :: text := by
  by_cases short : word.isPrefixOf ending = true
  · refine ⟨[letter], ?_, by simp⟩
    simp [short]
  · rcases prefix_append begins with inside | ⟨long, rest⟩
    · exact absurd (List.isPrefixOf_iff_prefix.2 inside) short
    · obtain ⟨before, member, held⟩ := ih _ few rest
      refine ⟨letter :: before, ?_, by simpa using held⟩
      rw [if_neg short, if_pos (List.isPrefixOf_iff_prefix.2 long)]
      exact List.mem_map_of_mem member

theorem exists_beginning (some : ∀ entry ∈ table, entry.2 ≠ []) (fuel : Nat) :
    ∀ word text : List α, word.length ≤ fuel → word <+: expand table text →
      ∃ before ∈ beginnings table fuel word, before <+: text := by
  induction fuel with
  | zero =>
      intro word text few _
      obtain rfl : word = [] := List.length_eq_zero_iff.1 (Nat.le_zero.1 few)
      exact ⟨[], by simp [beginnings], List.nil_prefix⟩
  | succ fuel ih =>
      intro word text few begins
      cases word with
      | nil => exact ⟨[], by simp [beginnings], List.nil_prefix⟩
      | cons letter word =>
          cases text with
          | nil => simp [expand] at begins
          | cons first text =>
              have spelled : expand table (first :: text) =
                  image table first ++ expand table text := by simp [expand]
              rw [spelled] at begins
              cases found : table.lookup first with
              | none =>
                  rw [image_of_none found, List.singleton_append, List.cons_prefix_cons] at begins
                  obtain ⟨rfl, rest⟩ := begins
                  obtain ⟨before, member, held⟩ := ih word text (by simpa using few) rest
                  refine ⟨letter :: before, ?_, by simpa using held⟩
                  exact List.mem_append_left _ (List.mem_map_of_mem member)
              | some letters =>
                  rw [image_of_lookup found] at begins
                  have entry := mem_of_lookup found
                  have long : 0 < letters.length := List.length_pos_iff.2 (some _ entry)
                  obtain ⟨before, member, held⟩ := begins_letter
                    (fun rest => ih rest text) (show ((letter :: word).drop letters.length).length ≤ fuel by
                      simp only [List.length_drop, List.length_cons] at few ⊢
                      omega) begins
                  exact ⟨before, List.mem_append_right _ (List.mem_flatMap.2 ⟨_, entry, member⟩),
                    held⟩

/-- **A word in a text that is spelled out has a preimage in the text.** -/
theorem exists_preimage (some : ∀ entry ∈ table, entry.2 ≠ []) (word : List α) (text : List α)
    (inside : word <:+: expand table text) (letters : word ≠ []) :
    ∃ before ∈ preimages table word, before <:+: text := by
  induction text with
  | nil =>
      obtain rfl : word = [] := by simpa [expand] using inside
      exact absurd rfl letters
  | cons first text ih =>
      have spelled : expand table (first :: text) =
          image table first ++ expand table text := by simp [expand]
      obtain ⟨left, right, whole⟩ := inside
      have later : word <:+: expand table text →
          ∃ before ∈ preimages table word, before <:+: first :: text := by
        intro inside
        obtain ⟨before, member, held⟩ := ih inside
        exact ⟨before, member, held.trans (List.suffix_cons first text).isInfix⟩
      rw [spelled, List.append_assoc] at whole
      rcases List.append_eq_append_iff.1 whole with ⟨middle, front, back⟩ | ⟨middle, front, back⟩
      · -- the word begins within the letters of the first one, or right after them
        have begins : word <+: middle ++ expand table text := ⟨right, back⟩
        cases found : table.lookup first with
        | none =>
            rw [image_of_none found] at front
            have lefts := congrArg List.length front
            simp only [List.length_cons, List.length_nil, List.length_append] at lefts
            cases left with
            | nil =>
                rw [List.nil_append] at front
                subst front
                have begins' : word <+: expand table (first :: text) := by
                  rw [spelled, image_of_none found]
                  exact begins
                obtain ⟨before, member, held⟩ :=
                  exists_beginning some word.length word (first :: text) (Nat.le_refl _) begins'
                exact ⟨before, List.mem_append_left _ member, held.isInfix⟩
            | cons c left =>
                have empty : middle = [] := List.length_eq_zero_iff.1 (by
                  simp only [List.length_cons] at lefts
                  omega)
                subst empty
                exact later begins.isInfix
        | some spelling =>
            rw [image_of_lookup found] at front
            have entry := mem_of_lookup found
            obtain ⟨before, member, held⟩ := begins_letter
              (fun rest => exists_beginning some word.length rest text) (by simp) begins
            refine ⟨before, List.mem_append_right _ (List.mem_flatMap.2 ⟨_, entry,
              List.mem_flatMap.2 ⟨middle, ?_, member⟩⟩), held.isInfix⟩
            exact (List.mem_tails _ _).2 ⟨left, front.symm⟩
      · -- it begins after them
        exact later ⟨middle, right, by rw [List.append_assoc, ← back]⟩

/-- A text in another is spelled out within it. -/
theorem expand_within {part : List α} (inside : part <:+: text) :
    expand table part <:+: expand table text := by
  obtain ⟨left, right, rfl⟩ := inside
  exact ⟨expand table left, expand table right, by simp [expand]⟩

end NewsCollect.Spelling
