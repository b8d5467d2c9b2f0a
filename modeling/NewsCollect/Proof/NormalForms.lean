/-
**Normal forms are settled.**

A field of a factual payload is put into a normal form. Unless it is a symbol that reads as a
marker in capitals, its form is one of itself and has no secret marker.

* `Settled`: a form that stays as it is, without a marker.
* `settled_text`, `settled_timestamp`, `settled_language`, …: every field of the six contracts.
* `settled_symbol`, `upper_marker`: a symbol, and what becomes of one that reads as a marker.
-/

import NewsCollect.Proof.Markers

namespace NewsCollect.SafeProjection

open Calendar Text

/-- A form that stays as it is and has no marker. -/
def Settled (normal : Json → Result Json) (form : Json) : Prop :=
  normal form = .ok form ∧ isUnsafe form = false

@[simp] theorem isUnsafe_str (text : String) : isUnsafe (.str text) = hasMarker text := by
  rw [isUnsafe]

@[simp] theorem isUnsafe_int (value : Int) : isUnsafe (.int value) = false := rfl

@[simp] theorem isUnsafe_bool (value : Bool) : isUnsafe (.bool value) = false := rfl

@[simp] theorem isUnsafe_null : isUnsafe .null = false := rfl

@[simp] theorem hasMarker_ofList (text : List Char) :
    hasMarker (String.ofList text) = containsAny markers text := by
  rw [hasMarker, String.toList_ofList]

/-! ### Texts -/

section Texts

variable {maximum : Nat} {value form : Json} {raw : List Char} {normalized : String}

/-- A text that is accepted: not empty, short enough and without a marker. -/
theorem textOf_eq_ok :
    textOf maximum value = .ok normalized ↔
      ∃ raw : String, value = .str raw ∧ normalized = String.ofList (collapse raw.toList) ∧
        collapse raw.toList ≠ [] ∧ (collapse raw.toList).length ≤ maximum ∧
        containsAny markers (collapse raw.toList) = false := by
  cases value with
  | str raw =>
      have split : ∀ text : List Char, (text.isEmpty || maximum < text.length ||
          containsAny markers text) = false ↔
            text ≠ [] ∧ text.length ≤ maximum ∧ containsAny markers text = false := by
        simp [and_assoc]
      rw [textOf]
      constructor
      · intro accepted
        split at accepted
        · exact absurd accepted nofun
        · next passed =>
            exact ⟨raw, rfl, (Except.ok.inj accepted).symm,
              (split _).1 (Bool.eq_false_iff.2 passed)⟩
      · rintro ⟨_, same, rfl, passed⟩
        cases same
        rw [if_neg (by rw [(split _).2 passed]; exact Bool.false_ne_true)]
  | _ => exact ⟨nofun, nofun⟩

/-- A text that has been accepted is accepted again, and has no marker. -/
theorem textOf_again (accepted : textOf maximum value = .ok normalized) :
    textOf maximum (.str normalized) = .ok normalized ∧ hasMarker normalized = false := by
  obtain ⟨raw, rfl, rfl, some, short, clean⟩ := textOf_eq_ok.1 accepted
  refine ⟨textOf_eq_ok.2 ⟨_, rfl, ?_⟩, by rw [hasMarker_ofList, clean]⟩
  rw [String.toList_ofList, collapse_collapse]
  exact ⟨rfl, some, short, clean⟩

/-- A text without a space is accepted as it is. -/
theorem textOf_of_noSpace (whole : ∀ c ∈ raw, isSpace c = false) (some : raw ≠ [])
    (short : raw.length ≤ maximum) (clean : containsAny markers raw = false) :
    textOf maximum (.str (String.ofList raw)) = .ok (String.ofList raw) := by
  refine textOf_eq_ok.2 ⟨_, rfl, ?_⟩
  have same : collapse raw = raw := rejoin_of_all whole
  rw [String.toList_ofList, same]
  exact ⟨rfl, some, short, clean⟩

theorem settled_text (done : text maximum value = .ok form) : Settled (text maximum) form := by
  obtain ⟨normalized, accepted, rfl⟩ := map_eq_ok.1 done
  obtain ⟨again, clean⟩ := textOf_again accepted
  exact ⟨map_eq_ok.2 ⟨normalized, again, rfl⟩, by rw [isUnsafe_str, clean]⟩

theorem settled_optionalText (done : optionalText maximum value = .ok form) :
    Settled (optionalText maximum) form := by
  by_cases absent : value = .null
  · subst absent
    obtain rfl := Except.ok.inj done
    exact ⟨rfl, rfl⟩
  · have given : text maximum value = .ok form := by
      cases value <;> first | exact absurd rfl absent | exact done
    have settled := settled_text given
    obtain ⟨normalized, -, rfl⟩ := map_eq_ok.1 given
    exact settled

theorem settled_opaqueId (done : opaqueId value = .ok form) : Settled opaqueId form := by
  obtain ⟨normalized, accepted, rest⟩ := bind_eq_ok.1 done
  split at rest
  · exact absurd rest nofun
  · next whole =>
      obtain rfl := pure_eq_ok.1 rest
      obtain ⟨again, clean⟩ := textOf_again accepted
      refine ⟨bind_eq_ok.2 ⟨normalized, again, ?_⟩, by rw [isUnsafe_str, clean]⟩
      rw [if_neg whole]
      rfl

theorem settled_query (done : query value = .ok form) : Settled query form := by
  obtain ⟨normalized, accepted, rest⟩ := bind_eq_ok.1 done
  obtain ⟨passed, same⟩ := check_eq_ok.1 rest
  obtain rfl := pure_eq_ok.1 same
  obtain ⟨again, clean⟩ := textOf_again accepted
  exact ⟨bind_eq_ok.2 ⟨normalized, again, check_eq_ok.2 ⟨passed, rfl⟩⟩, by rw [isUnsafe_str, clean]⟩

theorem settled_eiaDataset (done : eiaDataset value = .ok form) : Settled eiaDataset form := by
  obtain ⟨normalized, accepted, rest⟩ := bind_eq_ok.1 done
  obtain ⟨passed, same⟩ := check_eq_ok.1 rest
  obtain rfl := pure_eq_ok.1 same
  obtain ⟨again, clean⟩ := textOf_again accepted
  exact ⟨bind_eq_ok.2 ⟨normalized, again, check_eq_ok.2 ⟨passed, rfl⟩⟩, by rw [isUnsafe_str, clean]⟩

end Texts

/-! ### Numbers and times -/

section Numbers

variable {value form : Json}

theorem settled_number (done : number value = .ok form) : Settled number form := by
  cases value with
  | int value =>
      rw [number] at done
      split at done
      · next small =>
          obtain rfl := Except.ok.inj done
          exact ⟨by rw [number, if_pos small], rfl⟩
      · exact absurd done nofun
  | float numerator scale =>
      obtain rfl := Except.ok.inj done
      exact ⟨rfl, rfl⟩
  | special value =>
      cases value with
      | minusZero =>
          obtain rfl := Except.ok.inj done
          exact ⟨rfl, rfl⟩
      | _ => exact absurd done nofun
  | _ => exact absurd done nofun

theorem timestampOf_eq_ok {text : String} :
    timestampOf value = .ok text ↔
      ∃ raw here offset, value = .str raw ∧
        fromIsoFormat (replaceZ raw.toList) = some (here, some offset) ∧
        inRange (here - offset) = true ∧ text = String.ofList (isoFormat (here - offset) 0) := by
  cases value with
  | str raw =>
      rw [timestampOf]
      constructor
      · intro done
        split at done
        · next here offset read =>
            split at done
            · next inside => exact ⟨raw, here, offset, rfl, read, inside, (Except.ok.inj done).symm⟩
            · exact absurd done nofun
        · exact absurd done nofun
      · rintro ⟨_, here, offset, same, read, inside, rfl⟩
        cases same
        rw [read]
        dsimp only
        rw [if_pos inside]
  | _ => exact ⟨nofun, nofun⟩

/-- The text of an instant is a timestamp as it is. -/
theorem timestampOf_isoFormat {instant : Int} (inside : inRange instant = true) :
    timestampOf (.str (String.ofList (isoFormat instant 0))) =
      .ok (String.ofList (isoFormat instant 0)) := by
  refine timestampOf_eq_ok.2 ⟨_, instant, 0, rfl, ?_, by rwa [sub_zero], by rw [sub_zero]⟩
  rw [String.toList_ofList, replaceZ_isoFormat, fromIsoFormat_isoFormat inside]

/-- The text of an instant has no marker. -/
theorem containsAny_isoFormat (instant : Int) :
    containsAny markers (isoFormat instant 0) = false := by
  refine containsAny_markers_of_forall ['a', 'o', 's'] (by decide) fun c member => ?_
  rcases mem_isoFormat member with number | mark
  · have small : ∀ n : Fin 128, isDigit (Char.ofNat n) = true →
        ['a', 'o', 's'].contains (foldCase (Char.ofNat n)) = false := by decide
    have below : c.toNat < 128 := by
      simp only [isDigit, Bool.and_eq_true, decide_eq_true_eq] at number
      omega
    have known := small ⟨c.toNat, below⟩
    rw [Char.ofNat_toNat] at known
    exact known number
  · have marks : (['-', 'T', ':', '.', '+'].all fun c =>
        !(['a', 'o', 's'].contains (foldCase c))) = true := by decide
    exact Eq.mp (Bool.not_eq_true' _) (List.all_eq_true.1 marks c mark)

theorem settled_timestamp (done : timestamp value = .ok form) : Settled timestamp form := by
  obtain ⟨text, accepted, rfl⟩ := map_eq_ok.1 done
  obtain ⟨raw, here, offset, -, -, inside, rfl⟩ := timestampOf_eq_ok.1 accepted
  refine ⟨map_eq_ok.2 ⟨_, timestampOf_isoFormat inside, rfl⟩, ?_⟩
  rw [isUnsafe_str, hasMarker_ofList, containsAny_isoFormat]

end Numbers

/-! ### Characters of a normal form -/

/-- The characters of identities, languages, symbols and facets. -/
def isPlain (c : Char) : Bool :=
  isUpper c || isLower c || isDigit c || c == '-' || c == '.' || c == '_' || c == ':'

/-- What is known of a character in ASCII is known from a table. -/
theorem ascii_forall (holds : Char → Prop) (known : ∀ n : Fin 128, holds (Char.ofNat n)) {c : Char}
    (below : c.toNat < 128) : holds c := by
  have here := known ⟨c.toNat, below⟩
  rwa [Char.ofNat_toNat] at here

theorem toNat_of_isPlain {c : Char} (plain : isPlain c = true) : c.toNat < 128 := by
  simp only [isPlain, isUpper, isLower, isDigit, Bool.or_eq_true, Bool.and_eq_true,
    decide_eq_true_eq, beq_iff_eq] at plain
  rcases plain with (((((upper | lower) | digit) | rfl) | rfl) | rfl) | rfl
  · omega
  · omega
  · omega
  all_goals decide

theorem isSpace_of_isPlain {c : Char} (plain : isPlain c = true) : isSpace c = false :=
  ascii_forall (fun c => isPlain c = true → isSpace c = false) (by decide)
    (toNat_of_isPlain plain) plain

theorem lowerChar_of_isPlain {c : Char} (plain : isPlain c = true) : lowerChar c = [foldCase c] :=
  ascii_forall (fun c => isPlain c = true → lowerChar c = [foldCase c]) (by decide)
    (toNat_of_isPlain plain) plain

theorem foldCase_of_isPlain {c : Char} (plain : isPlain c = true) :
    isPlain (foldCase c) = true ∧ foldCase (foldCase c) = foldCase c :=
  ascii_forall (fun c => isPlain c = true →
    isPlain (foldCase c) = true ∧ foldCase (foldCase c) = foldCase c) (by decide)
    (toNat_of_isPlain plain) plain

theorem lower_of_forall {text : List Char} (plain : ∀ c ∈ text, isPlain c = true) :
    text.flatMap lowerChar = text.map foldCase := by
  induction text with
  | nil => rfl
  | cons c text ih =>
      rw [List.flatMap_cons, lowerChar_of_isPlain (plain c (List.mem_cons_self ..)),
        ih fun other member => plain other (List.mem_cons_of_mem _ member)]
      rfl

theorem noSpace_of_forall {text : List Char} (plain : ∀ c ∈ text, isPlain c = true) :
    ∀ c ∈ text, isSpace c = false :=
  fun c member => isSpace_of_isPlain (plain c member)

theorem headed_eq_true {first rest : Char → Bool} {most : Nat} {text : List Char}
    (holds : headed first rest most text = true) :
    text ≠ [] ∧ text.length ≤ most + 1 ∧ ∀ c ∈ text, first c = true ∨ rest c = true := by
  cases text with
  | nil => exact absurd holds Bool.false_ne_true
  | cons c text =>
      simp only [headed, bounded, Bool.and_eq_true, decide_eq_true_eq, List.all_eq_true] at holds
      obtain ⟨head, ⟨-, short⟩, tail⟩ := holds
      refine ⟨List.cons_ne_nil _ _, Nat.succ_le_succ short, fun other member => ?_⟩
      rcases List.mem_cons.1 member with rfl | later
      · exact .inl head
      · exact .inr (tail other later)

/-! ### Identities -/

theorem strip_within (text : List Char) : strip text <:+: text := by
  rw [strip]
  have front : text.dropWhile isSpace <:+ text := List.dropWhile_suffix isSpace
  have back := List.dropWhile_suffix (l := (text.dropWhile isSpace).reverse) isSpace
  refine List.IsInfix.trans ?_ front.isInfix
  have turned := List.reverse_prefix.2 back
  rw [List.reverse_reverse] at turned
  exact turned.isInfix

theorem strip_of_noSpace {text : List Char} (whole : ∀ c ∈ text, isSpace c = false) :
    strip text = text := by
  have kept : ∀ text : List Char, (∀ c ∈ text, isSpace c = false) →
      text.dropWhile isSpace = text := by
    intro text whole
    cases text with
    | nil => rfl
    | cons c text => rw [List.dropWhile_cons, if_neg (by simp [whole c (List.mem_cons_self ..)])]
  rw [strip, kept text whole, kept _ fun c member => whole c (List.mem_reverse.1 member),
    List.reverse_reverse]

theorem isPlain_of_isMarketauxIdentity {text : List Char} (holds : isMarketauxIdentity text = true) :
    ∀ c ∈ text, isPlain c = true := by
  intro c member
  have known := (headed_eq_true holds).2.2 c member
  simp only [Bool.or_eq_true] at known
  simp only [isPlain, Bool.or_eq_true]
  tauto

theorem settled_marketauxIdentity {value form : Json} (clean : isUnsafe value = false)
    (done : marketauxIdentity value = .ok form) : Settled marketauxIdentity form := by
  cases value with
  | str raw =>
      by_cases holds : isMarketauxIdentity (strip raw.toList) = true
      · rw [marketauxIdentity, marketauxIdentity?, if_pos holds] at done
        obtain rfl := Except.ok.inj done
        have same := strip_of_noSpace (noSpace_of_forall (isPlain_of_isMarketauxIdentity holds))
        refine ⟨?_, ?_⟩
        · rw [marketauxIdentity, marketauxIdentity?, String.toList_ofList, same, if_pos holds]
        · rw [isUnsafe_str] at clean
          rw [isUnsafe_str, hasMarker_ofList, Bool.eq_false_iff]
          intro held
          exact absurd (containsAny_of_part (strip_within _) held) (Bool.eq_false_iff.1 clean)
      · rw [marketauxIdentity, marketauxIdentity?, if_neg holds] at done
        exact absurd done nofun
  | _ => exact absurd done nofun

/-! ### Languages -/

theorem isLanguage_iff {text : List Char} :
    isLanguage text = true ↔
      ∃ front back, text = front ++ back ∧
        bounded (fun c => isUpper c || isLower c) 2 3 front = true ∧
        (back = [] ∨ ∃ region, back = '-' :: region ∧
          bounded (fun c => isUpper c || isLower c || isDigit c) 2 8 region = true) := by
  simp only [isLanguage, Bool.and_eq_true]
  constructor
  · rintro ⟨letters, region⟩
    refine ⟨_, _, (List.takeWhile_append_dropWhile).symm, letters, ?_⟩
    split at region
    · next empty => exact .inl empty
    · next c rest split =>
        rw [Bool.and_eq_true, beq_iff_eq] at region
        obtain ⟨rfl, inside⟩ := region
        exact .inr ⟨rest, split, inside⟩
  · rintro ⟨front, back, rfl, letters, region⟩
    have all : ∀ c ∈ front, (isUpper c || isLower c) = true := by
      simp only [bounded, Bool.and_eq_true] at letters
      exact List.all_eq_true.1 letters.2
    rw [List.takeWhile_append_of_pos all, List.dropWhile_append_of_pos all]
    rcases region with rfl | ⟨rest, rfl, inside⟩
    · simpa using letters
    · rw [List.takeWhile_cons, List.dropWhile_cons, if_neg (by decide), if_neg (by decide)]
      simpa [inside] using letters

theorem isPlain_of_isLanguage {text : List Char} (holds : isLanguage text = true) :
    ∀ c ∈ text, isPlain c = true := by
  obtain ⟨front, back, rfl, letters, region⟩ := isLanguage_iff.1 holds
  simp only [bounded, Bool.and_eq_true, List.all_eq_true, Bool.or_eq_true] at letters region
  have plain : ∀ c, isUpper c = true ∨ isLower c = true ∨ isDigit c = true → isPlain c = true := by
    intro c known
    simp only [isPlain, Bool.or_eq_true]
    tauto
  intro c member
  rcases List.mem_append.1 member with first | rest
  · exact plain c ((letters.2 c first).imp_right Or.inl)
  · rcases region with rfl | ⟨region, rfl, inside⟩
    · exact absurd rest (List.not_mem_nil)
    · rcases List.mem_cons.1 rest with rfl | later
      · decide
      · exact plain c (or_assoc.1 (inside.2 c later))

/-- A language in small letters is one. -/
theorem isLanguage_foldCase {text : List Char} (holds : isLanguage text = true) :
    isLanguage (text.map foldCase) = true := by
  have letter : ∀ c, isPlain c = true → (isUpper c || isLower c) = true →
      (isUpper (foldCase c) || isLower (foldCase c)) = true := fun c plain =>
    ascii_forall (fun c => (isUpper c || isLower c) = true →
      (isUpper (foldCase c) || isLower (foldCase c)) = true) (by decide) (toNat_of_isPlain plain)
  have inside : ∀ c, isPlain c = true → (isUpper c || isLower c || isDigit c) = true →
      (isUpper (foldCase c) || isLower (foldCase c) || isDigit (foldCase c)) = true := fun c plain =>
    ascii_forall (fun c => (isUpper c || isLower c || isDigit c) = true →
      (isUpper (foldCase c) || isLower (foldCase c) || isDigit (foldCase c)) = true) (by decide)
      (toNat_of_isPlain plain)
  have plain := isPlain_of_isLanguage holds
  obtain ⟨front, back, rfl, letters, region⟩ := isLanguage_iff.1 holds
  have mapped : ∀ (member : Char → Bool) (least most : Nat) (part : List Char),
      (∀ c ∈ part, member c = true → member (foldCase c) = true) →
      bounded member least most part = true →
        bounded member least most (part.map foldCase) = true := by
    intro member least most part kept held
    simp only [bounded, List.length_map, Bool.and_eq_true, List.all_eq_true] at held ⊢
    refine ⟨held.1, fun c mapped => ?_⟩
    obtain ⟨d, inside, rfl⟩ := List.mem_map.1 mapped
    exact kept d inside (held.2 d inside)
  refine isLanguage_iff.2 ⟨front.map foldCase, back.map foldCase, List.map_append, ?_, ?_⟩
  · exact mapped _ 2 3 front (fun c member =>
      letter c (plain c (List.mem_append_left _ member))) letters
  · rcases region with rfl | ⟨rest, rfl, held⟩
    · exact .inl rfl
    · exact .inr ⟨rest.map foldCase, rfl, mapped _ 2 8 rest (fun c member =>
        inside c (plain c (List.mem_append_right _ (List.mem_cons_of_mem _ member)))) held⟩

theorem settled_language {value form : Json} (done : language value = .ok form) :
    Settled language form := by
  by_cases absent : value = .null
  · subst absent
    obtain rfl := Except.ok.inj done
    exact ⟨rfl, rfl⟩
  have given : ∃ normalized, textOf 12 value = .ok normalized ∧
      isLanguage normalized.toList = true ∧
      .str (String.ofList (normalized.toList.flatMap lowerChar)) = form := by
    have read : (textOf 12 value >>= fun language => require (isLanguage language.toList)
        .projectionContractError "projection_language_invalid" >>= fun _ =>
          pure (.str (String.ofList (language.toList.flatMap lowerChar)))) = .ok form := by
      cases value <;> first | exact absurd rfl absent | exact done
    obtain ⟨normalized, accepted, rest⟩ := bind_eq_ok.1 read
    obtain ⟨holds, same⟩ := check_eq_ok.1 rest
    exact ⟨normalized, accepted, require_eq_ok.1 holds, pure_eq_ok.1 same⟩
  obtain ⟨normalized, accepted, holds, rfl⟩ := given
  obtain ⟨raw, -, rfl, some, short, clean⟩ := textOf_eq_ok.1 accepted
  rw [String.toList_ofList] at holds ⊢
  have plain := isPlain_of_isLanguage holds
  rw [lower_of_forall plain]
  have folded : ∀ c ∈ (collapse raw.toList).map foldCase, isPlain c = true := by
    intro c member
    obtain ⟨d, inside, rfl⟩ := List.mem_map.1 member
    exact (foldCase_of_isPlain (plain d inside)).1
  have twice : ((collapse raw.toList).map foldCase).map foldCase =
      (collapse raw.toList).map foldCase := by
    rw [List.map_map]
    exact List.map_congr_left fun c member => (foldCase_of_isPlain (plain c member)).2
  have markless : containsAny markers ((collapse raw.toList).map foldCase) = false := by
    rw [containsAny_congr twice, clean]
  have again : textOf 12 (.str (String.ofList ((collapse raw.toList).map foldCase))) =
      .ok (String.ofList ((collapse raw.toList).map foldCase)) :=
    textOf_of_noSpace (noSpace_of_forall folded) (by simpa using some) (by simpa using short) markless
  refine ⟨?_, by rw [isUnsafe_str, hasMarker_ofList, markless]⟩
  rw [language]
  refine bind_eq_ok.2 ⟨_, again, check_eq_ok.2 ⟨require_eq_ok.2 ?_, ?_⟩⟩
  · rw [String.toList_ofList, isLanguage_foldCase holds]
  · rw [String.toList_ofList, lower_of_forall folded, twice]
    rfl
  · nofun

/-! ### Symbols and facets -/

/-- The value reads as a marker in capitals. -/
def readsAsMarker (value : Json) : Bool :=
  value.str?.any fun raw => containsAny spellings (collapse raw.toList)

theorem symbolOf_eq_ok {value : Json} {form : String} :
    symbolOf value = .ok form ↔
      ∃ normalized capitals, textOf 20 value = .ok normalized ∧
        upper normalized.toList = some capitals ∧ isSymbol capitals = true ∧
        form = String.ofList capitals := by
  rw [symbolOf, bind_eq_ok]
  constructor
  · rintro ⟨normalized, accepted, rest⟩
    split at rest
    · next capitals spelled =>
        split at rest
        · next holds => exact ⟨normalized, capitals, accepted, spelled, holds,
            (pure_eq_ok.1 rest).symm⟩
        · exact absurd rest nofun
    · exact absurd rest nofun
  · rintro ⟨normalized, capitals, accepted, spelled, holds, rfl⟩
    refine ⟨normalized, accepted, ?_⟩
    rw [spelled]
    dsimp only
    rw [if_pos holds]
    rfl

/-- **A symbol has a marker exactly if the value reads as one in capitals.** -/
theorem hasMarker_symbol {value : Json} {form : String} (done : symbolOf value = .ok form) :
    hasMarker form = readsAsMarker value := by
  obtain ⟨normalized, capitals, accepted, spelled, -, rfl⟩ := symbolOf_eq_ok.1 done
  obtain ⟨raw, rfl, rfl, -, -, clean⟩ := textOf_eq_ok.1 accepted
  rw [String.toList_ofList] at spelled
  have known := containsAny_upper spelled
  rw [clean] at known
  rw [hasMarker_ofList, Bool.eq_iff_iff, known]
  simp [readsAsMarker, Json.str?]

theorem isPlain_of_isSymbol {text : List Char} (holds : isSymbol text = true) :
    ∀ c ∈ text, isPlain c = true ∧ isLower c = false := by
  intro c member
  have known := (headed_eq_true holds).2.2 c member
  have kinds : isUpper c = true ∨ isDigit c = true ∨ c = '.' ∨ c = '-' := by
    simp only [Bool.or_eq_true, beq_iff_eq] at known
    tauto
  rcases kinds with upper | digit | rfl | rfl
  · simp only [isUpper, isLower, Bool.and_eq_true, decide_eq_true_eq, Bool.and_eq_false_iff,
      decide_eq_false_iff_not] at upper ⊢
    refine ⟨by simp [isPlain, isUpper, upper], by omega⟩
  · simp only [isDigit, isLower, Bool.and_eq_true, decide_eq_true_eq, Bool.and_eq_false_iff,
      decide_eq_false_iff_not] at digit ⊢
    refine ⟨by simp [isPlain, isDigit]; omega, by omega⟩
  · decide
  · decide

theorem upper_of_isSymbol {text : List Char} (holds : ∀ c ∈ text, isPlain c = true ∧
    isLower c = false) : upper text = some text := by
  have each : ∀ c ∈ text, upperChar c = some [c] := by
    intro c member
    obtain ⟨plain, capital⟩ := holds c member
    rw [upperChar, if_neg (by rw [capital]; exact Bool.false_ne_true),
      if_pos (toNat_of_isPlain plain)]
  clear holds
  induction text with
  | nil => rfl
  | cons c text ih =>
      have later := ih fun other member => each other (List.mem_cons_of_mem _ member)
      simp only [upper, Option.map_eq_some_iff] at later
      obtain ⟨parts, rest, whole⟩ := later
      simp only [upper, List.mapM_cons, each c (List.mem_cons_self ..), rest]
      simp [whole]

/-- A symbol without a marker is settled. -/
theorem symbolOf_again {value : Json} {form : String} (done : symbolOf value = .ok form)
    (clean : hasMarker form = false) : symbolOf (.str form) = .ok form := by
  obtain ⟨normalized, capitals, accepted, spelled, holds, rfl⟩ := symbolOf_eq_ok.1 done
  obtain ⟨some, short, -⟩ := headed_eq_true holds
  have plain := isPlain_of_isSymbol holds
  rw [hasMarker_ofList] at clean
  refine symbolOf_eq_ok.2 ⟨_, capitals, textOf_of_noSpace
    (noSpace_of_forall fun c member => (plain c member).1) some short clean, ?_, holds, rfl⟩
  rw [String.toList_ofList, upper_of_isSymbol plain]

theorem settled_symbol {value form : Json} (done : symbol value = .ok form)
    (clean : isUnsafe form = false) : Settled symbol form := by
  obtain ⟨capitals, accepted, rfl⟩ := map_eq_ok.1 done
  rw [isUnsafe_str] at clean
  exact ⟨map_eq_ok.2 ⟨capitals, symbolOf_again accepted clean, rfl⟩, by rw [isUnsafe_str, clean]⟩

theorem facetOf_eq_ok {value : Json} {form : String} :
    facetOf value = .ok form ↔
      ∃ normalized, textOf 100 value = .ok normalized ∧ hasSlash normalized.toList = false ∧
        slug normalized.toList ≠ [] ∧ form = String.ofList (slug normalized.toList) := by
  rw [facetOf, bind_eq_ok]
  constructor
  · rintro ⟨normalized, accepted, rest⟩
    split at rest
    · exact absurd rest nofun
    · next passed =>
        simp only [Bool.or_eq_true, not_or, Bool.not_eq_true, List.isEmpty_eq_false_iff] at passed
        exact ⟨normalized, accepted, passed.1, passed.2, (pure_eq_ok.1 rest).symm⟩
  · rintro ⟨normalized, accepted, whole, some, rfl⟩
    refine ⟨normalized, accepted, ?_⟩
    rw [if_neg (by simp [whole, some])]
    rfl

/-- The characters of a slug are small letters, digits and hyphens. -/
theorem isPlain_of_mem_slug {text : List Char} {c : Char} (member : c ∈ slug text) :
    isPlain c = true ∧ foldCase c = c := by
  have slugs : ∀ n : Fin 128, isSlug (Char.ofNat n) = true →
      isPlain (Char.ofNat n) = true ∧ foldCase (Char.ofNat n) = Char.ofNat n := by decide
  rcases mem_rejoin member with mark | ⟨-, inside⟩
  · rw [mark]
    decide
  · have held : isSlug c = true := by simpa using inside
    have below : c.toNat < 128 := by
      simp only [isSlug, isLower, isDigit, Bool.or_eq_true, Bool.and_eq_true,
        decide_eq_true_eq] at held
      omega
    exact ascii_forall (fun c => isSlug c = true → isPlain c = true ∧ foldCase c = c) slugs below held

/-- A slug is one of itself. -/
theorem slug_slug (text : List Char) : slug (slug text) = slug text := by
  have same : (slug text).map foldCase = slug text := by
    conv_rhs => rw [← List.map_id (slug text)]
    exact List.map_congr_left fun c member => (isPlain_of_mem_slug member).2
  conv_lhs => rw [slug, lower_of_forall fun c member => (isPlain_of_mem_slug member).1, same]
  exact rejoin_rejoin (by decide) _

/-- **A facet is settled as soon as it is accepted.** -/
theorem settled_facet {value form other : Json} (done : facet value = .ok form)
    (accepted : facet form = .ok other) : Settled facet form := by
  obtain ⟨_, first, rfl⟩ := map_eq_ok.1 done
  obtain ⟨normalized, -, -, some, rfl⟩ := facetOf_eq_ok.1 first
  obtain ⟨_, second, rfl⟩ := map_eq_ok.1 accepted
  obtain ⟨again, read, whole, -, -⟩ := facetOf_eq_ok.1 second
  have noSpace : ∀ c ∈ slug normalized.toList, isSpace c = false :=
    noSpace_of_forall fun c member => (isPlain_of_mem_slug member).1
  obtain ⟨raw, same, rfl, -, short, clean⟩ := textOf_eq_ok.1 read
  have kept : raw.toList = slug normalized.toList := by
    rw [← Json.str.inj same, String.toList_ofList]
  rw [kept, collapse, rejoin_of_all noSpace] at short clean whole
  rw [String.toList_ofList] at whole
  refine ⟨map_eq_ok.2 ⟨_, facetOf_eq_ok.2 ⟨_, textOf_of_noSpace noSpace some short clean, ?_⟩, rfl⟩,
    by rw [isUnsafe_str, hasMarker_ofList, clean]⟩
  rw [String.toList_ofList, slug_slug]
  exact ⟨whole, some, rfl⟩

/-! ### Lists of symbols -/

theorem mapM_eq_ok {α β : Type} {step : α → Result β} {items : List α} {forms : List β} :
    items.mapM step = .ok forms ↔ List.Forall₂ (fun item form => step item = .ok form) items forms := by
  induction items generalizing forms with
  | nil =>
      rw [List.mapM_nil, pure_eq_ok, List.forall₂_nil_left_iff]
      exact eq_comm
  | cons item items ih =>
      rw [List.mapM_cons, bind_eq_ok]
      constructor
      · rintro ⟨form, first, rest⟩
        obtain ⟨later, others, same⟩ := bind_eq_ok.1 rest
        obtain rfl := pure_eq_ok.1 same
        exact .cons first (ih.1 others)
      · intro both
        cases both with
        | cons first others =>
            exact ⟨_, first, bind_eq_ok.2 ⟨_, ih.2 others, rfl⟩⟩

/-- Every form is the form of something. -/
theorem exists_of_forall₂ {α β : Type} {related : α → β → Prop} {items : List α} {forms : List β}
    (each : List.Forall₂ related items forms) : ∀ form ∈ forms, ∃ item, related item form := by
  induction each with
  | nil => exact fun form member => absurd member List.not_mem_nil
  | cons first others ih => exact List.forall_mem_cons.2 ⟨⟨_, first⟩, ih⟩

theorem isUnsafe_arr {items : List Json} :
    isUnsafe (.arr items) = true ↔ ∃ item ∈ items, isUnsafe item = true := by
  rw [isUnsafe]
  induction items with
  | nil => simp [isUnsafeItems]
  | cons item items ih => simp [isUnsafeItems, ih]

theorem symbols_eq_ok {value form : Json} (done : symbols value = .ok form) :
    value = .null ∧ form = .null ∨
      ∃ items forms, value = .arr items ∧ form = .arr forms ∧ items.length ≤ 10 ∧
        List.Forall₂ (fun item form => symbol item = .ok form) items forms := by
  cases value with
  | null => exact .inl ⟨rfl, (Except.ok.inj done).symm⟩
  | arr items =>
      obtain ⟨few, rest⟩ := check_eq_ok.1 done
      obtain ⟨forms, each, same⟩ := bind_eq_ok.1 rest
      have short := require_eq_ok.1 few
      rw [Bool.and_eq_true, decide_eq_true_eq] at short
      exact .inr ⟨items, forms, rfl, (pure_eq_ok.1 same).symm, short.1, mapM_eq_ok.1 each⟩
  | _ => exact absurd done nofun

theorem settled_symbols {value form : Json} (done : symbols value = .ok form)
    (clean : isUnsafe form = false) : Settled symbols form := by
  rcases symbols_eq_ok done with ⟨-, rfl⟩ | ⟨items, forms, -, rfl, few, each⟩
  · exact ⟨rfl, rfl⟩
  have settled : ∀ form ∈ forms, Settled symbol form := by
    intro form member
    obtain ⟨item, done⟩ := exists_of_forall₂ each form member
    refine settled_symbol done (Bool.eq_false_iff.2 fun held => ?_)
    rw [isUnsafe_arr.2 ⟨form, member, held⟩] at clean
    exact absurd clean nofun
  refine ⟨?_, clean⟩
  have texts : forms.all Json.isStr = true := by
    refine List.all_eq_true.2 fun form member => ?_
    obtain ⟨text, -, same⟩ := map_eq_ok.1 (settled form member).1
    rw [← same]
    rfl
  rw [symbols]
  refine check_eq_ok.2 ⟨require_eq_ok.2 ?_, bind_eq_ok.2 ⟨forms, mapM_eq_ok.2 ?_, rfl⟩⟩
  · rw [Bool.and_eq_true, decide_eq_true_eq, ← each.length_eq]
    exact ⟨few, texts⟩
  · exact List.forall₂_same.2 fun form member => (settled form member).1

/-- **Symbols have a marker exactly if one of the values reads as one in capitals.** -/
theorem isUnsafe_symbols {value form : Json} (done : symbols value = .ok form) :
    isUnsafe form = true ↔ ∃ item ∈ value.arr?.getD [], readsAsMarker item = true := by
  rcases symbols_eq_ok done with ⟨rfl, rfl⟩ | ⟨items, forms, rfl, rfl, -, each⟩
  · simp [isUnsafe, Json.arr?]
  rw [isUnsafe_arr, Json.arr?, Option.getD_some]
  clear done
  induction each with
  | nil => simp
  | cons first others ih =>
      obtain ⟨text, accepted, rfl⟩ := map_eq_ok.1 first
      rw [List.exists_mem_cons_iff, List.exists_mem_cons_iff, ih, isUnsafe_str,
        hasMarker_symbol accepted]

end NewsCollect.SafeProjection
