/-
**The cutover backfills nothing.**

The watermark is the place of the newest item when it is read, and is persisted as a text. The text is
read as the same place whenever a pass loads it, so that no item that was there then is ever behind it.

* `uuidOf_uuidText`, `decode_encode`: **what is written is read back**.
* `cutoverWatermarkCandidate_iff`: the candidate is the last of the items.
* `CutsOver.backfills_nothing`: **no item from before the cutover gets an intent**, whatever the passes
  and the other writers do afterwards.
* `CutsOver.again_iff`: the cutover is repeated only as long as there is no newer item.
-/

import NewsCollect.Proof.Intents

namespace NewsCollect.Notifications

open Calendar Drafting Interleaving SafeProjection
open Collection (Uuid uuidText hexDigit hexText)

/-! ### Hexadecimal digits -/

section Digits

variable {width number : Nat} {text : List Char} {c : Char}

theorem hexValue_hexDigit : ∀ digit < 16, hexValue (hexDigit digit) = some digit := by decide

/-- A digit is none of the characters that are left out. -/
theorem hexDigit_plain : ∀ digit < 16, hexDigit digit ≠ '-' ∧ hexDigit digit ≠ 'u' ∧
    isBrace (hexDigit digit) = false := by decide

/-- A digit is none of the characters that stand about the digits. -/
theorem hexDigit_bare : ∀ digit < 16, (∀ ascii, isBlank ascii (hexDigit digit) = false) ∧
    hexDigit digit ≠ '+' ∧ hexDigit digit ≠ 'x' ∧ hexDigit digit ≠ 'X' ∧ hexDigit digit ≠ '_' := by
  decide

theorem mem_hexText (member : c ∈ hexText width number) : ∃ digit < 16, c = hexDigit digit := by
  induction width generalizing number with
  | zero => exact absurd member List.not_mem_nil
  | succ width ih =>
      rcases List.mem_append.1 member with high | low
      · exact ih high
      · exact ⟨number % 16, Nat.mod_lt _ (by decide), List.mem_singleton.1 low⟩

theorem length_hexText : (hexText width number).length = width := by
  induction width generalizing number with
  | zero => rfl
  | succ width ih => rw [hexText, List.length_append, ih, List.length_singleton]

/-- The low digits, after the high ones. -/
theorem hexText_add {high low : Nat} :
    hexText (high + low) number = hexText high (number / 16 ^ low) ++ hexText low number := by
  induction low generalizing number with
  | zero => rw [Nat.add_zero, Nat.pow_zero, Nat.div_one, hexText, List.append_nil]
  | succ low ih =>
      rw [Nat.add_succ, hexText, ih, hexText, List.append_assoc, Nat.div_div_eq_div_mul,
        Nat.pow_succ, Nat.mul_comm]

/-- One group of an identifier, after the groups before it. -/
theorem hexText_group (high low : Nat) :
    hexText (high + 4) (number / 16 ^ low) =
      hexText high (number / 16 ^ (low + 4)) ++ hexText 4 (number / 16 ^ low) := by
  rw [hexText_add, Nat.div_div_eq_div_mul, Nat.pow_add]

theorem hexNumber_concat :
    hexNumber (text ++ [c]) =
      (hexNumber text).bind fun high => (hexValue c).map fun low => high * 16 + low := by
  unfold hexNumber
  rw [List.mapM_append, List.mapM_cons, List.mapM_nil]
  cases text.mapM hexValue with
  | none => rfl
  | some digits =>
      cases hexValue c with
      | none => rfl
      | some digit => exact congrArg some (List.foldl_append ..)

/-- **The digits of a number** are read as its remainder. -/
theorem hexNumber_hexText : hexNumber (hexText width number) = some (number % 16 ^ width) := by
  induction width generalizing number with
  | zero => rw [Nat.pow_zero, Nat.mod_one]; rfl
  | succ width ih =>
      rw [hexText, hexNumber_concat, ih, hexValue_hexDigit _ (Nat.mod_lt _ (by decide)),
        Option.bind_some, Option.map_some, Nat.pow_succ, Nat.mul_comm (16 ^ width), Nat.mod_mul]
      congr 1
      omega

theorem unsigned_of_absent (absent : '+' ∉ text) : unsigned text = text := by
  unfold unsigned
  split
  · exact absurd (List.mem_cons_self ..) absent
  · rfl

theorem unprefixed_of_absent (small : 'x' ∉ text) (capital : 'X' ∉ text) :
    unprefixed text = text := by
  unfold unprefixed
  split
  · next zero mark rest =>
    rw [if_neg]
    rintro ⟨-, rfl | rfl⟩
    · exact small (List.mem_cons_of_mem _ (List.mem_cons_self ..))
    · exact capital (List.mem_cons_of_mem _ (List.mem_cons_self ..))
  · rfl

/-- A text in which no character fulfils a condition keeps both its ends. -/
theorem trimmed_of_none {drop : Char → Bool} (none : ∀ c ∈ text, drop c = false) :
    (text.dropWhile drop).rdropWhile drop = text := by
  rw [List.dropWhile_eq_self_iff.2 fun inside => Bool.eq_false_iff.1 (none _ (List.getElem_mem inside)),
    List.rdropWhile_eq_self_iff.2 fun present =>
      Bool.eq_false_iff.1 (none _ (List.getLast_mem present))]

/-- **The digits of a number are read as the number.** -/
theorem hexInt_hexText (positive : 0 < width) :
    hexInt (hexText width number) = some (number % 16 ^ width) := by
  have bare : ∀ c ∈ hexText width number, (∀ ascii, isBlank ascii c = false) ∧ c ≠ '+' ∧ c ≠ 'x' ∧
      c ≠ 'X' ∧ c ≠ '_' := by
    intro c member
    obtain ⟨digit, below, rfl⟩ := mem_hexText member
    exact hexDigit_bare digit below
  have trimmed := fun ascii => trimmed_of_none fun c member => (bare c member).1 ascii
  have signless := unsigned_of_absent fun member => (bare _ member).2.1 rfl
  have markless := unprefixed_of_absent (fun member => (bare _ member).2.2.1 rfl)
    fun member => (bare _ member).2.2.2.1 rfl
  have single : (hexText width number).splitOn '_' = [hexText width number] :=
    List.splitOn_eq_singleton fun member => (bare _ member).2.2.2.2 rfl
  have whole : (hexText width number).filter (· != '_') = hexText width number :=
    List.filter_eq_self.2 fun c member => bne_iff_ne.2 (bare c member).2.2.2.2
  have some : hexText width number ≠ [] := by
    rw [← List.length_pos_iff, length_hexText]
    exact positive
  rw [hexInt, trimmed, signless, markless, single, whole, hexNumber_hexText, if_neg]
  simpa using some

/-- A word whose first character does not occur is not left out. -/
theorem erased_of_absent {word : List Char} (absent : c ∉ text) : erased (c :: word) 0 text = text := by
  induction text with
  | nil => rfl
  | cons first text ih =>
      obtain ⟨different, later⟩ := List.ne_and_not_mem_of_not_mem_cons absent
      have other : (c :: word).isPrefixOf (first :: text) = false := by
        rw [List.isPrefixOf, beq_eq_false_iff_ne.2 different, Bool.false_and]
      rw [erased, other, ih later]
      rfl

end Digits

/-! ### Identifiers -/

section Identifiers

variable {id : Uuid} {c : Char}

theorem mem_uuidText (member : c ∈ (uuidText id).toList) :
    c = '-' ∨ ∃ digit < 16, c = hexDigit digit := by
  rw [uuidText, String.toList_ofList] at member
  simp only [List.mem_append, List.mem_cons] at member
  rcases member with (((first | rfl | second) | rfl | third) | rfl | fourth) | rfl | fifth
  · exact .inr (mem_hexText first)
  · exact .inl rfl
  · exact .inr (mem_hexText second)
  · exact .inl rfl
  · exact .inr (mem_hexText third)
  · exact .inl rfl
  · exact .inr (mem_hexText fourth)
  · exact .inl rfl
  · exact .inr (mem_hexText fifth)

/-- The digits of the groups, without the hyphens. -/
theorem filter_uuidText : (uuidText id).toList.filter (· != '-') = hexText 32 id := by
  have plain : ∀ width number, (hexText width number).filter (· != '-') = hexText width number := by
    intro width number
    refine List.filter_eq_self.2 fun c member => ?_
    obtain ⟨digit, below, rfl⟩ := mem_hexText member
    exact bne_iff_ne.2 (hexDigit_plain digit below).1
  have hyphen : ∀ text : List Char, ('-' :: text).filter (· != '-') = text.filter (· != '-') :=
    fun text => List.filter_cons_of_neg (by decide)
  rw [uuidText, String.toList_ofList]
  simp only [List.filter_append, hyphen, plain]
  rw [show hexText 32 id = hexText (20 + 12) id from rfl, hexText_add, hexText_group 16 12,
    hexText_group 12 16, hexText_group 8 20]

/-- **The text of an identifier is read as the identifier.** -/
theorem uuidOf_uuidText (below : id < 16 ^ 32) : uuidOf (uuidText id).toList = some id := by
  have absent : 'u' ∉ (uuidText id).toList := by
    intro member
    rcases mem_uuidText member with hyphen | ⟨digit, small, same⟩
    · exact absurd hyphen (by decide)
    · exact (hexDigit_plain digit small).2.1 same.symm
  have unbraced : ∀ c ∈ (uuidText id).toList, isBrace c = false := by
    intro c member
    rcases mem_uuidText member with rfl | ⟨digit, small, rfl⟩
    · decide
    · exact (hexDigit_plain digit small).2.2
  have urn : erased "urn:".toList 0 (uuidText id).toList = (uuidText id).toList :=
    erased_of_absent absent
  have uuid : erased "uuid:".toList 0 (uuidText id).toList = (uuidText id).toList :=
    erased_of_absent absent
  rw [uuidOf, urn, uuid, trimmed_of_none unbraced, filter_uuidText, length_hexText, if_pos rfl,
    hexInt_hexText (by decide), Nat.mod_eq_of_lt below]

end Identifiers

namespace IntentWatermark

/-- **A watermark is read back as it was written.** -/
theorem decode_encode {watermark : IntentWatermark} (inside : inRange watermark.createdAt = true)
    (below : watermark.contentItemId < 16 ^ 32) : decode watermark.encode = .ok watermark := by
  have apart : ∀ c ∈ isoFormat watermark.createdAt 0, (c != '|') = true := by
    intro c member
    rw [bne_iff_ne]
    rintro rfl
    rcases mem_isoFormat member with digit | mark
    · exact absurd digit (by decide)
    · exact absurd mark (by decide)
  have text : watermark.encode.toList =
      isoFormat watermark.createdAt 0 ++ '|' :: (uuidText watermark.contentItemId).toList :=
    String.toList_ofList
  have timestamp : watermark.encode.toList.takeWhile (· != '|') = isoFormat watermark.createdAt 0 := by
    rw [text, List.takeWhile_append_of_pos apart, List.takeWhile_cons_of_neg (by decide),
      List.append_nil]
  have identity : watermark.encode.toList.dropWhile (· != '|') =
      '|' :: (uuidText watermark.contentItemId).toList := by
    rw [text, List.dropWhile_append_of_pos apart, List.dropWhile_cons_of_neg (by decide)]
  rw [decode, timestamp, identity]
  simp only [fromIsoFormat_isoFormat inside, uuidOf_uuidText below, Int.sub_zero]

/-! ### The newest item -/

variable {left right : IntentWatermark}

/-- A place that no other is after. -/
def Last (place : IntentWatermark) (places : List IntentWatermark) : Prop :=
  place ∈ places ∧ ∀ other ∈ places, other.rank ≤ place.rank

theorem Last.unique {places : List IntentWatermark} (last : left.Last places)
    (other : right.Last places) : left = right :=
  rank_injective (le_antisymm (other.2 left last.1) (last.2 right other.1))

theorem last_singleton : left.Last [left] :=
  ⟨List.mem_singleton_self _, fun _ member => (List.mem_singleton.1 member ▸ le_rfl)⟩

/-- The later of a place and the last of others is the last of them all. -/
theorem Last.concat {places : List IntentWatermark} (last : left.Last places) :
    (left.later right).Last (places ++ [right]) := by
  unfold later
  split
  · next newer =>
    have after := (before_iff.1 newer).le
    refine ⟨List.mem_append_right _ (List.mem_singleton_self _), fun other member => ?_⟩
    rcases List.mem_append.1 member with old | new
    · exact (last.2 other old).trans after
    · rw [List.mem_singleton.1 new]
  · next older =>
    have after := not_before_iff.1 (Bool.eq_false_iff.2 older)
    refine ⟨List.mem_append_left _ last.1, fun other member => ?_⟩
    rcases List.mem_append.1 member with old | new
    · exact last.2 other old
    · rw [List.mem_singleton.1 new]
      exact after

end IntentWatermark

section Candidate

variable {store : Store} {watermark : IntentWatermark}

/-- The places of the items. -/
def Store.positions (store : Store) : List IntentWatermark := store.contents.map ContentRow.position

theorem foldl_later {places : List IntentWatermark} :
    ∀ {newest : Option IntentWatermark} {seen : List IntentWatermark},
      newest.elim (seen = []) (fun place => place.Last seen) →
        (places.foldl (fun newest place => some (newest.elim place fun other => other.later place))
          newest).elim (seen ++ places = []) fun place => place.Last (seen ++ places) := by
  induction places with
  | nil =>
      intro newest seen known
      rw [List.append_nil]
      exact known
  | cons place places ih =>
      intro newest seen known
      rw [List.foldl_cons, List.append_cons]
      refine ih ?_
      cases newest with
      | none =>
          obtain rfl : seen = [] := known
          exact IntentWatermark.last_singleton
      | some newest => exact IntentWatermark.Last.concat known

/-- **The candidate is the place of the last item.** -/
theorem cutoverWatermarkCandidate_iff :
    cutoverWatermarkCandidate store = some watermark ↔ watermark.Last store.positions := by
  have spec := @foldl_later store.positions none [] rfl
  rw [List.nil_append] at spec
  change Option.elim (cutoverWatermarkCandidate store) _ _ at spec
  constructor
  · intro found
    rw [found] at spec
    exact spec
  · intro last
    cases found : cutoverWatermarkCandidate store with
    | none =>
        rw [found] at spec
        have empty : store.positions = [] := spec
        rw [empty] at last
        exact absurd last.1 List.not_mem_nil
    | some other =>
        rw [found] at spec
        rw [IntentWatermark.Last.unique spec last]

end Candidate

/-! ### The cutover -/

section Cutover

variable {library : StandardLibrary} {gate gate' : AuthorityAudit} {first store store' : Store}
  {newest : Option IntentWatermark} {watermark : IntentWatermark} {outcome : Bool × Store}
  {read now last : World statements (Result ReconcileReport) Store Int}

/-- **What the preparation can do.** -/
theorem prepare_eq_ok :
    prepareCutoverWatermark gate newest store = .ok outcome ↔
      gate.passes = true ∧ ∃ candidate, newest = some candidate ∧
        (store.metadata = none ∧
            outcome = (true, { store with metadata := some candidate.encode }) ∨
          ∃ text, store.metadata = some text ∧ IntentWatermark.decode text = .ok candidate ∧
            outcome = (false, store)) := by
  unfold prepareCutoverWatermark
  rw [check_eq_ok, require_eq_ok, bind_eq_ok]
  simp only [orRaise_eq_ok]
  refine and_congr_right fun _ => exists_congr fun candidate => and_congr_right fun _ => ?_
  cases persisted : store.metadata with
  | none =>
      rw [pure_eq_ok, persistCutoverWatermark, persisted]
      refine ⟨fun made => .inl ⟨rfl, made.symm⟩, ?_⟩
      rintro (⟨-, rfl⟩ | ⟨text, missing, -⟩)
      · rfl
      · cases missing
  | some text =>
      change (IntentWatermark.decode text >>= fun existing =>
        require (existing = candidate) .runtimeError "cutover_watermark_immutable" >>=
          fun _ => pure (false, store)) = _ ↔ _
      simp only [bind_eq_ok, require_eq_ok, pure_eq_ok, decide_eq_true_eq]
      constructor
      · rintro ⟨existing, decoded, _, rfl, rfl⟩
        exact .inr ⟨text, rfl, decoded, rfl⟩
      · rintro (⟨missing, -⟩ | ⟨text', same, decoded, rfl⟩)
        · cases missing
        · obtain rfl := Option.some.inj same
          exact ⟨candidate, decoded, (), rfl, rfl⟩

/-- **A cutover among the passes and the other writers**: the newest item is read, the watermark is
persisted, and all of them go on. The times and the identifiers of the items are those of a database. -/
structure CutsOver (library : StandardLibrary) (gate : AuthorityAudit) (first : Store)
    (read now : World statements (Result ReconcileReport) Store Int) (store : Store)
    (last : World statements (Result ReconcileReport) Store Int) : Prop where
  quiet : Quiet first
  sound : Sound first
  reads : ∃ events, World.run (reconcilers library) (.initial first) events = some read
  goes : ∃ events, World.run (reconcilers library) read events = some now
  persists : prepareCutoverWatermark gate (cutoverWatermarkCandidate read.state) now.state =
    .ok (true, store)
  continues : ∃ events, World.run (reconcilers library) { now with state := store } events = some last
  fits : ∀ content ∈ read.state.contents, inRange content.createdAt = true ∧ content.id < 16 ^ 32

/-- What a run keeps, from any state in which the tables are in order. -/
theorem keeps_of_run {events : List (Event Turn Int Writing)}
    (adherent : (passDiscipline library).Adherent read)
    (order : InOrder read.state ((passDiscipline library).phases read))
    (ran : World.run (reconcilers library) read events = some last) :
    (passDiscipline library).Adherent last ∧
      InOrder last.state ((passDiscipline library).phases last) ∧ Grows read.state last.state := by
  have reached := Discipline.Reaches.of_run (passDiscipline library) (.refl read) ran
  exact ⟨reached.adherent _ adherent, reached.invariant (passDiscipline library) inOrder_preserved
    adherent ⟨order, .of_eq rfl rfl⟩⟩

namespace CutsOver

variable (cut : CutsOver library gate first read now store last)

include cut

/-- **What a cutover leaves**: the place of the last of the items that were there is persisted, and is
what every pass reads. -/
theorem persisted : ∃ watermark : IntentWatermark, watermark.Last read.state.positions ∧
    last.state.metadata = some watermark.encode ∧
    IntentWatermark.decode watermark.encode = .ok watermark ∧ Sound last.state ∧
    Grows read.state last.state := by
  obtain ⟨events, reads⟩ := cut.reads
  obtain ⟨events', goes⟩ := cut.goes
  obtain ⟨events'', continues⟩ := cut.continues
  obtain ⟨-, watermark, candidate, written⟩ := prepare_eq_ok.1 cut.persists
  have last' := cutoverWatermarkCandidate_iff.1 candidate
  obtain ⟨content, member, placed⟩ := List.mem_map.1 last'.1
  have decoded : IntentWatermark.decode watermark.encode = .ok watermark := by
    obtain ⟨inside, below⟩ := cut.fits content member
    rw [← placed]
    exact IntentWatermark.decode_encode inside below
  obtain ⟨adherent, order, -⟩ := keeps_of_run ((passDiscipline library).adherent_initial first)
    (inOrder_initial cut.quiet cut.sound) reads
  obtain ⟨adherent', order', grown⟩ := keeps_of_run adherent order goes
  rcases written with ⟨unset, same⟩ | ⟨text, -, -, same⟩
  · obtain ⟨-, rfl⟩ := Prod.mk.inj same
    have step : write now.state (.watermark watermark) =
        some { now.state with metadata := some watermark.encode } := by
      rw [write, persistCutoverWatermark, unset]
    obtain ⟨-, order'', grown'⟩ := @keeps_of_run library
      { now with state := { now.state with metadata := some watermark.encode } } last events''
      adherent' (order'.written step) continues
    exact ⟨watermark, last', grown'.metadata _ rfl, decoded, order''.sound,
      grown.trans ((grows_written step).trans grown')⟩
  · cases same

/-- **The cutover backfills nothing.** An item that was there when the newest one was read never gets
an intent of a pass. -/
theorem backfills_nothing {content : ContentRow} (there : content ∈ read.state.contents)
    {draft : Draft Notification} (present : draft ∈ last.state.notifications.all)
    (authored : draft.author ≠ none) : draft.row.contentItemId ≠ some content.id := by
  intro item
  obtain ⟨watermark, newest, persisted, decoded, sound, grown⟩ := cut.persisted
  obtain ⟨founding, member, provider, text, watermark', refers, -, -, same, decoded', behind⟩ :=
    sound.intents draft present authored
  obtain rfl : watermark.encode = text := Option.some.inj (persisted.symm.trans same)
  obtain rfl : watermark = watermark' := Except.ok.inj (decoded.symm.trans decoded')
  obtain ⟨row, member', placed⟩ := grown.contents content there
  have named : row.id = founding.id := by
    rw [show row.id = content.id from congrArg IntentWatermark.contentItemId placed]
    exact Option.some.inj (item.symm.trans refers)
  obtain rfl : row = founding := List.inj_on_of_nodup_map last.state.distinct member' member named
  rw [IntentWatermark.before_iff, placed] at behind
  exact behind.not_ge (newest.2 _ (List.mem_map_of_mem there))

/-- **The cutover is repeated only as long as there is no newer item**, and then it changes nothing. -/
theorem again_iff :
    prepareCutoverWatermark gate' (cutoverWatermarkCandidate last.state) last.state = .ok outcome ↔
      gate'.passes = true ∧ outcome = (false, last.state) ∧
        ∀ later ∈ last.state.contents, ∃ content ∈ read.state.contents,
          content.position.before later.position = false := by
  obtain ⟨watermark, newest, persisted, decoded, -, grown⟩ := cut.persisted
  have known : (∃ candidate, cutoverWatermarkCandidate last.state = some candidate ∧
      (last.state.metadata = none ∧
          outcome = (true, { last.state with metadata := some candidate.encode }) ∨
        ∃ text, last.state.metadata = some text ∧ IntentWatermark.decode text = .ok candidate ∧
          outcome = (false, last.state))) ↔
      outcome = (false, last.state) ∧ watermark.Last last.state.positions := by
    constructor
    · rintro ⟨candidate, found, ⟨missing, -⟩ | ⟨text, same, decoded', rfl⟩⟩
      · rw [persisted] at missing
        cases missing
      · obtain rfl : watermark.encode = text := Option.some.inj (persisted.symm.trans same)
        obtain rfl : watermark = candidate := Except.ok.inj (decoded.symm.trans decoded')
        exact ⟨rfl, cutoverWatermarkCandidate_iff.1 found⟩
    · rintro ⟨rfl, found⟩
      exact ⟨watermark, cutoverWatermarkCandidate_iff.2 found,
        .inr ⟨watermark.encode, persisted, decoded, rfl⟩⟩
  rw [prepare_eq_ok, known]
  refine and_congr_right fun _ => and_congr_right fun _ => ⟨fun still later member => ?_, fun older => ?_⟩
  · obtain ⟨content, there, placed⟩ := List.mem_map.1 newest.1
    refine ⟨content, there, IntentWatermark.not_before_iff.2 ?_⟩
    rw [placed]
    exact still.2 _ (List.mem_map_of_mem member)
  · obtain ⟨content, there, placed⟩ := List.mem_map.1 newest.1
    obtain ⟨row, member, same⟩ := grown.contents content there
    refine ⟨List.mem_map.2 ⟨row, member, same.trans placed⟩, fun place at' => ?_⟩
    obtain ⟨later, member', rfl⟩ := List.mem_map.1 at'
    obtain ⟨old, there', behind⟩ := older later member'
    exact (IntentWatermark.not_before_iff.1 behind).trans (newest.2 _ (List.mem_map_of_mem there'))

end CutsOver

end Cutover

/-! ### A cutover with an item before it and one after it -/

/-- One article, and no watermark. -/
def earlyStore : Store :=
  { oilStore with contents := [oilItem 1 0], metadata := none, distinct := by decide }

/-- The watermark is at the article. -/
def cutStore : Store := { earlyStore with metadata := some (IntentWatermark.encode ⟨0, 1⟩) }

/-- The audit of an authority with nothing in the way. -/
def clearAudit : AuthorityAudit := ⟨1, 0, []⟩

/-- Another article is written, and two passes are run. -/
def cutEvents : List (Event Turn Int Writing) := .env (.content (oilItem 2 1)) :: oilEvents

/-- The tables, with no task. -/
abbrev idle (store : Store) : World statements (Result ReconcileReport) Store Int := .initial store

theorem cut_over {events : List (Event Turn Int Writing)}
    {last : World statements (Result ReconcileReport) Store Int}
    (ran : World.run (reconcilers quietLibrary) (idle cutStore) events = some last) :
    CutsOver quietLibrary clearAudit earlyStore (idle earlyStore) (idle earlyStore) cutStore last where
  quiet := ⟨oilStore_quiet.notifications, oilStore_quiet.audit, rfl, rfl, rfl⟩
  sound := ⟨fun _ member => absurd member List.not_mem_nil, fun _ => Nat.zero_le _,
    fun _ => Nat.zero_le _⟩
  reads := ⟨[], rfl⟩
  goes := ⟨[], rfl⟩
  persists := prepare_eq_ok.2 ⟨by decide, ⟨0, 1⟩, by decide, .inl ⟨rfl, rfl⟩⟩
  continues := ⟨events, ran⟩
  fits := by decide +kernel

theorem backfills_nothing_oil : ∃ last,
    World.run (reconcilers quietLibrary) (idle cutStore) cutEvents = some last ∧
      ∃ draft ∈ last.state.notifications.all, draft.row.contentItemId = some 2 ∧
        draft.row.contentItemId ≠ some (oilItem 1 0).id := by
  have goes : ((World.run (reconcilers quietLibrary) (idle cutStore) cutEvents).any fun world =>
      world.state.notifications.all.any fun draft =>
        draft.author == some 0 && draft.row.contentItemId == some 2) = true := by
    decide +kernel
  obtain ⟨last, ran, made⟩ := (Option.any_eq_true _ _).1 goes
  obtain ⟨draft, present, both⟩ := List.any_eq_true.1 made
  obtain ⟨author, item⟩ := Bool.and_eq_true_iff.1 both
  have authored : draft.author ≠ none := by
    rw [eq_of_beq author]
    exact Option.some_ne_none _
  exact ⟨last, ran, draft, present, eq_of_beq item,
    (cut_over ran).backfills_nothing (List.mem_singleton_self _) present authored⟩

/-- Behind the other article the cutover is refused; before it, it is repeated. -/
theorem again_iff_oil : ∃ calm last,
    World.run (reconcilers quietLibrary) (idle cutStore) (.start 10 :: statementsOf 0 4) =
        some calm ∧
      prepareCutoverWatermark clearAudit (cutoverWatermarkCandidate calm.state) calm.state =
        .ok (false, calm.state) ∧
    World.run (reconcilers quietLibrary) (idle cutStore) cutEvents = some last ∧
      prepareCutoverWatermark clearAudit (cutoverWatermarkCandidate last.state) last.state ≠
        .ok (false, last.state) := by
  have stays : ((World.run (reconcilers quietLibrary) (idle cutStore)
      (.start 10 :: statementsOf 0 4)).any fun world =>
        world.state.contents.all fun content => content.position == ⟨0, 1⟩) = true := by
    decide +kernel
  have goes : ((World.run (reconcilers quietLibrary) (idle cutStore) cutEvents).any fun world =>
      world.state.contents.any fun content => content.position == ⟨1, 2⟩) = true := by
    decide +kernel
  obtain ⟨calm, ran', old⟩ := (Option.any_eq_true _ _).1 stays
  obtain ⟨last, ran, made⟩ := (Option.any_eq_true _ _).1 goes
  obtain ⟨later, present, placed⟩ := List.any_eq_true.1 made
  refine ⟨calm, last, ran', ?_, ran, fun again => ?_⟩
  · refine (CutsOver.again_iff (cut_over ran')).2 ⟨by decide, rfl, fun later member => ?_⟩
    refine ⟨oilItem 1 0, List.mem_singleton_self _, ?_⟩
    rw [eq_of_beq (List.all_eq_true.1 old later member)]
    decide
  · obtain ⟨-, -, older⟩ := (CutsOver.again_iff (cut_over ran)).1 again
    obtain ⟨content, there, behind⟩ := older later present
    obtain rfl := List.mem_singleton.1 there
    rw [eq_of_beq placed] at behind
    exact absurd behind (by decide)

end NewsCollect.Notifications
