/-
**What a page leaves to continue from can be encoded.**

The adapter computes the state to continue from, the codec decides which states there are; they
live in different modules and have limits of their own. Whatever the response, a state that comes
with more rows to read is in the grammar of its operation.

* `marketaux_progress`, `finnhub_progress`, `eia_progress`, `sec_progress`: one theorem a provider.
* `progress_grammar`: for every operation.
-/

import NewsCollect.Proof.Grammar
import NewsCollect.Proof.Windows
import NewsCollect.Providers.Breadth

namespace NewsCollect.Providers

open Calendar Text

variable {rules : RowRules} {provider operation : String} {config state : Object} {limit : Nat}
  {body : Json} {rejected : List String} {page : Page}

/-! ### Pages by number and by offset -/

theorem marketaux_progress {number : Int} (ok : marketauxPayloads rules body config limit number
    rejected = .ok page) (first : 1 ≤ number) (last : number < 1000) :
    Grammar "news_all" config page.progress := by
  obtain ⟨data, -, ok⟩ := bind_eq_ok.1 ok
  cases data with
  | arr rows =>
      obtain ⟨-, ok⟩ := check_eq_ok.1 ok
      obtain ⟨read, -, ok⟩ := bind_eq_ok.1 ok
      cases found : foundCount body with
      | none => simp [found, marketauxPage, raise] at ok
      | some total =>
          simp only [found, marketauxPage, check_eq_ok, pure_eq_ok] at ok
          obtain ⟨-, -, -, rfl⟩ := ok
          exact .page (number + 1) rfl (by omega) (by omega)
  | _ => simp [marketauxRows, raise] at ok

/-- An offset with more rows after it is past a row, and within the limit of the codec. -/
theorem eiaPage_progress {read : Rows} {rows : Nat} {offset : Int} {total : Option Int}
    (of : operation = "electricity_retail_sales" ∨ operation = "electricity_rto_region_data")
    (ok : eiaPage read rows offset total = .ok page) (more : page.more = true)
    (least : 0 ≤ offset) : Grammar operation config page.progress := by
  cases total with
  | none => simp [eiaPage, raise] at ok
  | some total =>
      simp only [eiaPage, check_eq_ok, pure_eq_ok, require_eq_ok, Bool.and_eq_true,
        decide_eq_true_eq, Bool.not_eq_true', Bool.and_eq_false_iff, decide_eq_false_iff_not,
        beq_eq_false_iff_ne] at ok
      obtain ⟨⟨-, most⟩, -, nonempty, rfl⟩ := ok
      have before : offset + rows < total := by simpa using more
      have rowsRead : rows ≠ 0 := nonempty.resolve_left (not_not_intro before)
      exact .offset _ of (by omega) (by omega)

theorem eia_progress {offset : Int}
    (of : operation = "electricity_retail_sales" ∨ operation = "electricity_rto_region_data")
    (ok : eiaPayloads rules operation body config limit offset rejected = .ok page)
    (more : page.more = true) (least : 0 ≤ offset) :
    Grammar operation config page.progress := by
  obtain ⟨response, -, ok⟩ := bind_eq_ok.1 ok
  obtain ⟨data, -, ok⟩ := bind_eq_ok.1 ok
  cases data with
  | arr rows =>
      obtain ⟨-, ok⟩ := check_eq_ok.1 ok
      obtain ⟨read, -, ok⟩ := bind_eq_ok.1 ok
      exact eiaPage_progress of ok more least
  | _ => simp [eiaRows, raise] at ok

/-! ### Pages by key -/

/-- The last element of a list is one of its elements. -/
theorem mem_of_getLast? {α : Type} {items : List α} {final : α}
    (last : items.getLast? = some final) : final ∈ items := by
  obtain ⟨front, rfl⟩ := List.getLast?_eq_some_iff.1 last
  simp

/-- Deduplication adds nothing. -/
theorem mem_of_deduplicate {payloads kept : List Object} {held : List (String × String × Object)}
    (ok : deduplicate rules payloads held = .ok kept) {payload : Object} (member : payload ∈ kept) :
    payload ∈ payloads ∨ payload ∈ held.map fun entry => entry.2.2 := by
  induction payloads generalizing held with
  | nil =>
      simp only [deduplicate, Except.ok.injEq] at ok
      exact .inr (ok ▸ member)
  | cons first rest ih =>
      unfold deduplicate at ok
      split at ok
      · obtain ⟨digest, -, ok⟩ := bind_eq_ok.1 ok
        split at ok
        · split at ok
          · rcases ih ok with later | earlier
            · exact .inl (List.mem_cons_of_mem _ later)
            · exact .inr earlier
          · simp [raise] at ok
        · rcases ih ok with later | earlier
          · exact .inl (List.mem_cons_of_mem _ later)
          · simp only [List.map_append, List.map_cons, List.map_nil, List.mem_append,
              List.mem_singleton] at earlier
            rcases earlier with earlier | rfl
            · exact .inr earlier
            · exact .inl (List.mem_cons_self ..)
      · simp [raise] at ok

/-- A payload with a key: its two parts, under the names its page is ordered by. -/
def Keyed (name : String) (payload : Object) : Prop :=
  ∃ first second, payload.get name = .str first ∧ payload.get "provider_item_id" = .str second ∧
    IsKeyPart first ∧ IsKeyPart second

/-- Every payload read so far has a key. -/
def AllKeyed (name : String) (rows : Rows) : Prop := ∀ payload ∈ rows.payloads, Keyed name payload

theorem AllKeyed.keep {name : String} {rows : Rows} {payload : Object} (all : AllKeyed name rows)
    (keyed : Keyed name payload) : AllKeyed name (rows.keep payload) := by
  intro other member
  rcases List.mem_append.1 member with before | last
  · exact all other before
  · exact List.mem_singleton.1 last ▸ keyed

theorem AllKeyed.reject {name : String} {rows : Rows} {hash : String} (all : AllKeyed name rows) :
    AllKeyed name (rows.reject hash) := all

/-- Timestamps are short. -/
theorem isKeyPart_isoTimestamp {value : Json} {text : String}
    (found : isoTimestamp value = some text) : IsKeyPart text := by
  have formatted : ∃ here offset, text = String.ofList (isoFormat here offset) := by
    unfold isoTimestamp at found
    cases value with
    | int seconds =>
        simp only [Option.ite_none_right_eq_some, Option.some.injEq] at found
        exact ⟨_, _, found.2.symm⟩
    | float numerator scale =>
        simp only [Option.ite_none_right_eq_some, Option.some.injEq] at found
        exact ⟨_, _, found.2.symm⟩
    | special value =>
        cases value with
        | minusZero =>
            simp only [Option.ite_none_right_eq_some, Option.some.injEq] at found
            exact ⟨_, _, found.2.symm⟩
        | _ => simp at found
    | str held =>
        simp only [Option.ite_none_left_eq_some, Option.map_eq_some_iff] at found
        obtain ⟨-, ⟨here, offset⟩, -, rfl⟩ := found
        exact ⟨_, _, rfl⟩
    | _ => simp at found
  obtain ⟨here, offset, rfl⟩ := formatted
  have long := length_isoFormat here offset
  refine ⟨?_, by rw [String.length_ofList]; omega⟩
  intro empty
  have none : (isoFormat here offset).length = 0 := by
    rw [← String.length_ofList, empty]
    rfl
  omega

theorem length_of_isIdentity {text : List Char} (shape : isIdentity text = true) :
    1 ≤ text.length ∧ text.length ≤ 160 := by
  simp only [isIdentity, bounded, Bool.and_eq_true, decide_eq_true_eq] at shape
  exact shape.1

theorem length_newsIdentity {value : Json} {text : String} (found : newsIdentity value = some text) :
    text.length ≤ 160 := by
  unfold newsIdentity at found
  cases value with
  | int number =>
      simp only [Option.ite_none_right_eq_some, Option.some.injEq] at found
      obtain ⟨shape, rfl⟩ := found
      exact (length_of_isIdentity shape).2
  | str held =>
      simp only [Option.ite_none_right_eq_some, Option.some.injEq] at found
      obtain ⟨shape, rfl⟩ := found
      exact (length_of_isIdentity shape).2
  | _ => simp at found

/-- A prefixed text is a key part, if the whole is not too long. -/
theorem isKeyPart_append {first second : String} (some : 0 < first.length)
    (short : first.length + second.length ≤ 255) : IsKeyPart (first ++ second) := by
  refine ⟨?_, by rw [String.length_append]; exact short⟩
  intro empty
  have none : (first ++ second).length = 0 := by rw [empty]; rfl
  rw [String.length_append] at none
  omega

theorem rejectNews_eq_ok {rows next : Rows} {identity : String}
    (ok : rejectNews rules rows identity = .ok next) : ∃ hash, next = rows.reject hash := by
  obtain ⟨hash, -, ok⟩ := bind_eq_ok.1 ok
  exact ⟨hash, (pure_eq_ok.1 ok).symm⟩

theorem newsPayload_keyed {row : Object} {rows next : Rows} {url : Option String}
    {identity : String} (ok : newsPayload rules config row rows url identity = .ok next)
    (short : IsKeyPart identity) (all : AllKeyed "published_at" rows) :
    AllKeyed "published_at" next := by
  unfold newsPayload at ok
  split at ok
  · obtain ⟨hash, rfl⟩ := rejectNews_eq_ok ok
    exact all.reject
  · next published found =>
    split at ok
    · obtain rfl := pure_eq_ok.1 ok
      exact all.keep ⟨published, identity, rfl, rfl, isKeyPart_isoTimestamp found, short⟩
    · exact pure_eq_ok.1 ok ▸ all

/-- A row of company news keeps the keys. -/
theorem finnhubRow_keyed (hashed : ∀ text, (rules.sha256 text).length = 64) {rows next : Rows}
    {row : Json} (ok : finnhubRow rules config rows row = .ok next)
    (all : AllKeyed "published_at" rows) : AllKeyed "published_at" next := by
  cases row with
  | obj row =>
      simp only [finnhubRow] at ok
      split at ok
      · next url found =>
        unfold addressedNews at ok
        split at ok
        · obtain ⟨-, ok⟩ := check_eq_ok.1 ok
          obtain ⟨hash, rfl⟩ := rejectNews_eq_ok ok
          exact all.reject
        · next valid =>
          obtain ⟨-, ok⟩ := check_eq_ok.1 ok
          refine newsPayload_keyed ok ?_ all
          split
          · exact isKeyPart_append (by decide) (by rw [hashed]; decide)
          · next present =>
            simp only [invalidIdentity, present, Bool.not_false, Bool.true_and, Bool.not_eq_true,
              Option.isNone_eq_false_iff, Option.isSome_iff_exists] at valid
            obtain ⟨text, known⟩ := valid
            refine isKeyPart_append (by decide) ?_
            have short := length_newsIdentity known
            rw [known, Option.getD_some]
            change 16 + text.length ≤ 255
            omega
      · split at ok
        · obtain ⟨hash, rfl⟩ := rejectNews_eq_ok ok
          exact all.reject
        · simp at ok
  | _ => simp [finnhubRow, raise] at ok

/-- A page with more payloads than it emits ends with one. -/
theorem exists_last {kept : List Object} (some : 1 ≤ limit) (more : limit < kept.length) :
    ∃ final ∈ kept, (kept.take limit).getLast? = .some final := by
  have nonempty : kept.take limit ≠ [] := by
    intro empty
    have none : (kept.take limit).length = 0 := by rw [empty]; rfl
    rw [List.length_take] at none
    omega
  exact ⟨_, List.mem_of_mem_take (List.getLast_mem nonempty), List.getLast?_eq_some_getLast nonempty⟩

theorem finnhub_progress (hashed : ∀ text, (rules.sha256 text).length = 64)
    (ok : finnhubPayloads rules body config limit state rejected = .ok page)
    (more : page.more = true) (some : 1 ≤ limit) :
    Grammar "company_news" config page.progress := by
  cases body with
  | arr rows =>
      obtain ⟨read, ran, ok⟩ := bind_eq_ok.1 ok
      obtain ⟨last, -, ok⟩ := bind_eq_ok.1 ok
      obtain ⟨kept, once, ok⟩ := bind_eq_ok.1 ok
      obtain rfl := pure_eq_ok.1 ok
      have all : AllKeyed "published_at" read :=
        foldlM_preserves (fun _ _ _ _ stepped => finnhubRow_keyed hashed stepped) ran (by
          intro payload member
          simp at member)
      obtain ⟨final, member, ends⟩ := exists_last some (by simpa using more)
      have source : final ∈ read.payloads := by
        rcases mem_of_deduplicate once member with inside | held
        · exact (List.mem_mergeSort.1 (List.mem_of_mem_filter inside))
        · simp at held
      obtain ⟨first, second, left, right, leftPart, rightPart⟩ := all final source
      have progress : newsProgress (kept.take limit) =
          [("last_key", .arr [.str first, .str second])] := by
        simp only [newsProgress, ends, left, right]
      rw [progress]
      exact .lastKey first second rfl leftPart rightPart
  | _ => simp [finnhubPayloads, raise] at ok

/-! ### Filings -/

/-- A file the adapter accepts is a file the codec accepts. -/
theorem isFileOf_of_secFile {cik name : String} {value : Json} (ok : secFile cik value = .ok name)
    (filer : config.get "cik" = .str cik) (decimal : cik.toList.all isDecimal = true)
    (ten : cik.toList.length = 10) : value = .str name ∧ IsFileOf config name := by
  unfold secFile at ok
  cases value with
  | str text =>
      simp only [raise] at ok
      split at ok
      · next shape =>
        obtain rfl := Except.ok.inj ok
        refine ⟨rfl, ?_, cik, filer, ?_⟩
        · simp only [String.toList_append, List.map_append, shaped_append, shaped_word] at shape
          obtain ⟨_, last, split, ⟨_, serial, rfl, ⟨_, middle, rfl, ⟨first, number, rfl, rfl, rfl⟩,
            rfl⟩, digits⟩, rfl⟩ := shape
          rw [isFile, split]
          simp only [shaped_append, shaped_word, shaped_replicate] at digits ⊢
          exact ⟨_, _, rfl, ⟨_, _, rfl, ⟨_, _, rfl, ⟨_, _, rfl, rfl, ten, decimal⟩, rfl⟩, digits⟩,
            rfl⟩
        · rw [List.append_assoc, shaped_append] at shape
          obtain ⟨front, back, split, word, -⟩ := shape
          rw [shaped_word] at word
          rw [hasFilePrefix, split, word, List.isPrefixOf_iff_prefix]
          exact List.prefix_append ..
      · simp at ok
  | _ => simp [raise] at ok

/-- The file a reference names. -/
def referenceName (reference : Json) : Option String :=
  (reference.obj?.map (Object.get · "name")).bind Json.str?

/-- The files the references of a response name. -/
def referenceNames (body : Json) : List String := (historyReferences body).filterMap referenceName

section Files

variable {cik : String} (filer : config.get "cik" = .str cik)
  (decimal : cik.toList.all isDecimal = true) (ten : cik.toList.length = 10)

include filer decimal ten

theorem named_of_mapM {values : List Json} {names : List String}
    (ok : values.mapM (secFile cik) = .ok names) :
    values = names.map Json.str ∧ ∀ name ∈ names, IsFileOf config name := by
  induction values generalizing names with
  | nil =>
      obtain rfl := pure_eq_ok.1 ok
      simp
  | cons value values ih =>
      rw [List.mapM_cons] at ok
      obtain ⟨name, first, ok⟩ := bind_eq_ok.1 ok
      obtain ⟨names, rest, ok⟩ := bind_eq_ok.1 ok
      obtain rfl := pure_eq_ok.1 ok
      obtain ⟨rfl, named⟩ := isFileOf_of_secFile first filer decimal ten
      obtain ⟨rfl, all⟩ := ih rest
      refine ⟨rfl, ?_⟩
      intro other member
      rcases List.mem_cons.1 member with rfl | later
      · exact named
      · exact all other later

/-- A reference adds its name, or nothing. -/
theorem added_of_secReference {files next : List String} {reference : Json}
    (ok : secReference config files reference = .ok next) :
    ∃ name, referenceName reference = some name ∧ IsFileOf config name ∧ (next = files ∨ next = files ++ [name]) := by
  have held : strAt config "cik" = cik := by simp [strAt, filer, Json.str?]
  cases reference with
  | obj reference =>
      obtain ⟨-, ok⟩ := check_eq_ok.1 ok
      obtain ⟨name, file, ok⟩ := bind_eq_ok.1 ok
      obtain ⟨found, named⟩ := isFileOf_of_secFile (held ▸ file) filer decimal ten
      refine ⟨name, by simp [referenceName, Json.obj?, found, Json.str?], named, ?_⟩
      split at ok
      · split at ok
        · obtain ⟨-, ok⟩ := check_eq_ok.1 ok
          have next := pure_eq_ok.1 ok
          split at next
          · exact .inr next.symm
          · exact .inl next.symm
        · simp [raise] at ok
      · simp [raise] at ok
  | _ => simp [secReference, raise] at ok

theorem added_of_references {references : List Json} {files next : List String}
    (ok : references.foldlM (secReference config) files = .ok next) :
    ∃ added, next = files ++ added ∧ (∀ name ∈ added, IsFileOf config name) ∧
      added.Sublist (references.filterMap referenceName) := by
  induction references generalizing files with
  | nil => exact ⟨[], by rw [List.append_nil]; exact (pure_eq_ok.1 ok).symm, by simp, .slnil⟩
  | cons reference references ih =>
      obtain ⟨middle, stepped, rest⟩ := bind_eq_ok.1 ok
      obtain ⟨added, rfl, all, inside⟩ := ih rest
      obtain ⟨name, found, named, rfl | rfl⟩ := added_of_secReference filer decimal ten stepped
      · exact ⟨added, rfl, all, by rw [List.filterMap_cons_some found]; exact inside.cons _⟩
      · refine ⟨name :: added, by simp, ?_, by
          rw [List.filterMap_cons_some found]; exact inside.cons_cons _⟩
        intro other member
        rcases List.mem_cons.1 member with rfl | later
        · exact named
        · exact all other later

/-- The files after a page: those of the state, or those the response names. -/
theorem files_of_secFiles {budget : Int} {files next : List String}
    (held : state.getD "files" (.arr []) = .arr (files.map Json.str))
    (few : config.get "max_history_files" = .int budget)
    (ok : secFiles body config state = .ok next) :
    (next.length : Int) ≤ budget ∧ (∀ name ∈ next, IsFileOf config name) ∧
      (state ≠ [] → next = files) ∧
      (state = [] → next.Sublist (referenceNames body)) := by
  have cikHeld : strAt config "cik" = cik := by simp [strAt, filer, Json.str?]
  have budgetHeld : intAt config "max_history_files" = budget := by simp [intAt, few, Json.int?]
  simp only [secFiles, held, Json.arr?, Option.getD_some, cikHeld, budgetHeld] at ok
  obtain ⟨short, ok⟩ := check_eq_ok.1 ok
  obtain ⟨names, mapped, ok⟩ := bind_eq_ok.1 ok
  obtain ⟨same, named⟩ := named_of_mapM filer decimal ten mapped
  obtain rfl : files = names := List.map_injective_iff.2 (fun _ _ => Json.str.inj) same
  by_cases empty : state = []
  · subst empty
    obtain rfl : files = [] := by simpa [Object.getD, List.lookup] using held.symm
    obtain ⟨next, folded, ok⟩ := bind_eq_ok.1 ok
    obtain ⟨within, ok⟩ := check_eq_ok.1 ok
    obtain rfl := pure_eq_ok.1 ok
    obtain ⟨added, rfl, all, inside⟩ := added_of_references filer decimal ten folded
    exact ⟨by simpa using within, all, fun started => absurd rfl started, fun _ => inside⟩
  · have started : state.isEmpty = false := by simpa using empty
    rw [started] at ok
    obtain rfl := pure_eq_ok.1 ok
    exact ⟨by simpa using short, named, fun _ => rfl, fun none => absurd none empty⟩

end Files

/-- The file of a state and the files after it. -/
theorem exists_files (once : state.keys.Nodup)
    (grammar : Grammar "submissions_recent" config state) :
    ∃ (current : Option String) (files : List String),
      state.get "file" = (current.map Json.str).getD .null ∧
      state.getD "files" (.arr []) = .arr (files.map Json.str) ∧
      (∀ name ∈ current.toList, IsFileOf config name) ∧ (current.toList ++ files).Nodup := by
  cases grammar with
  | start => exact ⟨none, [], rfl, rfl, by simp, by simp⟩
  | page number of => simp at of
  | offset number of => simp at of
  | lastKey first second of => simp at of
  | file name of named => exact ⟨some name, [], rfl, rfl, by simpa using named, by simp⟩
  | files name files of named distinctFiles few members =>
      refine ⟨some name, files, ?_, ?_, ?_, distinctFiles⟩
      · rw [Object.get_perm once members]
        simp [Object.get, List.lookup]
      · rw [Object.getD_perm once members]
        simp [Object.getD, List.lookup]
      · intro other member
        exact named other (by simpa using .inl (by simpa using member))
  | resume current files first second of named filer distinctFiles few left right members =>
      refine ⟨current, files, ?_, ?_, fun name member =>
        named name (List.mem_append_left _ member), distinctFiles⟩
      · rw [Object.get_perm once members]
        simp [Object.get, List.lookup]
      · rw [Object.getD_perm once members]
        simp [Object.getD, List.lookup]

/-- What is known of a filing: its number is a key part, and its date if it is not rejected. -/
def FilingKeyed (filing : Filing) : Prop :=
  IsKeyPart filing.accession ∧ (filing.permanentInvalid = false → IsKeyPart filing.filingDate)

theorem isKeyPart_filingDate {row : Object} {date : String} (found : filingDate row = some date) :
    IsKeyPart date := by
  unfold filingDate at found
  split at found
  · simp only [Option.ite_none_right_eq_some, Option.some.injEq] at found
    obtain ⟨dated, rfl⟩ := found
    obtain ⟨nonempty, short⟩ := length_of_isoDate dated
    rw [String.length_toList] at nonempty short
    refine ⟨?_, by omega⟩
    rintro empty
    rw [empty] at nonempty
    exact absurd nonempty (by decide)
  · simp at found

theorem filingOf_keyed {row : Object} {filing : Filing}
    (ok : filingOf config row = .ok (some filing)) : FilingKeyed filing := by
  unfold filingOf at ok
  split at ok
  · next accession found =>
    split at ok
    · simp [raise] at ok
    · next valid =>
      have number : isAccession accession.toList = true := by simpa using valid
      have long : accession.length = 20 := length_of_shaped number
      split at ok
      · simp at ok
      · split at ok
        · simp at ok
        · simp only [pure_eq_ok, Option.some.injEq] at ok
          subst ok
          refine ⟨⟨?_, by change accession.length ≤ 255; omega⟩, ?_⟩
          · rintro rfl
            exact absurd long (by decide)
          · intro accepted
            have dated := (Bool.or_eq_false_iff.1 accepted).1
            rw [Option.isNone_eq_false_iff, Option.isSome_iff_exists] at dated
            obtain ⟨date, known⟩ := dated
            change IsKeyPart ((filingDate row).getD "")
            rw [known]
            exact isKeyPart_filingDate known
  · simp [raise] at ok

theorem filingsOf_keyed {rows : List Object} {filings : List Filing}
    (ok : filingsOf config rows = .ok filings) : ∀ filing ∈ filings, FilingKeyed filing := by
  induction rows generalizing filings with
  | nil =>
      obtain rfl := pure_eq_ok.1 ok
      simp
  | cons row rows ih =>
      obtain ⟨filing, first, ok⟩ := bind_eq_ok.1 ok
      obtain ⟨later, rest, ok⟩ := bind_eq_ok.1 ok
      obtain rfl := pure_eq_ok.1 ok
      intro other member
      rcases List.mem_append.1 member with here | there
      · rw [Option.mem_toList] at here
        exact filingOf_keyed (here ▸ first)
      · exact ih rest other there

/-- A filing keeps the keys. -/
theorem secRow_keyed {rows next : Rows} {filing : Filing} (keyed : FilingKeyed filing)
    (ok : secRow rules config state rows filing = .ok next) (all : AllKeyed "filing_date" rows) :
    AllKeyed "filing_date" next := by
  unfold secRow at ok
  split at ok
  · obtain ⟨hash, -, ok⟩ := bind_eq_ok.1 ok
    exact pure_eq_ok.1 ok ▸ all.reject
  · next valid =>
    obtain rfl := pure_eq_ok.1 ok
    exact all.keep ⟨filing.filingDate, filing.accession, rfl, rfl, keyed.2 (by simpa using valid),
      keyed.1⟩

/-- A page of filings leaves the rest of its body, the next file, or nothing. -/
theorem secPage_progress {kept : List Object} {current : Option String} {files : List String}
    (ok : secPage kept limit state files rejected = .ok page) (more : page.more = true)
    (some : 1 ≤ limit) (keyed : ∀ payload ∈ kept, Keyed "filing_date" payload)
    (file : state.get "file" = (current.map Json.str).getD .null)
    (filer : ∃ cik, config.get "cik" = .str cik)
    (named : ∀ name ∈ current.toList ++ files, IsFileOf config name)
    (once : (current.toList ++ files).Nodup) (few : files.length ≤ 5) :
    Grammar "submissions_recent" config page.progress := by
  unfold secPage at ok
  split at ok
  · next past =>
    obtain ⟨final, member, ends⟩ := exists_last some past
    obtain ⟨first, second, left, right, leftPart, rightPart⟩ := keyed final member
    rw [ends] at ok
    obtain rfl := pure_eq_ok.1 ok
    refine .resume current files first second rfl named filer once few leftPart rightPart ?_
    rw [left, right, file]
    exact @List.perm_append_comm _ [("last_key", Json.arr [.str first, .str second])] _
  · cases files with
    | nil =>
        obtain rfl := pure_eq_ok.1 ok
        simp at more
    | cons name rest =>
        obtain rfl := pure_eq_ok.1 ok
        refine .files name rest rfl (fun other member => named other
          (List.mem_append_right _ member)) (List.nodup_append.1 once).2.1 ?_ (.refl _)
        simp only [List.length_cons] at few
        omega

theorem sec_progress (resolved : Resolved "sec_edgar" "submissions_recent" config)
    (once : state.keys.Nodup) (grammar : Grammar "submissions_recent" config state)
    (distinctNames : (referenceNames body).Nodup)
    (ok : secPayloads rules body config limit state rejected = .ok page)
    (more : page.more = true) (some : 1 ≤ limit) :
    Grammar "submissions_recent" config page.progress := by
  obtain ⟨cik, budget, filer, decimal, ten, few, -, most⟩ := resolved.filer
  obtain ⟨current, files, file, held, namedFile, distinctFiles⟩ := exists_files once grammar
  obtain ⟨rows, -, ok⟩ := bind_eq_ok.1 ok
  obtain ⟨next, found, ok⟩ := bind_eq_ok.1 ok
  obtain ⟨filings, eligible, ok⟩ := bind_eq_ok.1 ok
  obtain ⟨last, -, ok⟩ := bind_eq_ok.1 ok
  obtain ⟨read, ran, ok⟩ := bind_eq_ok.1 ok
  obtain ⟨kept, deduplicated, ok⟩ := bind_eq_ok.1 ok
  have all : AllKeyed "filing_date" read := by
    refine foldlM_preserves ?_ ran (by intro payload member; simp at member)
    intro rows filing member next stepped
    refine secRow_keyed (filingsOf_keyed eligible filing ?_) stepped
    exact List.mem_mergeSort.1 (List.mem_of_mem_filter member)
  have keyed : ∀ payload ∈ kept, Keyed "filing_date" payload := by
    intro payload member
    rcases mem_of_deduplicate deduplicated member with inside | before
    · exact all payload inside
    · simp at before
  obtain ⟨short, named, unchanged, fresh⟩ := files_of_secFiles filer decimal ten held few found
  refine secPage_progress ok more some keyed file ⟨cik, filer⟩ ?_ ?_ (by omega)
  · intro name member
    rcases List.mem_append.1 member with here | there
    · exact namedFile name here
    · exact named name there
  · by_cases empty : state = []
    · subst empty
      have none : current = none := by
        cases current with
        | none => rfl
        | some name => simp [Object.get, List.lookup] at file
      rw [none]
      exact (fresh rfl).nodup distinctNames
    · exact unchanged empty ▸ distinctFiles

/-! ### Every operation -/

/-- The page of a state of the grammar. -/
theorem statePage_of_grammar (grammar : Grammar "news_all" config state) :
    1 ≤ statePage state ∧ statePage state ≤ 1000 := by
  cases grammar with
  | start => decide
  | page number of least most =>
      have held : statePage [("page", .int number)] = number := rfl
      omega
  | offset number of => simp at of
  | lastKey first second of => simp at of
  | file name of => simp at of
  | files name files of => simp at of
  | resume current files first second of => simp at of

/-- The offset of a state of the grammar. -/
theorem stateOffset_of_grammar
    (of : operation = "electricity_retail_sales" ∨ operation = "electricity_rto_region_data")
    (grammar : Grammar operation config state) : 0 ≤ stateOffset state := by
  cases grammar with
  | start => decide
  | page number news => rcases of with rfl | rfl <;> simp at news
  | offset number of' least most =>
      have held : stateOffset [("offset", .int number)] = number := rfl
      omega
  | lastKey first second news => rcases of with rfl | rfl <;> simp at news
  | file name filings => rcases of with rfl | rfl <;> simp at filings
  | files name files filings => rcases of with rfl | rfl <;> simp at filings
  | resume current files first second filings => rcases of with rfl | rfl <;> simp at filings

/-- **What a page leaves to continue from is in the grammar.** The last page of news apart, which
the adapter does not continue from. -/
theorem progress_grammar {provider : String} (hashed : ∀ text, (rules.sha256 text).length = 64)
    (resolved : Resolved provider operation config) (once : state.keys.Nodup)
    (grammar : Grammar operation config state) (some : 1 ≤ limit)
    (distinctNames : (referenceNames body).Nodup)
    (notLast : ¬(provider = "marketaux" ∧ statePage state = 1000))
    (ok : payloads rules provider operation body config limit (statePage state)
      (stateOffset state) state rejected = .ok page) (more : page.more = true) :
    Grammar operation config page.progress := by
  rcases operation_cases resolved.known with ⟨rfl, rfl⟩ | ⟨rfl, rfl⟩ | ⟨rfl, rfl⟩ | ⟨rfl, rfl⟩ |
    ⟨rfl, rfl⟩
  · obtain ⟨least, most⟩ := statePage_of_grammar grammar
    have other : statePage state ≠ 1000 := fun last => notLast ⟨rfl, last⟩
    exact marketaux_progress ok least (by omega)
  · exact finnhub_progress hashed ok more some
  · exact eia_progress (.inl rfl) ok more (stateOffset_of_grammar (.inl rfl) grammar)
  · exact eia_progress (.inr rfl) ok more (stateOffset_of_grammar (.inr rfl) grammar)
  · exact sec_progress resolved once grammar distinctNames ok more some

end NewsCollect.Providers
