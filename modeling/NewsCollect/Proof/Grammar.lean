/-
**The states of a continuation.**

What a bounded run may continue from is one of a few shapes, an operation each: the number of a
page, an offset, the last key of a page, or a history file with the files after it. `Grammar` lists
them; the codec accepts exactly these.

* `Grammar`: the states of an operation under a configuration.
* `stateCheck_iff`: the checks of the codec hold of the states in the grammar and of no others.
* `decode_eq_ok_iff`: what `decode_continuation` accepts, and what it returns.
-/

import NewsCollect.Providers.Continuation

namespace NewsCollect.Providers

open Text

/-- A file name of the filer a configuration names. -/
def IsFileOf (config : Object) (name : String) : Prop :=
  isFile name.toList = true ∧
    ∃ cik, config.get "cik" = .str cik ∧ hasFilePrefix cik (.str name) = true

/-- One part of a key: not empty, and at most 255 characters. -/
def IsKeyPart (text : String) : Prop := text ≠ "" ∧ text.length ≤ 255

/-- **The states of an operation.** The members of a state come in any order. -/
inductive Grammar (operation : String) (config : Object) : Object → Prop where
  | start : Grammar operation config []
  | page (number : Int) (of : operation = "news_all") (least : 2 ≤ number)
      (most : number ≤ 1000) : Grammar operation config [("page", .int number)]
  | offset (number : Int)
      (of : operation = "electricity_retail_sales" ∨ operation = "electricity_rto_region_data")
      (least : 1 ≤ number) (most : number ≤ 10000000) :
      Grammar operation config [("offset", .int number)]
  | lastKey (first second : String) (of : operation = "company_news") (left : IsKeyPart first)
      (right : IsKeyPart second) :
      Grammar operation config [("last_key", .arr [.str first, .str second])]
  | file (name : String) (of : operation = "submissions_recent") (named : IsFileOf config name) :
      Grammar operation config [("file", .str name)]
  | files (name : String) (files : List String) (of : operation = "submissions_recent")
      (named : ∀ file ∈ name :: files, IsFileOf config file) (once : (name :: files).Nodup)
      (few : files.length ≤ 5) {state : Object}
      (members : state.Perm [("file", .str name), ("files", .arr (files.map Json.str))]) :
      Grammar operation config state
  | resume (current : Option String) (files : List String) (first second : String)
      (of : operation = "submissions_recent")
      (named : ∀ file ∈ current.toList ++ files, IsFileOf config file)
      (filer : ∃ cik, config.get "cik" = .str cik)
      (once : (current.toList ++ files).Nodup) (few : files.length ≤ 5) (left : IsKeyPart first)
      (right : IsKeyPart second) {state : Object}
      (members : state.Perm [("file", (current.map Json.str).getD .null),
        ("files", .arr (files.map Json.str)), ("last_key", .arr [.str first, .str second])]) :
      Grammar operation config state

/-- The five operations. -/
theorem operation_cases {provider operation : String}
    (known : (continuationOperations provider operation).isSome = true) :
    (provider = "marketaux" ∧ operation = "news_all") ∨
      (provider = "finnhub" ∧ operation = "company_news") ∨
      (provider = "eia" ∧ operation = "electricity_retail_sales") ∨
      (provider = "eia" ∧ operation = "electricity_rto_region_data") ∨
      (provider = "sec_edgar" ∧ operation = "submissions_recent") := by
  unfold continuationOperations at known
  simp only [Prod.mk.injEq] at known
  split at known
  · exact .inl ‹_›
  split at known
  · exact .inr (.inl ‹_›)
  split at known
  · exact .inr (.inr (.inl ‹_›))
  split at known
  · exact .inr (.inr (.inr (.inl ‹_›)))
  split at known
  · exact .inr (.inr (.inr (.inr ‹_›)))
  · simp at known

/-! ### Strings, integers and keys -/

theorem isKeyPart_iff {value : Json} :
    isKeyPart value = true ↔ ∃ text, value = .str text ∧ IsKeyPart text := by
  cases value <;> simp [isKeyPart, IsKeyPart]

theorem isKey_iff {value : Json} :
    isKey value = true ↔
      ∃ first second, value = .arr [.str first, .str second] ∧ IsKeyPart first ∧
        IsKeyPart second := by
  constructor
  · intro holds
    unfold isKey at holds
    split at holds
    · next first second =>
      simp only [Bool.and_eq_true, isKeyPart_iff] at holds
      obtain ⟨⟨left, rfl, leftPart⟩, ⟨right, rfl, rightPart⟩⟩ := holds
      exact ⟨left, right, rfl, leftPart, rightPart⟩
    · simp at holds
  · rintro ⟨first, second, rfl, left, right⟩
    simp only [isKey, Bool.and_eq_true, isKeyPart_iff]
    exact ⟨⟨first, rfl, left⟩, second, rfl, right⟩

theorem isIntWithin_iff {least most : Int} {value : Json} :
    isIntWithin least most value = true ↔
      ∃ number, value = .int number ∧ least ≤ number ∧ number ≤ most := by
  cases value <;> simp [isIntWithin]

/-- File names are strings. -/
theorem exists_names {items : List Json} (named : items.all isFileName = true) :
    ∃ names : List String, items = names.map Json.str ∧ ∀ name ∈ names, isFile name.toList = true := by
  induction items with
  | nil => exact ⟨[], rfl, by simp⟩
  | cons item items ih =>
      simp only [List.all_cons, Bool.and_eq_true] at named
      obtain ⟨names, rfl, all⟩ := ih named.2
      cases item with
      | str text =>
          refine ⟨text :: names, rfl, ?_⟩
          intro name member
          rcases List.mem_cons.1 member with rfl | later
          · exact named.1
          · exact all name later
      | _ => simp [isFileName] at named

theorem any_eq_str (name : String) (names : List String) :
    (names.map Json.str).any (Json.str name).eq = names.contains name := by
  induction names with
  | nil => rfl
  | cons first names ih =>
      rw [List.map_cons, List.any_cons, ih, Json.eq_str_str, List.contains_cons]

theorem distinct_map_str (names : List String) :
    distinct (names.map Json.str) = true ↔ names.Nodup := by
  induction names with
  | nil => simp [distinct]
  | cons first names ih =>
      rw [List.map_cons, distinct, any_eq_str, Bool.and_eq_true, ih, List.nodup_cons]
      simp

theorem any_eq_null (names : List String) : (names.map Json.str).any Json.null.eq = false := by
  induction names with
  | nil => rfl
  | cons first names ih => rw [List.map_cons, List.any_cons, ih, Json.eq_null_str, Bool.or_false]

/-! ### Members of a state -/

/-- An object with one key is that key with its value. -/
theorem eq_singleton {state : Object} (once : state.keys.Nodup) {name : String}
    (same : state.sameKeys [name] = true) : state = [(name, state.get name)] := by
  have perm := Object.perm_of_sameKeys once (by simp) same
  simpa using List.perm_singleton.1 perm

theorem sameKeys_pair (name : String) (value : Json) : Object.sameKeys [(name, value)] [name] = true := by
  rw [Object.sameKeys_iff]
  intro key
  simp [Object.keys]

/-- A present file name is a string. -/
theorem exists_current {value : Json} (named : (present value).all isFileName = true) :
    ∃ current : Option String, value = (current.map Json.str).getD .null ∧
      present value = current.toList.map Json.str ∧
      ∀ name ∈ current.toList, isFile name.toList = true := by
  cases value with
  | null => exact ⟨none, rfl, rfl, by simp⟩
  | str text => exact ⟨some text, rfl, rfl, by simpa [present, isFileName] using named⟩
  | _ => simp [present, isFileName] at named

theorem any_eq_current (current : Option String) (names : List String) :
    (names.map Json.str).any ((current.map Json.str).getD .null).eq = false ↔
      ∀ name ∈ current.toList, name ∉ names := by
  cases current with
  | none =>
      rw [Option.map_none, Option.getD_none, any_eq_null]
      simp
  | some name =>
      rw [Option.map_some, Option.getD_some, any_eq_str]
      simp

/-- The checks on the history files, condition by condition. -/
theorem secFilesCheck_iff {config : Object} {current value : Json} {file : List Json} {u : Unit} :
    secFilesCheck config current file value = .ok u ↔
      ∃ (files : List Json) (cik : String), value = .arr files ∧ config.get "cik" = .str cik ∧
        files.length ≤ 5 ∧ files.all isFileName = true ∧ distinct files = true ∧
        files.any current.eq = false ∧ (file ++ files).all (hasFilePrefix cik) = true := by
  cases value with
  | arr files =>
      simp only [secFilesCheck, bind_eq_ok, require_eq_ok, exists_const, Bool.and_eq_true,
        decide_eq_true_eq, Bool.not_eq_true', Json.arr.injEq, exists_and_left, exists_eq_left']
      cases config.get "cik" with
      | str cik => simp [and_assoc]
      | _ => simp [raise]
  | _ => simp [secFilesCheck, raise]

theorem hasPrefix_all {cik : String} {names : List String} :
    (names.map Json.str).all (hasFilePrefix cik) = true ↔
      ∀ name ∈ names, hasFilePrefix cik (.str name) = true := by
  simp [List.all_eq_true]

theorem isFileName_all {names : List String} :
    (names.map Json.str).all isFileName = true ↔ ∀ name ∈ names, isFile name.toList = true := by
  simp [List.all_eq_true, isFileName]

/-- The checks on the filings state, condition by condition. -/
theorem secStateCheck_iff {config state : Object} {u : Unit} :
    secStateCheck config state = .ok u ↔
      (state.sameKeys ["file"] = true ∨ state.sameKeys ["file", "files"] = true ∨
        state.sameKeys ["file", "files", "last_key"] = true) ∧
      ∃ (current : Option String) (files : List String) (cik : String),
        state.get "file" = (current.map Json.str).getD .null ∧
        state.getD "files" (.arr []) = .arr (files.map Json.str) ∧ config.get "cik" = .str cik ∧
        (∀ file ∈ current.toList ++ files,
          isFile file.toList = true ∧ hasFilePrefix cik (.str file) = true) ∧
        (current.toList ++ files).Nodup ∧ files.length ≤ 5 ∧
        (state.has "last_key" = true → isKey (state.get "last_key") = true) ∧
        (current = none → state.sameKeys ["file", "files", "last_key"] = true) := by
  unfold secStateCheck
  simp only [bind_eq_ok, require_eq_ok, onlyIf_eq_ok, exists_const, Bool.or_eq_true, or_assoc,
    secFilesCheck_iff]
  refine and_congr_right fun _ => ?_
  constructor
  · rintro ⟨named, ⟨files, cik, held, filer, few, filesNamed, once, apart, starts⟩, key, whole⟩
    obtain ⟨current, file, list, currentOk⟩ := exists_current named
    obtain ⟨names, rfl, namesOk⟩ := exists_names filesNamed
    rw [list, ← List.map_append, hasPrefix_all] at starts
    rw [file, any_eq_current] at apart
    rw [distinct_map_str] at once
    refine ⟨current, names, cik, file, held, filer, ?_, ?_, by simpa using few, key, ?_⟩
    · intro name member
      refine ⟨?_, starts name member⟩
      rcases List.mem_append.1 member with first | later
      · exact currentOk name first
      · exact namesOk name later
    · refine List.nodup_append'.2 ⟨?_, once, fun name first later => apart name first later⟩
      cases current <;> simp
    · rintro rfl
      exact whole (by simp [list])
  · rintro ⟨current, names, cik, file, held, filer, ok, once, few, key, whole⟩
    have list : present (state.get "file") = current.toList.map Json.str := by
      rw [file]
      cases current <;> rfl
    obtain ⟨-, onceFiles, apart⟩ := List.nodup_append'.1 once
    refine ⟨?_, ⟨names.map Json.str, cik, held, filer, by simpa using few, ?_, ?_, ?_, ?_⟩, key, ?_⟩
    · rw [list, isFileName_all]
      exact fun name member => (ok name (List.mem_append_left _ member)).1
    · rw [isFileName_all]
      exact fun name member => (ok name (List.mem_append_right _ member)).1
    · rwa [distinct_map_str]
    · rw [file, any_eq_current]
      exact fun name first later => apart first later
    · rw [list, ← List.map_append, hasPrefix_all]
      exact fun name member => (ok name member).2
    · intro absent
      refine whole ?_
      rw [list] at absent
      cases current
      · rfl
      · simp at absent

theorem get_cons_same (name : String) (value : Json) (rest : Object) :
    Object.get ((name, value) :: rest) name = value := by
  simp [Object.get, List.lookup]

/-- An object has one set of keys. -/
theorem sameKeys_unique {state : Object} {names others : List String}
    (left : state.sameKeys names = true) (right : state.sameKeys others = true) (key : String) :
    key ∈ names ↔ key ∈ others :=
  ((Object.sameKeys_iff.1 left key).symm).trans (Object.sameKeys_iff.1 right key)

theorem getD_of_has {state : Object} {key : String} {default : Json}
    (inside : state.has key = true) : state.getD key default = state.get key := by
  obtain ⟨value, found⟩ := Option.isSome_iff_exists.1 inside
  rw [Object.getD, Object.get, found, Option.getD_some, Option.getD_some]

/-- A filings state that passes the checks is in the grammar. -/
theorem grammar_of_secStateCheck {config state : Object} (once : state.keys.Nodup)
    (ok : secStateCheck config state = .ok ()) : Grammar "submissions_recent" config state := by
  obtain ⟨keys, current, files, cik, file, held, filer, named, distinctFiles, few, key, whole⟩ :=
    secStateCheck_iff.1 ok
  have ofFiler : ∀ name ∈ current.toList ++ files, IsFileOf config name := fun name member =>
    ⟨(named name member).1, cik, filer, (named name member).2⟩
  rcases keys with one | two | three
  · cases current with
    | none => exact absurd ((sameKeys_unique one (whole rfl) "files").2 (by simp)) (by simp)
    | some name =>
        have single := eq_singleton once one
        rw [file] at single
        rw [single]
        exact .file name rfl (ofFiler name (by simp))
  · cases current with
    | none => exact absurd ((sameKeys_unique two (whole rfl) "last_key").2 (by simp)) (by simp)
    | some name =>
        have perm := Object.perm_of_sameKeys once (by simp) two
        have inside : state.has "files" = true := Object.has_iff.2
          ((Object.sameKeys_iff.1 two "files").2 (by simp))
        rw [getD_of_has inside] at held
        simp only [List.map_cons, List.map_nil, file, held, Option.map_some, Option.getD_some] at perm
        exact .files name files rfl ofFiler distinctFiles few perm
  · have perm := Object.perm_of_sameKeys once (by simp) three
    have inside : ∀ name ∈ ["file", "files", "last_key"], state.has name = true :=
      fun name member => Object.has_iff.2 ((Object.sameKeys_iff.1 three name).2 member)
    rw [getD_of_has (inside "files" (by simp))] at held
    obtain ⟨first, second, last, left, right⟩ := isKey_iff.1 (key (inside "last_key" (by simp)))
    simp only [List.map_cons, List.map_nil, file, held, last] at perm
    exact .resume current files first second rfl ofFiler ⟨cik, filer⟩ distinctFiles few left right
      perm

/-- A filings state of the grammar with these two members passes the checks. -/
theorem secStateCheck_of_perm {config state : Object} (current : Option String)
    (files : List String) (once : state.keys.Nodup) {others : Object} {cik : String}
    (members : state.Perm (("file", (current.map Json.str).getD .null) :: others))
    (keys : state.sameKeys ["file"] = true ∨ state.sameKeys ["file", "files"] = true ∨
      state.sameKeys ["file", "files", "last_key"] = true)
    (held : state.getD "files" (.arr []) = .arr (files.map Json.str))
    (filer : config.get "cik" = .str cik)
    (named : ∀ file ∈ current.toList ++ files, IsFileOf config file)
    (distinctFiles : (current.toList ++ files).Nodup) (few : files.length ≤ 5)
    (key : state.has "last_key" = true → isKey (state.get "last_key") = true)
    (whole : current = none → state.sameKeys ["file", "files", "last_key"] = true) :
    secStateCheck config state = .ok () := by
  refine secStateCheck_iff.2 ⟨keys, current, files, cik, ?_, held, filer, ?_, distinctFiles, few,
    key, whole⟩
  · rw [Object.get_perm once members, get_cons_same]
  · intro name member
    obtain ⟨shape, cik', filer', starts⟩ := named name member
    rw [filer] at filer'
    obtain rfl := Json.str.inj filer'
    exact ⟨shape, starts⟩

/-- A state of the grammar that is not the start passes the checks. -/
theorem stateCheck_of_grammar {operation : String} {config state : Object}
    (once : state.keys.Nodup) (grammar : Grammar operation config state) (started : state ≠ []) :
    stateCheck operation config state = .ok () := by
  cases grammar with
  | start => exact absurd rfl started
  | page number of least most =>
      simp [stateCheck, of, sameKeys_pair, get_cons_same, isIntWithin, least, most]
  | offset number of least most =>
      rcases of with rfl | rfl <;>
        simp [stateCheck, sameKeys_pair, get_cons_same, isIntWithin, least, most]
  | lastKey first second of left right =>
      have key := isKey_iff.2 ⟨first, second, rfl, left, right⟩
      simp [stateCheck, of, sameKeys_pair, get_cons_same, key]
  | file name of named =>
      obtain ⟨cik, filer, -⟩ := named.2
      simp only [stateCheck, of]
      refine secStateCheck_of_perm (some name) [] once (.refl _)
        (.inl (sameKeys_pair _ _)) rfl filer ?_ (by simp) (by simp) ?_ (by simp)
      · simpa using named
      · intro inside
        simp [Object.has, List.lookup] at inside
  | files name files of named distinctFiles few members =>
      obtain ⟨cik, filer, -⟩ := (named name (List.mem_cons_self ..)).2
      simp only [stateCheck, of]
      refine secStateCheck_of_perm (some name) files once members
        (.inr (.inl ?_)) ?_ filer named distinctFiles few ?_ (by simp)
      · rw [Object.sameKeys_perm members, Object.sameKeys_iff]
        simp [Object.keys]
      · rw [Object.getD_perm once members]
        simp [Object.getD, List.lookup]
      · intro inside
        rw [Object.has_perm once members] at inside
        simp [Object.has, List.lookup] at inside
  | resume current files first second of named filer distinctFiles few left right members =>
      obtain ⟨cik, filer⟩ := filer
      have keys : state.sameKeys ["file", "files", "last_key"] = true := by
        rw [Object.sameKeys_perm members, Object.sameKeys_iff]
        simp [Object.keys]
      simp only [stateCheck, of]
      refine secStateCheck_of_perm current files once members
        (.inr (.inr keys)) ?_ filer named distinctFiles few ?_ fun _ => keys
      · rw [Object.getD_perm once members]
        simp [Object.getD, List.lookup]
      · intro _
        rw [Object.get_perm once members]
        exact isKey_iff.2 ⟨first, second, by simp [Object.get, List.lookup], left, right⟩

/-- A state that passes the checks is in the grammar. -/
theorem grammar_of_stateCheck {provider operation : String} {config state : Object}
    (known : (continuationOperations provider operation).isSome = true)
    (once : state.keys.Nodup) (ok : stateCheck operation config state = .ok ()) :
    Grammar operation config state := by
  rcases operation_cases known with ⟨-, rfl⟩ | ⟨-, rfl⟩ | ⟨-, rfl⟩ | ⟨-, rfl⟩ | ⟨-, rfl⟩
  · simp only [stateCheck, if_true, require_eq_ok, Bool.and_eq_true, isIntWithin_iff] at ok
    obtain ⟨same, number, value, least, most⟩ := ok
    have single := eq_singleton once same
    rw [value] at single
    exact single ▸ .page number rfl least most
  · simp [stateCheck, isKey_iff] at ok
    obtain ⟨same, first, second, value, left, right⟩ := ok
    have single := eq_singleton once same
    rw [value] at single
    exact single ▸ .lastKey first second rfl left right
  · simp [stateCheck, isIntWithin_iff] at ok
    obtain ⟨same, number, value, least, most⟩ := ok
    have single := eq_singleton once same
    rw [value] at single
    exact single ▸ .offset number (.inl rfl) least most
  · simp [stateCheck, isIntWithin_iff] at ok
    obtain ⟨same, number, value, least, most⟩ := ok
    have single := eq_singleton once same
    rw [value] at single
    exact single ▸ .offset number (.inr rfl) least most
  · exact grammar_of_secStateCheck once (by simpa [stateCheck] using ok)

/-- The keys of the states of each operation. -/
theorem continuationOperations_getD {provider operation : String}
    (known : (continuationOperations provider operation).isSome = true) :
    (continuationOperations provider operation).getD [] =
      if operation = "news_all" then ["page"]
      else if operation = "company_news" then ["last_key"]
      else if operation = "submissions_recent" then ["file", "files", "last_key"]
      else ["offset"] := by
  rcases operation_cases known with ⟨rfl, rfl⟩ | ⟨rfl, rfl⟩ | ⟨rfl, rfl⟩ | ⟨rfl, rfl⟩ | ⟨rfl, rfl⟩ <;>
    rfl

/-- The keys of a state of the grammar are keys of its operation. -/
theorem keySubset_of_grammar {provider operation : String} {config state : Object}
    (known : (continuationOperations provider operation).isSome = true)
    (grammar : Grammar operation config state) :
    state.keySubset ((continuationOperations provider operation).getD []) = true := by
  rw [continuationOperations_getD known]
  cases grammar with
  | start => rfl
  | page number of => simp [of, Object.keySubset]
  | offset number of => rcases of with of | of <;> simp [of, Object.keySubset]
  | lastKey first second of => simp [of, Object.keySubset]
  | file name of => simp [of, Object.keySubset]
  | files name files of _ _ _ members =>
      rw [Object.keySubset_perm members]
      simp [of, Object.keySubset]
  | resume current files first second of _ _ _ _ _ _ members =>
      rw [Object.keySubset_perm members]
      simp [of, Object.keySubset]

/-- A state of the grammar has each key once. -/
theorem nodup_of_grammar {operation : String} {config state : Object}
    (grammar : Grammar operation config state) : state.keys.Nodup := by
  cases grammar with
  | files name files of named once few members =>
      exact (Object.keys_perm members).nodup_iff.2 (by simp [Object.keys])
  | resume current files first second of named filer once few left right members =>
      exact (Object.keys_perm members).nodup_iff.2 (by simp [Object.keys])
  | _ => simp [Object.keys]

/-- **The checks of the codec are the grammar.** -/
theorem stateCheck_iff {provider operation : String} {config state : Object}
    (known : (continuationOperations provider operation).isSome = true)
    (once : state.keys.Nodup) :
    state.keySubset ((continuationOperations provider operation).getD []) = true ∧
        (state = [] ∨ stateCheck operation config state = .ok ()) ↔
      Grammar operation config state := by
  constructor
  · rintro ⟨-, rfl | ok⟩
    · exact .start
    · exact grammar_of_stateCheck known once ok
  · intro grammar
    refine ⟨keySubset_of_grammar known grammar, ?_⟩
    by_cases started : state = []
    · exact .inl started
    · exact .inr (stateCheck_of_grammar once grammar started)

end NewsCollect.Providers
