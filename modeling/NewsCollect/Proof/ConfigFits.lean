/-
**The values of hours and the filings.**

When the payload contract accepts a value of an hour, or a filing, with the values of a configuration
in it; and what a configuration that has been accepted is safe of.

* `rto_accepts`, `filing_accepts_iff`: the two payloads.
* `IsCode`: a text of a configuration that can be part of an item.
-/

import NewsCollect.Proof.Collectable

namespace NewsCollect.Collection

open Contract Providers SafeProjection Text

variable {library : StandardLibrary}

/-! ### Values of an hour -/

/-- Hashes are hexadecimal numbers of 64 digits. -/
def HexDigests (library : StandardLibrary) : Prop :=
  ∀ text, isHash (library.sha256 text).toList = true

/-- A hash has no marker. -/
theorem hasMarker_sha256 (hex : HexDigests library) (text : String) :
    hasMarker (library.sha256 text) = false := by
  have letters := hex text
  simp only [isHash, bounded, Bool.and_eq_true, List.all_eq_true] at letters
  have inside : ∀ n : Fin 128, (isDigit (Char.ofNat n) ||
      (97 ≤ (Char.ofNat n).toNat && (Char.ofNat n).toNat ≤ 102)) = true →
        "0123456789abcdef".toList.contains (foldCase (Char.ofNat n)) = true := by decide
  have absent : (markers.all fun word => word.toList.any fun c =>
      !"0123456789abcdef".toList.contains c) = true := by decide
  refine Bool.eq_false_iff.2 fun held => ?_
  obtain ⟨word, member, within⟩ := containsAny_iff.1 held
  obtain ⟨c, listed, other⟩ := List.any_eq_true.1 (List.all_eq_true.1 absent word member)
  obtain ⟨d, digit, rfl⟩ := List.mem_map.1 (within.subset listed)
  have known := letters.2 d digit
  have below : d.toNat < 128 := by
    simp only [isDigit, Bool.or_eq_true, Bool.and_eq_true, decide_eq_true_eq] at known
    omega
  have found := inside ⟨d.toNat, below⟩
  rw [Char.ofNat_toNat] at found
  rw [found known] at other
  cases other

/-- The series of a region and a metric. -/
def hourSeries (region metric : String) : String :=
  "electricity/rto/region-data/" ++ region ++ "/" ++ metric

theorem rtoSeriesIdentity_eq_ok_iff {region metric series : String} :
    rtoSeriesIdentity region metric = .ok series ↔
      SafeProjection.isRegion region.toList = true ∧ (metric = "D" ∨ metric = "NG") ∧
        series = hourSeries region metric := by
  unfold rtoSeriesIdentity
  constructor
  · intro computed
    split at computed
    · next holds =>
        simp only [Bool.and_eq_true, Bool.or_eq_true, beq_iff_eq] at holds
        exact ⟨holds.1, holds.2, (Except.ok.inj computed).symm⟩
    · exact absurd computed nofun
  · rintro ⟨shape, metric, rfl⟩
    rw [if_pos (by simp [shape, metric])]
    rfl

theorem hasMarker_hourSeries {region metric : String} (clean : hasMarker region = false)
    (known : metric = "D" ∨ metric = "NG") : hasMarker (hourSeries region metric) = false := by
  have opening : "electricity/rto/region-data/".toList =
      "electricity/rto/region-data".toList ++ ['/'] := rfl
  have slash : "/".toList = ['/'] := rfl
  have shape : (hourSeries region metric).toList = "electricity/rto/region-data".toList ++
      '/' :: (region.toList ++ '/' :: metric.toList) := by
    unfold hourSeries
    simp only [String.toList_append, opening, slash, List.append_assoc, List.cons_append,
      List.nil_append]
  have front : containsAny markers "electricity/rto/region-data".toList = false := by decide
  have back : containsAny markers metric.toList = false := by
    rcases known with rfl | rfl <;> decide
  have middle : containsAny markers region.toList = false := clean
  rw [hasMarker, shape, containsAny_append_cons (by decide), containsAny_append_cons (by decide),
    front, middle, back]
  rfl

theorem isUnsafe_rtoPayload {sha256 : String → String} {operation series period region metric : String}
    {value unit : Json} :
    isUnsafe (.obj (rtoPayload sha256 operation series period region metric value unit)) = false ↔
      (hasMarker ("rto:" ++ sha256 (series ++ ":" ++ period)) = false ∧ hasMarker series = false ∧
          hasMarker region = false ∧ hasMarker metric = false) ∧
        hasMarker (period ++ ":00:00+00:00") = false ∧ hasMarker period = false ∧
        hasMarker operation = false ∧ isUnsafe value = false ∧ isUnsafe unit = false := by
  have names : ∀ key ∈ rtoKeys, hasMarker key = false := by decide
  simp only [rtoKeys, List.forall_mem_cons, List.not_mem_nil, false_implies, implies_true,
    and_true] at names
  simp only [isUnsafe_obj, rtoPayload, List.forall_mem_cons, names, isUnsafe_str, List.not_mem_nil,
    false_implies, implies_true, and_true, true_and]
  tauto

/-- **A value of an hour is accepted under every region and metric**, where it is under one. -/
theorem rto_accepts (hex : HexDigests library) {period region metric region' metric' series' : String}
    {value unit : Json}
    (readable : Accepts library "eia" "electricity_rto_region_data"
      (rtoPayload library.sha256 "electricity_rto_region_data" series' period region' metric' value
        unit))
    (shape : SafeProjection.isRegion region.toList = true) (known : metric = "D" ∨ metric = "NG")
    (markless : hasMarker region = false) :
    ∃ series, rtoSeriesIdentity region metric = .ok series ∧
      Accepts library "eia" "electricity_rto_region_data"
        (rtoPayload library.sha256 "electricity_rto_region_data" series period region metric value
          unit) := by
  obtain ⟨clean, before, accepted⟩ := accepts_rto.1 readable
  have ran := (contract_eq_ok.1 accepted).2
  have period' : before.get "period" = .str period :=
    get_of_run ran (by simp [rtoSteps, checkField, Step.writes])
  have plain : hasMarker metric = false := by rcases known with rfl | rfl <;> decide
  have identity : ∀ text, hasMarker ("rto:" ++ library.sha256 text) = false := by
    intro text
    have colon : "rto:".toList = "rto".toList ++ [':'] := rfl
    have letters : ("rto:" ++ library.sha256 text).toList =
        "rto".toList ++ ':' :: (library.sha256 text).toList := by
      simp only [String.toList_append, colon, List.append_assoc, List.cons_append, List.nil_append]
    have front : containsAny markers "rto".toList = false := by decide
    have back : containsAny markers (library.sha256 text).toList = false := hasMarker_sha256 hex text
    rw [hasMarker, letters, containsAny_append_cons (by decide), front, back]
    rfl
  refine ⟨_, rtoSeriesIdentity_eq_ok_iff.2 ⟨shape, known, rfl⟩, accepts_rto.2
    ⟨isUnsafe_rtoPayload.2 ⟨⟨identity _, hasMarker_hourSeries markless known, markless, plain⟩,
      (isUnsafe_rtoPayload.1 clean).2⟩, exists_contract
      [("provider_item_id", .str ("rto:" ++ library.sha256 (hourSeries region metric ++ ":" ++ period)),
          .str ("rto:" ++ library.sha256 (hourSeries region metric ++ ":" ++ period))),
        ("series_identity", .str (hourSeries region metric), .str (hourSeries region metric)),
        ("region", .str region, .str region), ("metric", .str metric, .str metric)]
      (ordered_rto library) accepted (by simp) (by simp [rtoKeys]) ?_ ?_ ?_⟩⟩
  · simp [rtoSteps, checkField]
  · simp [rtoSteps, checkField, Step.writes]
  · rintro reads holds step ⟨key, read, new⟩
    simp only [List.map_cons, List.map_nil, List.mem_cons, List.not_mem_nil, or_false] at new
    simp only [rtoSteps, checkField, List.mem_cons, Step.check.injEq, reduceCtorEq,
      List.not_mem_nil, or_false, false_or] at step
    rcases step with ⟨rfl, rfl⟩ | ⟨rfl, rfl⟩ | ⟨rfl, rfl⟩ | ⟨rfl, rfl⟩
    · rw [List.mem_singleton] at read
      subst read
      simp at new
    · rw [List.mem_singleton] at read
      subst read
      simp at new
    · simp only [List.map_cons, List.map_nil, formOf, List.lookup]
      rw [show (before.get "period") = .str period from period']
      refine bind_eq_ok.2 ⟨_, rtoSeriesIdentity_eq_ok_iff.2 ⟨shape, known, rfl⟩, ?_⟩
      exact check_eq_ok.2 ⟨require_eq_ok.2 (Json.eq_str.2 rfl), require_eq_ok.2 (Json.eq_str.2 rfl)⟩
    · simp only [List.mem_cons, List.not_mem_nil, or_false] at read
      rcases read with rfl | rfl <;> simp at new

/-! ### Filings -/

/-- The number of a filer: ten digits. -/
def IsFiler (cik : String) : Prop :=
  cik.toList.length = 10 ∧ ∀ c ∈ cik.toList, isDecimal c = true

/-- The file a filing is read from: none is named, it is absent, or it is one of the filer's. -/
def fileMember (file : Option (Option String)) (cik : String) : Object :=
  match file with
  | none => []
  | some none => [("submissions_file", .null)]
  | some (some suffix) => [("submissions_file", .str ("CIK" ++ cik ++ suffix))]

/-- The payload of a filing of this filer. -/
def filing (library : StandardLibrary) (cik : String) (ticker : Json) (published : Option String)
    (accession date : String) (form document : Json) (file : Option (Option String)) : Object :=
  filingPayload (.str cik) ticker published accession date form document
    (officialUrl library cik accession document) ++ fileMember file cik

/-- The address of a filing of the filer with this number. -/
def filingUrl (filer : Nat) (accession document : String) : String :=
  "https://www.sec.gov/Archives/edgar/data/" ++ toString filer ++ "/" ++
    String.ofList (accession.toList.filter (· ≠ '-')) ++ "/" ++ document

theorem exists_intOf {text : List Char} (decimal : ∀ c ∈ text, isDecimal c = true) :
    ∃ filer, intOf text = some filer := by
  have each : ∀ (text : List Char) (total : Nat), (∀ c ∈ text, isDecimal c = true) →
      ∃ filer, text.foldl (fun total c => total.bind fun value =>
        (decimalValue c).map fun digit => value * 10 + digit) (some total) = some filer := by
    intro text
    induction text with
    | nil => exact fun total _ => ⟨total, rfl⟩
    | cons c text ih =>
        intro total decimal
        obtain ⟨here, later⟩ := List.forall_mem_cons.1 decimal
        have found : (decimalZeros.find? fun zero => zero ≤ c.toNat && c.toNat < zero + 10).isSome =
            true := by
          rw [List.find?_isSome]
          exact List.any_eq_true.1 here
        obtain ⟨zero, known⟩ := Option.isSome_iff_exists.1 found
        simp only [List.foldl_cons, Option.bind_some, decimalValue, known, Option.map_some]
        exact ih _ later
  exact each text 0 decimal

theorem secOfficialUrl_eq {cik accession document : String} {filer : Nat}
    (number : intOf cik.toList = some filer) :
    secOfficialUrl cik accession document = .ok (filingUrl filer accession document) := by
  unfold secOfficialUrl
  rw [number]
  rfl

theorem officialUrl_eq {cik accession : String} {document : Json} {filer : Nat}
    (number : intOf cik.toList = some filer) :
    officialUrl library cik accession document =
      filingUrl filer accession (strOf library document) := by
  unfold officialUrl
  rw [secOfficialUrl_eq number]

theorem isDecimal_of_mem_toString {filer : Nat} : ∀ c ∈ (toString filer).toList,
    isDecimal c = true := by
  intro c member
  have digits : c ∈ Nat.toDigits 10 filer := by
    rw [← Nat.toList_repr]
    exact member
  have digit := Nat.isDigit_of_mem_toDigits (by decide) (by decide) digits
  refine isDecimal_of_isDigit ?_
  simp only [Char.isDigit, Bool.and_eq_true, decide_eq_true_eq] at digit
  simp only [isDigit, Bool.and_eq_true, decide_eq_true_eq]
  have low : 48 ≤ c.toNat := digit.1
  have high : c.toNat ≤ 57 := digit.2
  omega

/-- The address has a marker exactly if the accession number or the document has one. -/
theorem hasMarker_filingUrl (filer : Nat) (accession document : String) :
    hasMarker (filingUrl filer accession document) =
      (containsAny markers (accession.toList.filter (· ≠ '-')) || hasMarker document) := by
  have opening : "https://www.sec.gov/Archives/edgar/data/".toList =
      "https://www.sec.gov/Archives/edgar/data".toList ++ ['/'] := rfl
  have slash : "/".toList = ['/'] := rfl
  have shape : (filingUrl filer accession document).toList =
      "https://www.sec.gov/Archives/edgar/data".toList ++ '/' :: ((toString filer).toList ++
        '/' :: (accession.toList.filter (· ≠ '-') ++ '/' :: document.toList)) := by
    unfold filingUrl
    simp only [String.toList_append, String.toList_ofList, opening, slash, List.append_assoc,
      List.cons_append, List.nil_append]
  have front : containsAny markers "https://www.sec.gov/Archives/edgar/data".toList = false := by
    decide
  have digits : containsAny markers (toString filer).toList = false :=
    containsAny_of_decimal isDecimal_of_mem_toString
  rw [hasMarker, shape, containsAny_append_cons (by decide), containsAny_append_cons (by decide),
    containsAny_append_cons (by decide), front, digits]
  rfl

/-- The rest of the address does not depend on the filer. -/
theorem filingUrl_congr {filer other : Nat} {accession accession' document document' : String}
    (same : filingUrl filer accession document = filingUrl filer accession' document') :
    filingUrl other accession document = filingUrl other accession' document' := by
  have tails : ∀ (filer : Nat) (accession document : String),
      (filingUrl filer accession document).toList =
        ("https://www.sec.gov/Archives/edgar/data/" ++ toString filer ++ "/").toList ++
          (String.ofList (accession.toList.filter (· ≠ '-')) ++ "/" ++ document).toList := by
    intro filer accession document
    unfold filingUrl
    simp only [String.toList_append, List.append_assoc]
  have letters := congrArg String.toList same
  rw [tails, tails] at letters
  refine String.toList_inj.1 ?_
  rw [tails, tails, List.append_cancel_left letters]

/-- The file, as the payload has it. -/
def fileValue (file : Option (Option String)) (cik : String) : Json :=
  match file with
  | some (some suffix) => .str ("CIK" ++ cik ++ suffix)
  | _ => .null

section Filing

variable {cik : String} {ticker : Json} {published : Option String} {accession date : String}
  {form document : Json} {file : Option (Option String)}

theorem filing_without : (filing library cik ticker published accession date form document
    file).without ["submissions_file"] = filingPayload (.str cik) ticker published accession date
      form document (officialUrl library cik accession document) := by
  have bare : (filingPayload (.str cik) ticker published accession date form document
      (officialUrl library cik accession document)).without ["submissions_file"] =
      filingPayload (.str cik) ticker published accession date form document
        (officialUrl library cik accession document) :=
    Object.without_of_not_mem (by simp [Object.keys, filingPayload])
  have gone : (fileMember file cik).without ["submissions_file"] = [] := by
    rcases file with _ | _ | suffix <;> simp [fileMember, Object.without]
  unfold filing
  rw [Object.without, List.filter_append, ← Object.without, ← Object.without, bare, gone,
    List.append_nil]

theorem filing_file : (filing library cik ticker published accession date form document file).get
    "submissions_file" = fileValue file cik := by
  rcases file with _ | _ | suffix <;>
    simp [filing, filingPayload, fileMember, fileValue, Object.get, List.lookup]

theorem isUnsafe_filing :
    isUnsafe (.obj (filing library cik ticker published accession date form document file)) = false ↔
      (hasMarker cik = false ∧ isUnsafe ticker = false ∧
          hasMarker (officialUrl library cik accession document) = false ∧
          isUnsafe (fileValue file cik) = false) ∧
        isUnsafe (textOrNull published) = false ∧ hasMarker accession = false ∧
        hasMarker date = false ∧ isUnsafe form = false ∧ isUnsafe document = false := by
  have names : ∀ key ∈ "submissions_file" :: secKeys, hasMarker key = false := by decide
  simp only [secKeys, List.forall_mem_cons, List.not_mem_nil, false_implies, implies_true,
    and_true] at names
  have member : (∀ entry ∈ fileMember file cik, hasMarker entry.1 = false ∧
      isUnsafe entry.2 = false) ↔ isUnsafe (fileValue file cik) = false := by
    rcases file with _ | _ | suffix <;> simp [fileMember, fileValue, names.1]
  rw [isUnsafe_obj, filing, List.forall_mem_append, member]
  simp only [filingPayload, List.forall_mem_cons, names, isUnsafe_str, isUnsafe_bool,
    List.not_mem_nil, false_implies, implies_true, and_true, true_and]
  tauto

/-- What has been checked of an accepted filing: its reference, and its address. -/
theorem reference_of_accepted {payload inner : Object}
    (accepted : contract secKeys secSteps payload = .ok inner) :
    secReference [inner.get "cik", inner.get "accession_number"] = .ok () ∧
      secUrl [inner.get "cik", inner.get "accession_number", inner.get "primary_document",
        inner.get "official_source", inner.get "official_url"] = .ok () := by
  have ran := (contract_eq_ok.1 accepted).2
  exact ⟨holds_of_run ordered_sec ran (show .check ["cik", "accession_number"] secReference ∈
      secSteps by simp [secSteps]),
    holds_of_run ordered_sec ran (show .check ["cik", "accession_number", "primary_document",
      "official_source", "official_url"] secUrl ∈ secSteps by simp [secSteps])⟩

theorem text_of_isFiler (filer : IsFiler cik) : text 10 (.str cik) = .ok (.str cik) := by
  refine map_eq_ok.2 ⟨cik, ?_, rfl⟩
  have accepted : textOf 10 (.str (String.ofList cik.toList)) = .ok (String.ofList cik.toList) :=
    textOf_of_noSpace (fun c member => isSpace_of_isDecimal (filer.2 c member))
    (List.ne_nil_of_length_eq_add_one filer.1) (Nat.le_of_eq filer.1)
    (containsAny_of_decimal filer.2)
  rwa [String.ofList_toList] at accepted

/-- The number of the filer is kept. -/
theorem cik_of_accepted {inner : Object} {url : String} (filer : IsFiler cik)
    (clean : isUnsafe (.obj (filingPayload (.str cik) ticker published accession date form document
      url)) = false)
    (accepted : contract secKeys secSteps (filingPayload (.str cik) ticker published accession date
      form document url) = .ok inner) : inner.get "cik" = .str cik := by
  have done := (field_of_contract ordered_sec clean accepted
    (show .field "cik" (text 10) ∈ secSteps by simp [secSteps])).1
  exact (Except.ok.inj ((text_of_isFiler filer).symm.trans done)).symm

/-- What follows the number of the filer in the name of a file. -/
def isFileSuffix (suffix : String) : Bool :=
  let word := fun (text : String) => text.toList.map fun c => (· == c)
  shaped (word ".json") suffix.toList ||
    shaped (word "-submissions-" ++ (List.replicate 3 isDecimal ++ word ".json")) suffix.toList

/-- A file is one of the filer's exactly if its name ends as one. -/
theorem secFile_eq_ok {suffix : String} (filer : IsFiler cik) :
    SafeProjection.secFile (.str cik) (.str ("CIK" ++ cik ++ suffix)) = .ok () ↔
      isFileSuffix suffix = true := by
  have letters : ("CIK" ++ cik ++ suffix).toList = ("CIK".toList ++ cik.toList) ++ suffix.toList := by
    simp only [String.toList_append]
  have long : ("CIK".toList ++ cik.toList).length =
      ("CIK".toList.map (fun c => (· == c)) ++ List.replicate 10 isDecimal).length := by
    simp [filer.1]
  have front : shaped ("CIK".toList.map (fun c => (· == c)) ++ List.replicate 10 isDecimal)
      ("CIK".toList ++ cik.toList) = true :=
    shaped_append.2 ⟨_, _, rfl, shaped_word.2 rfl,
      shaped_replicate.2 ⟨filer.1, List.all_eq_true.2 filer.2⟩⟩
  have begins : ("CIK" ++ cik).toList.isPrefixOf ("CIK" ++ cik ++ suffix).toList = true := by
    rw [List.isPrefixOf_iff_prefix, String.toList_append (s := "CIK" ++ cik)]
    exact List.prefix_append ..
  have rest : ∀ shape, shaped ("CIK".toList.map (fun c => (· == c)) ++
      List.replicate 10 isDecimal ++ shape) ("CIK".toList ++ cik.toList ++ suffix.toList) =
      shaped shape suffix.toList := fun shape => by
    rw [Bool.eq_iff_iff, shaped_append_iff long, front]
    simp
  rw [SafeProjection.secFile, require_eq_ok, begins, Bool.and_true, isSubmissionsFile, letters]
  simp only [List.append_assoc] at rest ⊢
  rw [rest, rest, isFileSuffix]

theorem hasMarker_file {suffix : String} (filer : IsFiler cik) (shape : isFileSuffix suffix = true) :
    hasMarker ("CIK" ++ cik ++ suffix) = false := by
  have letters : ("CIK" ++ cik ++ suffix).toList = ("CIK".toList ++ cik.toList) ++ suffix.toList := by
    simp only [String.toList_append]
  rw [hasMarker, letters]
  refine containsAny_markers_of_forall ['a', 't', 'e', 'p'] (by decide) fun c member => ?_
  have decimal : ∀ c, isDecimal c = true → ['a', 't', 'e', 'p'].contains (foldCase c) = false := by
    intro c held
    have none : (['a', 't', 'e', 'p'].all fun other => !isDecimal other) = true := by decide
    rw [foldCase_of_isDecimal held, Bool.eq_false_iff]
    intro listed
    have known := List.all_eq_true.1 none c (List.contains_iff_mem.1 listed)
    rw [held] at known
    cases known
  have word : ("CIK-submissions-.json".toList.all fun c =>
      !(['a', 't', 'e', 'p'].contains (foldCase c))) = true := by decide
  have part : ∀ text : String, (text.toList.all fun c =>
      "CIK-submissions-.json".toList.contains c) = true →
        ∀ c ∈ text.toList, c ∈ "CIK-submissions-.json".toList :=
    fun text inside c held => List.contains_iff_mem.1 (List.all_eq_true.1 inside c held)
  have classes : ∀ c, (isDecimal c = true ∨ c ∈ "CIK-submissions-.json".toList) →
      ['a', 't', 'e', 'p'].contains (foldCase c) = false := by
    rintro c (held | held)
    · exact decimal c held
    · exact Eq.mp (Bool.not_eq_true' _) (List.all_eq_true.1 word c held)
  refine classes c ?_
  rcases List.mem_append.1 member with first | last
  · rcases List.mem_append.1 first with name | number
    · exact .inr (part "CIK" (by decide) c name)
    · exact .inl (filer.2 c number)
  · have inside : ∀ member ∈ "-submissions-".toList.map (fun c => (· == c)) ++
        (List.replicate 3 isDecimal ++ ".json".toList.map (fun c => (· == c))),
        member c = true → isDecimal c = true ∨ c ∈ "CIK-submissions-.json".toList := by
      intro held listed fits
      simp only [List.mem_append, List.mem_map, List.mem_replicate] at listed
      rcases listed with ⟨d, found, rfl⟩ | ⟨-, rfl⟩ | ⟨d, found, rfl⟩
      · have same : c = d := by simpa using fits
        exact .inr (same ▸ part "-submissions-" (by decide) d found)
      · exact .inl fits
      · have same : c = d := by simpa using fits
        exact .inr (same ▸ part ".json" (by decide) d found)
    simp only [isFileSuffix, Bool.or_eq_true] at shape
    rcases shape with short | long
    · obtain ⟨held, listed, fits⟩ := exists_of_shaped short c last
      exact inside held (List.mem_append_right _ (List.mem_append_right _ listed)) fits
    · obtain ⟨held, listed, fits⟩ := exists_of_shaped long c last
      exact inside held listed fits

/-- **A filing is accepted exactly if its ticker is one of the validator's**, where another filer's
would be. -/
theorem filing_accepts_iff {cik' : String} {ticker' : Json}
    (readable : Accepts library "sec_edgar" "submissions_recent"
      (filing library cik' ticker' published accession date form document file))
    (other : IsFiler cik') (filer : IsFiler cik) :
    Accepts library "sec_edgar" "submissions_recent"
        (filing library cik ticker published accession date form document file) ↔
      (∃ form, symbol ticker = .ok form) ∧ isUnsafe ticker = false := by
  constructor
  · intro own
    obtain ⟨clean, result, accepted⟩ := accepts_sec.1 own
    obtain ⟨inner, contracted, -, -⟩ := sec_eq_ok accepted
    have bare := isUnsafe_without clean ["submissions_file"]
    exact ⟨⟨_, (field_of_contract ordered_sec bare contracted
      (show .field "ticker" symbol ∈ secSteps by simp [secSteps])).1⟩, (isUnsafe_filing.1 clean).1.2.1⟩
  · rintro ⟨⟨capitals, spelled⟩, markless⟩
    obtain ⟨clean, result, accepted⟩ := accepts_sec.1 readable
    obtain ⟨before, contracted, -, named⟩ := sec_eq_ok accepted
    have bare := isUnsafe_without clean ["submissions_file"]
    rw [filing_without] at bare contracted
    rw [filing_file] at named
    obtain ⟨number', counted'⟩ := exists_intOf other.2
    obtain ⟨number, counted⟩ := exists_intOf filer.2
    obtain ⟨reference, address⟩ := reference_of_accepted contracted
    have kept : before.get "official_url" =
        .str (officialUrl library cik' accession document) :=
      get_of_run (contract_eq_ok.1 contracted).2 (by simp [secSteps, checkField, Step.writes])
    rw [cik_of_accepted other bare contracted] at reference address named
    rw [kept] at address
    cases stored : before.get "accession_number" with
    | str number'' =>
        cases read : before.get "primary_document" with
        | str name =>
            rw [stored] at reference
            rw [stored, read] at address
            obtain ⟨expected, computed, rest⟩ := bind_eq_ok.1 address
            obtain ⟨official, same⟩ := check_eq_ok.1 rest
            rw [secOfficialUrl_eq counted'] at computed
            obtain rfl := Except.ok.inj computed
            rw [exactly, require_eq_ok, Json.eq_str, Json.str.injEq, officialUrl_eq counted'] at same
            have address' : officialUrl library cik accession document =
                filingUrl number number'' name := by
              rw [officialUrl_eq counted]
              exact filingUrl_congr same
            have url : hasMarker (officialUrl library cik accession document) = false := by
              have old := (isUnsafe_filing.1 clean).1.2.2.1
              rw [officialUrl_eq counted', hasMarker_filingUrl] at old
              rw [officialUrl_eq counted, hasMarker_filingUrl]
              exact old
            have fileClean : isUnsafe (fileValue file cik) = false ∧
                (fileValue file cik ≠ .null →
                  SafeProjection.secFile (.str cik) (fileValue file cik) = .ok ()) := by
              rcases file with _ | _ | suffix
              · exact ⟨rfl, fun some => absurd rfl some⟩
              · exact ⟨rfl, fun some => absurd rfl some⟩
              · rcases named with ⟨absent, -⟩ | ⟨held, given, -, holds, -⟩
                · cases absent
                · rw [← given] at holds
                  have shape := (secFile_eq_ok other).1 holds
                  exact ⟨by rw [fileValue, isUnsafe_str, hasMarker_file filer shape],
                    fun _ => (secFile_eq_ok filer).2 shape⟩
            have whole : isUnsafe (.obj (filing library cik ticker published accession date form
                document file)) = false :=
              isUnsafe_filing.2 ⟨⟨containsAny_of_decimal filer.2, markless, url, fileClean.1⟩,
                (isUnsafe_filing.1 clean).2⟩
            have inner : ∃ inner, contract secKeys secSteps (filingPayload (.str cik) ticker published
                accession date form document (officialUrl library cik accession document)) =
                  .ok inner := by
              refine exists_contract [("cik", .str cik, .str cik), ("ticker", ticker, capitals),
                ("official_url", .str (officialUrl library cik accession document),
                  .str (officialUrl library cik accession document))] ordered_sec contracted
                (by simp) (by simp [secKeys]) ?_ ?_ ?_
              · simp only [List.forall_mem_cons, secSteps, checkField]
                refine ⟨fun normal member => ?_, fun normal member => ?_, fun normal member => ?_,
                  by simp⟩
                · simp at member
                  subst member
                  exact text_of_isFiler filer
                · simp at member
                  subst member
                  exact spelled
                · simp at member
              · simp [secSteps, checkField, Step.writes]
              · rintro reads holds step ⟨key, read', new⟩
                simp only [List.map_cons, List.map_nil, List.mem_cons, List.not_mem_nil,
                  or_false] at new
                simp only [secSteps, checkField, List.mem_cons, Step.check.injEq, reduceCtorEq,
                  List.not_mem_nil, or_false, false_or] at step
                rcases step with ⟨rfl, rfl⟩ | ⟨rfl, rfl⟩ | ⟨rfl, rfl⟩ | ⟨rfl, rfl⟩ | ⟨rfl, rfl⟩
                · simp only [List.map_cons, List.map_nil, formOf, List.lookup]
                  have shapes := require_eq_ok.1 reference
                  rw [Bool.and_eq_true] at shapes
                  refine Eq.trans (congrArg SafeProjection.secReference (show _ = [Json.str cik,
                    Json.str number''] by rw [← stored]; rfl)) ?_
                  refine require_eq_ok.2 (Bool.and_eq_true _ _ ▸ ⟨?_, shapes.2⟩)
                  exact shaped_replicate.2 ⟨filer.1, List.all_eq_true.2 filer.2⟩
                · rw [List.mem_singleton] at read'
                  subst read'
                  simp at new
                · rw [List.mem_singleton] at read'
                  subst read'
                  simp at new
                · simp only [List.mem_cons, List.not_mem_nil, or_false] at read'
                  rcases read' with rfl | rfl <;> simp at new
                · simp only [List.map_cons, List.map_nil, formOf, List.lookup]
                  refine Eq.trans (congrArg secUrl (show _ = [Json.str cik, Json.str number'',
                    Json.str name, before.get "official_source",
                    Json.str (officialUrl library cik accession document)] by
                      rw [← stored, ← read]; rfl)) ?_
                  refine bind_eq_ok.2 ⟨_, secOfficialUrl_eq counted, check_eq_ok.2 ⟨official, ?_⟩⟩
                  exact require_eq_ok.2 (Json.eq_str.2 (by rw [address']))
            obtain ⟨inner, contracted'⟩ := inner
            have number : inner.get "cik" = .str cik :=
              cik_of_accepted filer (filing_without ▸ isUnsafe_without whole ["submissions_file"])
                contracted'
            refine accepts_sec.2 ⟨whole, ?_⟩
            by_cases absent : fileValue file cik = .null
            · refine ⟨inner, bind_eq_ok.2 ⟨inner, by rw [filing_without]; exact contracted', ?_⟩⟩
              rw [filing_file, absent]
              rfl
            · refine ⟨inner.set "submissions_file" (fileValue file cik),
                bind_eq_ok.2 ⟨inner, by rw [filing_without]; exact contracted', ?_⟩⟩
              rw [filing_file]
              split
              · next null => exact absurd null absent
              · exact check_eq_ok.2 ⟨by rw [number]; exact fileClean.2 absent, rfl⟩
        | _ => rw [stored, read] at address; cases address
    | _ => rw [stored] at reference; cases reference

end Filing

/-! ### What the registry accepts -/

/-- A configuration without a secret word has no marker. -/
theorem hasMarker_of_isSafe {text : String} (safe : isSafe (.str text) = true) :
    hasMarker text = false := by
  have within : ∀ word ∈ markers, ∃ secret ∈ secretWords,
      contains secret.toList word.toList = true := by decide
  rw [isSafe, Bool.not_eq_true', Bool.or_eq_false_iff] at safe
  refine Bool.eq_false_iff.2 fun held => ?_
  obtain ⟨word, member, inside⟩ := containsAny_iff.1 held
  obtain ⟨secret, listed, part⟩ := within word member
  have found : containsAny secretWords text.toList = true :=
    containsAny_iff.2 ⟨secret, listed, (contains_iff.1 part).trans inside⟩
  exact Bool.false_ne_true (safe.1.symm.trans found)

theorem isSafe_of_mem {members : Object} (safe : isSafe (.obj members) = true) :
    ∀ entry ∈ members, isSafe entry.2 = true := by
  rw [isSafe] at safe
  induction members with
  | nil => exact fun entry member => absurd member List.not_mem_nil
  | cons entry members ih =>
      obtain ⟨key, value⟩ := entry
      rw [isSafeMembers, Bool.and_eq_true, Bool.and_eq_true] at safe
      exact List.forall_mem_cons.2 ⟨safe.1.2, ih safe.2⟩

theorem isSafe_get {members : Object} (safe : isSafe (.obj members) = true) (key : String) :
    isSafe (members.get key) = true :=
  Object.get_of_forall (fun value => isSafe value = true) rfl (isSafe_of_mem safe) key

theorem isSafe_item {items : List Json} (safe : isSafe (.arr items) = true) :
    ∀ item ∈ items, isSafe item = true := by
  rw [isSafe] at safe
  induction items with
  | nil => exact fun item member => absurd member List.not_mem_nil
  | cons item items ih =>
      rw [isSafeItems, Bool.and_eq_true] at safe
      exact List.forall_mem_cons.2 ⟨safe.1, ih safe.2⟩

/-- A text of capitals, digits and marks. -/
def IsCode (most : Nat) (text : String) : Prop :=
  1 ≤ text.toList.length ∧ text.toList.length ≤ most ∧
    ∀ c ∈ text.toList, isPlain c = true ∧ isLower c = false

theorem symbolOf_of_isCode {code : String} (held : IsCode 20 code) (clean : hasMarker code = false)
    {form : String} : symbolOf (.str code) = .ok form ↔
      SafeProjection.isSymbol code.toList = true ∧ form = code := by
  have whole : collapse code.toList = code.toList :=
    rejoin_of_all (noSpace_of_forall fun c member => (held.2.2 c member).1)
  have read : textOf 20 (.str code) = .ok code := by
    refine textOf_eq_ok.2 ⟨code, rfl, by rw [whole, String.ofList_toList], ?_, ?_, ?_⟩
    · rw [whole]
      exact List.ne_nil_of_length_pos held.1
    · rw [whole]
      exact held.2.1
    · rw [whole]
      exact clean
  rw [symbolOf_eq_ok]
  constructor
  · rintro ⟨normalized, capitals, accepted, spelled, holds, rfl⟩
    obtain rfl := Except.ok.inj (read.symm.trans accepted)
    obtain rfl := Option.some.inj ((upper_of_isSymbol held.2.2).symm.trans spelled)
    exact ⟨holds, String.ofList_toList⟩
  · rintro ⟨holds, same⟩
    exact ⟨code, code.toList, read, upper_of_isSymbol held.2.2, holds,
      by rw [same, String.ofList_toList]⟩

theorem safeIdentifier_of_isCode {code : String} {most : Nat} (held : IsCode most code)
    (clean : hasMarker code = false) : safeIdentifier most (.str code) = some code := by
  have whole := strip_of_noSpace (noSpace_of_forall fun c member => (held.2.2 c member).1)
  have some : code.toList.isEmpty = false := by
    rw [List.isEmpty_eq_false_iff]
    exact List.ne_nil_of_length_pos held.1
  have short : ¬ most < code.toList.length := Nat.not_lt.2 held.2.1
  have markless : containsAny markers code.toList = false := clean
  simp only [safeIdentifier, whole, some, short, markless, decide_false, Bool.or_false,
    Bool.false_eq_true, if_false, String.ofList_toList]

theorem upperText_of_isCode {code : String} {most : Nat} (held : IsCode most code) :
    upperText code = code := by
  rw [upperText, upper_of_isSymbol held.2.2]
  exact String.ofList_toList

theorem isCode_of_bounded {member : Char → Bool} {most : Nat} {code : String}
    (inside : ∀ c, member c = true → isPlain c = true ∧ isLower c = false)
    (shape : bounded member 1 most code.toList = true) : IsCode most code := by
  simp only [bounded, Bool.and_eq_true, decide_eq_true_eq, List.all_eq_true] at shape
  exact ⟨shape.1.1, shape.1.2, fun c held => inside c (shape.2 c held)⟩

theorem isCode_of_isSymbol {code : String} (shape : SafeProjection.isSymbol code.toList = true) :
    IsCode 20 code := by
  obtain ⟨some, short, -⟩ := headed_eq_true shape
  exact ⟨List.length_pos_iff.2 some, short, isPlain_of_isSymbol shape⟩

/-- Capitals, digits, dots, colons and hyphens. -/
theorem isPlain_of_code {c : Char}
    (held : isUpper c = true ∨ isDigit c = true ∨ c = '.' ∨ c = ':' ∨ c = '-') :
    isPlain c = true ∧ isLower c = false := by
  have known : ∀ n : Fin 128, (isUpper (Char.ofNat n) = true ∨ isDigit (Char.ofNat n) = true ∨
      Char.ofNat n = '.' ∨ Char.ofNat n = ':' ∨ Char.ofNat n = '-') →
        isPlain (Char.ofNat n) = true ∧ isLower (Char.ofNat n) = false := by decide
  have below : c.toNat < 128 := by
    rcases held with upper | digit | rfl | rfl | rfl
    · simp only [isUpper, Bool.and_eq_true, decide_eq_true_eq] at upper
      omega
    · simp only [isDigit, Bool.and_eq_true, decide_eq_true_eq] at digit
      omega
    all_goals decide
  exact ascii_forall (fun c => (isUpper c = true ∨ isDigit c = true ∨ c = '.' ∨ c = ':' ∨ c = '-') →
    isPlain c = true ∧ isLower c = false) known below held

end NewsCollect.Collection
