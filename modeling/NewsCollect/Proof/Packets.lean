/-
**What a packet depends on.**

The loads behind a packet return their rows in an order of their own, and a scan loads the rows of
all items of a chunk at once. What is built does not depend on either, with one exception: the rows of
an item are checked in the order in which they arrive, and the first failure is the one that is
raised.

* `Keyed`: the keys of the tables.
* `Faithful`, `loadInputs_faithful`: the inputs of an item are what the tables hold for it.
* `build_eq`: the packet of an item from two inputs.
* `packets_determined_iff`: the packets and the errors are those of the tables, if and only if no two
  rows of an item fail in two ways.
-/

import Mathlib.Data.List.Perm.Basic
import Mathlib.Data.List.Dedup
import NewsCollect.Collection.Control
import NewsCollect.Proof.FixedPoint
import NewsCollect.RichEvidence.Listing

namespace NewsCollect.RichEvidence

open Collection Evidence SafeProjection Unordered

/-- **The keys of the tables**: a projection has one link. -/
structure Keyed (store : Store) : Prop where
  links : (store.links.map EvidenceProjectionLink.id).Nodup
  linked : (store.links.map EvidenceProjectionLink.safeFactProjectionId).Nodup
  evidenceItems : (store.evidenceItems.map EvidenceItem.id).Nodup
  rawItems : (store.rawItems.map RawItem.id).Nodup
  sources : (store.sources.map Source.id).Nodup
  accounts : (store.accounts.map SourceAccount.id).Nodup
  runs : (store.runs.map Run.id).Nodup
  contentItems : (store.contentItems.map ContentItem.id).Nodup

/-! ### Rows -/

section Rows

variable {store : Store}

/-- A row is that of its link. -/
theorem linkedRow_some {link : EvidenceProjectionLink} {row : LinkedRow}
    (made : linkedRow store link = some row) :
    row.link = link ∧ row.projection.id = link.safeFactProjectionId := by
  unfold linkedRow at made
  split at made
  · cases made
  · rename_i projection held
    split at made
    · cases made
    · split at made
      · cases made
      · split at made
        · obtain rfl := Option.some.inj made
          exact ⟨rfl, Table.key_of_find Projection.id held⟩
        · cases made

theorem mem_linkedRows {ids : List Uuid} {row : LinkedRow} :
    row ∈ linkedRows store ids ↔
      row.link ∈ store.links ∧ row.link.evidenceItemId.any ids.contains = true ∧
        linkedRow store row.link = some row := by
  rw [linkedRows, List.mem_filterMap]
  constructor
  · rintro ⟨link, member, made⟩
    obtain ⟨rfl, -⟩ := linkedRow_some made
    obtain ⟨inside, chosen⟩ := List.mem_filter.1 member
    exact ⟨inside, chosen, made⟩
  · rintro ⟨inside, chosen, made⟩
    exact ⟨row.link, List.mem_filter.2 ⟨inside, chosen⟩, made⟩

/-- The rows of one of some items are the rows it has alone. -/
theorem filter_linkedRows {ids : List Uuid} {id : Uuid} (inside : id ∈ ids) :
    (linkedRows store ids).filter (fun row => row.link.evidenceItemId = some id) =
      linkedRows store [id] := by
  unfold linkedRows
  rw [List.filterMap_filter, List.filterMap_filter, List.filter_filterMap]
  apply List.filterMap_congr
  intro link _
  have single : link.evidenceItemId.any [id].contains = true ↔ link.evidenceItemId = some id := by
    cases link.evidenceItemId <;> simp [eq_comm]
  by_cases own : link.evidenceItemId = some id
  · rw [if_pos (by simp [own, inside]), if_pos (single.2 own)]
    cases made : linkedRow store link with
    | none => rfl
    | some row => rw [Option.filter_some, if_pos (by simp [(linkedRow_some made).1, own])]
  · rw [if_neg (mt single.1 own), Option.filter_eq_none_iff]
    intro row made
    split at made
    · simp [(linkedRow_some made).1, own]
    · cases made

/-- No two rows have one link. -/
theorem linkedRows_nodup (keyed : Keyed store) (ids : List Uuid) :
    ((linkedRows store ids).map fun row => row.link.id).Nodup := by
  have links : ((store.links.filter fun link => link.evidenceItemId.any ids.contains).map
      EvidenceProjectionLink.id).Nodup :=
    keyed.links.sublist (List.filter_sublist.map _)
  refine links.sublist ?_
  unfold linkedRows
  induction store.links.filter fun link => link.evidenceItemId.any ids.contains with
  | nil => exact .slnil
  | cons link links ih =>
      rw [List.filterMap_cons]
      cases made : linkedRow store link with
      | none => exact ih.cons _
      | some row =>
          obtain ⟨same, -⟩ := linkedRow_some made
          simpa [same] using ih

/-- A projection has one row. -/
theorem eq_of_projection (keyed : Keyed store) {ids : List Uuid} {left right : LinkedRow}
    (leftMem : left ∈ linkedRows store ids) (rightMem : right ∈ linkedRows store ids)
    (same : left.projection.id = right.projection.id) : left = right := by
  obtain ⟨leftIn, -, leftMade⟩ := mem_linkedRows.1 leftMem
  obtain ⟨rightIn, -, rightMade⟩ := mem_linkedRows.1 rightMem
  rw [(linkedRow_some leftMade).2, (linkedRow_some rightMade).2] at same
  have link : left.link = right.link := List.inj_on_of_nodup_map keyed.linked leftIn rightIn same
  rw [link, rightMade] at leftMade
  exact (Option.some.inj leftMade).symm

end Rows

/-! ### Inputs -/

/-- The inputs of every item, as the tables hold them. -/
def tables (store : Store) : PacketInputs where
  rows id := linkedRows store [id]
  raws := store.rawItem
  sources := store.source
  accounts := store.account
  firstRuns := store.run
  contents := store.contentItem

/-- **The inputs of an item are what the tables hold for it**, with its rows in some order. -/
structure Faithful (inputs : PacketInputs) (store : Store) (evidence : EvidenceItem) : Prop where
  rows : (inputs.rows evidence.id).Perm (linkedRows store [evidence.id])
  raws : inputs.raws evidence.rawItemId = store.rawItem evidence.rawItemId
  sources : inputs.sources evidence.sourceId = store.source evidence.sourceId
  accounts : ∀ id ∈ evidence.sourceAccountId, inputs.accounts id = store.account id
  firstRuns : ∀ raw ∈ store.rawItem evidence.rawItemId,
    inputs.firstRuns raw.collectionRunId = store.run raw.collectionRunId
  contents : ∀ id ∈ evidence.contentItemId.toList ++
      (linkedRows store [evidence.id]).filterMap fun row => row.link.contentItemId,
    inputs.contents id = store.contentItem id

section Inputs

variable {store : Store}

/-- A chunk is loaded with what the tables hold for each of its items. -/
theorem loadInputs_faithful (keyed : Keyed store) (arrival : Arrival) {page : List EvidenceItem}
    {evidence : EvidenceItem} (member : evidence ∈ page) :
    Faithful (loadInputs arrival store page) store evidence := by
  have own : evidence.id ∈ page.map EvidenceItem.id := List.mem_map_of_mem member
  have rawItem : (loadInputs arrival store page).raws evidence.rawItemId =
      store.rawItem evidence.rawItemId :=
    find_loaded (page.map EvidenceItem.rawItemId).contains keyed.rawItems
      (arrival.raws_perm _) (List.contains_iff_mem.2 (List.mem_map_of_mem member))
  constructor
  · rw [← filter_linkedRows own]
    exact (arrival.rows_perm _).filter _
  · exact rawItem
  · exact find_loaded (page.map EvidenceItem.sourceId).contains keyed.sources
      (arrival.sources_perm _) (List.contains_iff_mem.2 (List.mem_map_of_mem member))
  · intro id held
    exact find_loaded (page.filterMap EvidenceItem.sourceAccountId).contains
      keyed.accounts (arrival.accounts_perm _)
      (List.contains_iff_mem.2 (List.mem_filterMap.2 ⟨evidence, member, held⟩))
  · intro raw held
    have loaded := Table.mem_of_find RawItem.id (rawItem.trans held)
    exact find_loaded (List.map RawItem.collectionRunId _).contains keyed.runs
      (arrival.runs_perm _) (List.contains_iff_mem.2 (List.mem_map_of_mem loaded))
  · intro id held
    refine find_loaded (_ ++ _ : List Uuid).contains keyed.contentItems
      (arrival.contents_perm _) (List.contains_iff_mem.2 (List.mem_append.2 ?_))
    rcases List.mem_append.1 held with mine | linked
    · exact .inl (List.mem_filterMap.2 ⟨evidence, member, Option.mem_toList.1 mine⟩)
    · obtain ⟨row, inside, named⟩ := List.mem_filterMap.1 linked
      rw [← filter_linkedRows own] at inside
      exact .inr (List.mem_filterMap.2
        ⟨row, (arrival.rows_perm _).mem_iff.2 (List.mem_of_mem_filter inside), named⟩)

theorem rawOf_eq {inputs : PacketInputs} {evidence : EvidenceItem}
    (faithful : Faithful inputs store evidence) :
    rawOf inputs evidence = rawOf (tables store) evidence := by
  have accounts : evidence.sourceAccountId.bind inputs.accounts =
      evidence.sourceAccountId.bind store.account := Option.bind_congr faithful.accounts
  unfold rawOf
  rw [faithful.raws, faithful.sources, accounts]
  cases held : store.rawItem evidence.rawItemId with
  | none => simp only [tables, held]
  | some raw =>
      cases found : store.source evidence.sourceId with
      | none => simp only [tables, held, found]
      | some source =>
          simp only [tables, held, found, faithful.firstRuns raw held]
          rfl

end Inputs

/-! ### Building -/

instance : Std.Total Earlier where
  total left right := by
    unfold Earlier
    grind

instance : IsTrans Revised Earlier where
  trans first second third before after := by
    unfold Earlier at *
    grind

section Building

variable {library : StandardLibrary} {store : Store} {evidence : EvidenceItem}

/-- A revision is that of its row. -/
theorem checkRow_ok {raw : RawItem} {row : LinkedRow} {revised : Revised}
    (checked : checkRow library evidence raw row = .ok revised) :
    revised.revision.linkId = row.link.id ∧ revised.revision.projectionId = row.projection.id := by
  obtain ⟨-, rest⟩ := check_eq_ok.1 checked
  obtain ⟨facts, -, made⟩ := bind_eq_ok.1 rest
  obtain rfl := pure_eq_ok.1 made
  exact ⟨rfl, rfl⟩

theorem referenceTo_eq {retentionClass : String} {rows others : List LinkedRow}
    (same : rows.Perm others) (revisions : List EvidenceRevision) (operation : String) (version : Int)
    (content : Option ContentItem) :
    referenceTo evidence retentionClass rows revisions operation version content =
      referenceTo evidence retentionClass others revisions operation version content := by
  unfold referenceTo
  rw [only_perm (same.filter _)]

theorem contentReference_eq {retentionClass : String} {rows others : List LinkedRow}
    (same : rows.Perm others) (revisions : List EvidenceRevision) (operation : String) (version : Int)
    {contents held : Uuid → Option ContentItem}
    (agree : ∀ id ∈ evidence.contentItemId.toList ++
      others.filterMap (fun row => row.link.contentItemId), contents id = held id) :
    contentReference evidence retentionClass rows revisions operation version contents =
      contentReference evidence retentionClass others revisions operation version held := by
  have ids : (evidence.contentItemId.toList ++
      rows.filterMap fun row => row.link.contentItemId).dedup.Perm
      (evidence.contentItemId.toList ++ others.filterMap fun row => row.link.contentItemId).dedup :=
    ((same.filterMap _).append_left _).dedup
  simp only [contentReference, isEmpty_perm ids, only_perm ids]
  split
  · rfl
  · split
    · rename_i id single
      have member : id ∈ evidence.contentItemId.toList ++
          others.filterMap fun row => row.link.contentItemId :=
        List.mem_dedup.1 (by rw [only_eq_some.1 single]; exact List.mem_singleton_self id)
      rw [agree id member, referenceTo_eq same]
    · rfl

theorem buildSorted_eq {limits : Limits} {inputs : PacketInputs} {raw : RawItem}
    {rows others : List LinkedRow} (same : rows.Perm others)
    (distinct : (rows.map fun row => row.link.id).Nodup) (sorted : List Revised)
    (agree : ∀ id ∈ evidence.contentItemId.toList ++
      others.filterMap (fun row => row.link.contentItemId), inputs.contents id = store.contentItem id) :
    buildSorted library limits inputs evidence raw rows sorted =
      buildSorted library limits (tables store) evidence raw others sorted := by
  have found : Table.find (fun row : LinkedRow => row.link.id) rows =
      Table.find (fun row => row.link.id) others := funext (find_perm same distinct)
  unfold buildSorted
  simp only [found, contentReference_eq same _ _ _ agree]
  rfl

theorem assemble_evidenceId {draft : Draft} {revisions : List EvidenceRevision} {reason : String}
    {packet : RichEvidencePacket} (made : assemble library draft revisions reason = .ok packet) :
    packet.evidenceId = draft.evidence.id := by
  obtain ⟨mode, -, rest⟩ := bind_eq_ok.1 made
  obtain ⟨published, -, rest⟩ := bind_eq_ok.1 rest
  obtain ⟨text, -, rest⟩ := bind_eq_ok.1 rest
  obtain rfl := pure_eq_ok.1 rest
  rfl

theorem shrink_evidenceId {maxBytes : Nat} {draft : Draft} {revisions : List EvidenceRevision}
    {reason : String} {packet : RichEvidencePacket}
    (made : shrink library maxBytes draft revisions reason = .ok packet) :
    packet.evidenceId = draft.evidence.id := by
  induction revisions generalizing reason with
  | nil =>
      obtain ⟨first, assembled, rest⟩ := bind_eq_ok.1 made
      obtain ⟨size, -, rest⟩ := bind_eq_ok.1 rest
      obtain rfl := pure_eq_ok.1 (check_eq_ok.1 rest).2
      exact assemble_evidenceId assembled
  | cons oldest others ih =>
      obtain ⟨first, assembled, rest⟩ := bind_eq_ok.1 made
      obtain ⟨size, -, rest⟩ := bind_eq_ok.1 rest
      split at rest
      · obtain rfl := pure_eq_ok.1 rest
        exact assemble_evidenceId assembled
      · split at rest
        · cases rest
        · exact ih rest

theorem buildSorted_evidenceId {limits : Limits} {inputs : PacketInputs} {raw : RawItem}
    {rows : List LinkedRow} {sorted : List Revised} {packet : RichEvidencePacket}
    (made : buildSorted library limits inputs evidence raw rows sorted = .ok packet) :
    packet.evidenceId = evidence.id := by
  obtain ⟨current, -, rest⟩ := bind_eq_ok.1 made
  obtain ⟨policy, -, rest⟩ := bind_eq_ok.1 rest
  obtain ⟨-, rest⟩ := check_eq_ok.1 rest
  obtain ⟨canonical, -, rest⟩ := bind_eq_ok.1 rest
  obtain ⟨-, rest⟩ := check_eq_ok.1 rest
  obtain ⟨content, -, rest⟩ := bind_eq_ok.1 rest
  exact shrink_evidenceId rest

/-- **The rows of an item fail in one way**: two rows that fail the checks fail with one error. -/
def FailAlike (library : StandardLibrary) (store : Store) (evidence : EvidenceItem) : Prop :=
  ∀ raw, rawOf (tables store) evidence = .ok raw →
    ∀ left ∈ linkedRows store [evidence.id], ∀ right ∈ linkedRows store [evidence.id],
      ∀ raised other, checkRow library evidence raw left = .error raised →
        checkRow library evidence raw right = .error other → raised = other

/-- Revisions of rows are put in one order. -/
theorem insertionSort_eq (keyed : Keyed store) {raw : RawItem} {rows : List LinkedRow}
    (ofStore : ∀ row ∈ rows, row ∈ linkedRows store [evidence.id]) {revised others : List Revised}
    (made : rows.mapM (checkRow library evidence raw) = .ok revised) (same : revised.Perm others) :
    revised.insertionSort Earlier = others.insertionSort Earlier := by
  refine insertionSort_perm same fun left leftMem right rightMem before after => ?_
  obtain ⟨first, firstMem, firstOk⟩ := exists_of_mapM_ok made leftMem
  obtain ⟨second, secondMem, secondOk⟩ := exists_of_mapM_ok made rightMem
  have projection : left.revision.projectionId = right.revision.projectionId := by
    unfold Earlier at before after
    grind
  rw [(checkRow_ok firstOk).2, (checkRow_ok secondOk).2] at projection
  obtain rfl := eq_of_projection keyed (ofStore first firstMem) (ofStore second secondMem) projection
  exact Except.ok.inj (firstOk.symm.trans secondOk)

theorem sameOperation_perm {revised others : List Revised} (same : revised.Perm others) :
    sameOperation revised = sameOperation others := by
  unfold sameOperation
  rw [(same.map _).dedup.length_eq]

/-- **The packet of an item** is that of the tables, where its rows fail in one way. -/
theorem build_eq (keyed : Keyed store) {limits : Limits} {inputs : PacketInputs}
    (faithful : Faithful inputs store evidence) (alike : FailAlike library store evidence) :
    build library limits inputs evidence = build library limits (tables store) evidence := by
  have rows : (inputs.rows evidence.id).Perm ((tables store).rows evidence.id) := faithful.rows
  simp only [build, isEmpty_perm rows, rawOf_eq faithful]
  refine bind_congr fun _ => ?_
  cases held : rawOf (tables store) evidence with
  | error raised => rfl
  | ok raw =>
      have fails := mapM_perm rows fun left leftMem right rightMem =>
        alike raw held left (rows.mem_iff.1 leftMem) right (rows.mem_iff.1 rightMem)
      rcases fails with ⟨revised, others, first, second, same⟩ | ⟨raised, first, second⟩
      · have sorted := insertionSort_eq keyed (fun row member => rows.mem_iff.1 member) first same
        have distinct : ((inputs.rows evidence.id).map fun row => row.link.id).Nodup :=
          (rows.map _).nodup_iff.2 (linkedRows_nodup keyed [evidence.id])
        simp only [Bind.bind, Except.bind, first, second, sameOperation_perm same, sorted,
          buildSorted_eq rows distinct _ faithful.contents]
      · simp only [Bind.bind, Except.bind, first, second]

/-- A packet names its item. -/
theorem build_evidenceId {limits : Limits} {inputs : PacketInputs} {packet : RichEvidencePacket}
    (built : build library limits inputs evidence = .ok packet) : packet.evidenceId = evidence.id := by
  obtain ⟨-, rest⟩ := check_eq_ok.1 built
  obtain ⟨raw, -, rest⟩ := bind_eq_ok.1 rest
  obtain ⟨revised, -, rest⟩ := bind_eq_ok.1 rest
  exact buildSorted_evidenceId (check_eq_ok.1 rest).2

end Building

/-! ### Scans -/

section Scans

variable {store : Store} {request : ListRequest}

theorem mem_of_linkedEvidence {cursor : Option Uuid} {provider : Option String}
    {evidence : EvidenceItem} (member : evidence ∈ linkedEvidence store cursor provider) :
    evidence ∈ store.evidenceItems :=
  List.mem_of_mem_filter ((List.perm_insertionSort _ _).mem_iff.1 member)

theorem mem_of_nextChunk {scan : Scan} {evidence : EvidenceItem}
    (member : evidence ∈ (nextChunk store request scan).1) : evidence ∈ store.evidenceItems :=
  mem_of_linkedEvidence (List.mem_of_mem_take (List.mem_of_mem_take member))

theorem readChunk_congr {packetOf other : EvidenceItem → Result RichEvidencePacket}
    {page : List EvidenceItem} (same : ∀ evidence ∈ page, packetOf evidence = other evidence)
    (scan : Scan) : readChunk packetOf request scan page = readChunk other request scan page := by
  induction page generalizing scan with
  | nil => rfl
  | cons evidence rest ih =>
      have later := ih fun evidence member => same evidence (List.mem_cons_of_mem _ member)
      unfold readChunk
      rw [same evidence (List.mem_cons_self ..)]
      simp only [later]

/-- A scan is the same with packets that are the same for every item of a chunk. -/
theorem readChunks_congr
    {packetOf other : Nat → List EvidenceItem → EvidenceItem → Result RichEvidencePacket}
    (same : ∀ number page, (∀ evidence ∈ page, evidence ∈ store.evidenceItems) →
      ∀ evidence ∈ page, packetOf number page evidence = other number page evidence)
    (fuel number : Nat) (scan : Scan) :
    readChunks packetOf store request fuel number scan =
      readChunks other store request fuel number scan := by
  induction fuel generalizing number scan with
  | zero => rfl
  | succ fuel ih =>
      unfold readChunks
      simp only [ih]
      rw [readChunk_congr]
      exact same number _ fun evidence member => mem_of_nextChunk member

theorem listing_congr {limits : Limits}
    {packetOf other : Nat → List EvidenceItem → EvidenceItem → Result RichEvidencePacket}
    (same : ∀ number page, (∀ evidence ∈ page, evidence ∈ store.evidenceItems) →
      ∀ evidence ∈ page, packetOf number page evidence = other number page evidence) :
    listing packetOf limits store request = listing other limits store request := by
  simp only [listing, readChunks_congr same]

/-- Every packet of a chunk is that of an item of the chunk. -/
theorem readChunk_packets {packetOf : EvidenceItem → Result RichEvidencePacket}
    {page : List EvidenceItem} {scan last : Scan}
    (ran : readChunk packetOf request scan page = .ok last) {packet : RichEvidencePacket}
    (member : packet ∈ last.packets) :
    packet ∈ scan.packets ∨ ∃ evidence ∈ page, packetOf evidence = .ok packet := by
  induction page generalizing scan with
  | nil =>
      obtain rfl := pure_eq_ok.1 ran
      exact .inl member
  | cons evidence rest ih =>
      obtain ⟨made, built, looped⟩ := bind_eq_ok.1 ran
      have later {first : Scan} (ran : readChunk packetOf request first rest = .ok last) :
          packet ∈ first.packets ∨ ∃ evidence' ∈ evidence :: rest, packetOf evidence' = .ok packet :=
        (ih ran).imp_right fun ⟨other, inside, made⟩ => ⟨other, List.mem_cons_of_mem _ inside, made⟩
      have added {old : List RichEvidencePacket} (inside : packet ∈ old ++ [made]) :
          packet ∈ old ∨ ∃ evidence' ∈ evidence :: rest, packetOf evidence' = .ok packet := by
        rcases List.mem_append.1 inside with before | new
        · exact .inl before
        · rw [List.mem_singleton] at new
          exact .inr ⟨evidence, List.mem_cons_self .., new ▸ built⟩
      simp only at looped
      split at looped
      · split at looped
        · obtain rfl := pure_eq_ok.1 looped
          exact added member
        · exact (later looped).elim added .inr
      · have unwanted := later looped
        exact unwanted

/-- Every packet of a scan is that of an item of a chunk. -/
theorem readChunks_packets
    {packetOf : Nat → List EvidenceItem → EvidenceItem → Result RichEvidencePacket}
    {fuel number : Nat} {scan last : Scan}
    (ran : readChunks packetOf store request fuel number scan = .ok last)
    {packet : RichEvidencePacket} (member : packet ∈ last.packets) :
    packet ∈ scan.packets ∨ ∃ number page, (∀ evidence ∈ page, evidence ∈ store.evidenceItems) ∧
      ∃ evidence ∈ page, packetOf number page evidence = .ok packet := by
  induction fuel generalizing number scan with
  | zero =>
      obtain rfl := pure_eq_ok.1 ran
      exact .inl member
  | succ fuel ih =>
      unfold readChunks at ran
      split at ran
      · obtain rfl := pure_eq_ok.1 ran
        exact .inl member
      · simp only at ran
        split at ran
        · obtain rfl := pure_eq_ok.1 ran
          exact .inl member
        · obtain ⟨next, chunk, rest⟩ := bind_eq_ok.1 ran
          have here (inside : packet ∈ next.packets) :
              packet ∈ scan.packets ∨ ∃ number page, (∀ evidence ∈ page, evidence ∈ store.evidenceItems) ∧
                ∃ evidence ∈ page, packetOf number page evidence = .ok packet :=
            (readChunk_packets chunk inside).imp_right fun made =>
              ⟨number, _, fun evidence member => mem_of_nextChunk member, made⟩
          split at rest
          · obtain rfl := pure_eq_ok.1 rest
            exact here member
          · exact (ih rest).elim here .inr

end Scans

/-! ### The packets and the tables -/

/-- The order of the tables, but for chosen rows, which are the first. -/
def Arrival.bringing (chosen : LinkedRow → Bool) : Arrival where
  rows loaded := loaded.filter chosen ++ loaded.filter fun row => !chosen row
  raws := id
  sources := id
  accounts := id
  runs := id
  contents := id
  rows_perm loaded := List.filter_append_perm chosen loaded
  raws_perm := .refl
  sources_perm := .refl
  accounts_perm := .refl
  runs_perm := .refl
  contents_perm := .refl

/-- **Packets are a function of the tables**: the packet or the error of an item is the same in every
order of arrival, and a listing is that of the packets that are built one by one. -/
structure Determined (library : StandardLibrary) (limits : Limits) (store : Store) : Prop where
  one : ∀ first second evidenceId, buildOne library limits first store evidenceId =
    buildOne library limits second store evidenceId
  listed : ∀ arrivals request arrival, listPackets library limits arrivals store request =
    listing (fun _ _ evidence => buildOne library limits arrival store evidence.id) limits store
      request
  yielded : ∀ arrivals request page, listPackets library limits arrivals store request = .ok page →
    ∀ packet ∈ page.packets, ∀ arrival,
      buildOne library limits arrival store packet.evidenceId = .ok packet

section Determined

variable {library : StandardLibrary} {store : Store}

theorem buildOne_eq (keyed : Keyed store) {limits : Limits} (arrival : Arrival)
    {evidence : EvidenceItem} (member : evidence ∈ store.evidenceItems)
    (alike : FailAlike library store evidence) :
    buildOne library limits arrival store evidence.id =
      build library limits (tables store) evidence := by
  have found : store.evidenceItem evidence.id = some evidence :=
    Table.find_of_mem EvidenceItem.id keyed.evidenceItems member
  simp only [buildOne, found]
  exact build_eq keyed (loadInputs_faithful keyed arrival (List.mem_singleton_self evidence)) alike

theorem determined_of_alike (keyed : Keyed store) (limits : Limits)
    (alike : ∀ evidence ∈ store.evidenceItems, FailAlike library store evidence) :
    Determined library limits store := by
  have chunk (arrivals : Nat → Arrival) (arrival : Arrival) (number : Nat) (page : List EvidenceItem)
      (ofStore : ∀ evidence ∈ page, evidence ∈ store.evidenceItems) (evidence : EvidenceItem)
      (member : evidence ∈ page) :
      build library limits (loadInputs (arrivals number) store page) evidence =
        buildOne library limits arrival store evidence.id := by
    have own := ofStore evidence member
    rw [buildOne_eq keyed arrival own (alike evidence own),
      build_eq keyed (loadInputs_faithful keyed _ member) (alike evidence own)]
  refine ⟨fun first second evidenceId => ?_, fun arrivals request arrival => ?_,
    fun arrivals request page listed packet member arrival => ?_⟩
  · cases held : store.evidenceItem evidenceId with
    | none => simp only [buildOne, held]
    | some evidence =>
        have own := Table.mem_of_find EvidenceItem.id held
        obtain rfl := Table.key_of_find EvidenceItem.id held
        rw [buildOne_eq keyed first own (alike evidence own),
          buildOne_eq keyed second own (alike evidence own)]
  · exact listing_congr (chunk arrivals arrival)
  · obtain ⟨-, rest⟩ := check_eq_ok.1 listed
    obtain ⟨last, scanned, rest⟩ := bind_eq_ok.1 rest
    obtain rfl := pure_eq_ok.1 rest
    obtain ⟨number, page, ofStore, evidence, inside, built⟩ :=
      (readChunks_packets scanned member).resolve_left List.not_mem_nil
    rw [build_evidenceId built, ← chunk arrivals arrival number page ofStore evidence inside]
    exact built

/-- A row that fails and arrives first fails its item. -/
theorem buildOne_bringing (keyed : Keyed store) (limits : Limits) {evidence : EvidenceItem}
    (member : evidence ∈ store.evidenceItems) {raw : RawItem}
    (held : rawOf (tables store) evidence = .ok raw) {row : LinkedRow}
    (inside : row ∈ linkedRows store [evidence.id]) {chosen : LinkedRow → Bool}
    (single : ∀ other, chosen other = true ↔ other = row) {raised : PyError}
    (fails : checkRow library evidence raw row = .error raised) :
    buildOne library limits (.bringing chosen) store evidence.id = .error raised := by
  have found : store.evidenceItem evidence.id = some evidence :=
    Table.find_of_mem EvidenceItem.id keyed.evidenceItems member
  have faithful := loadInputs_faithful keyed (.bringing chosen) (List.mem_singleton_self evidence)
  have rows : ∃ rest, (loadInputs (.bringing chosen) store [evidence]).rows evidence.id =
      row :: rest := by
    show ∃ rest, ((linkedRows store [evidence.id]).filter chosen ++ _).filter _ = row :: rest
    rw [List.filter_append]
    cases first : ((linkedRows store [evidence.id]).filter chosen).filter
        fun row => row.link.evidenceItemId = some evidence.id with
    | nil =>
        have own : row.link.evidenceItemId = some evidence.id := by
          rw [← filter_linkedRows (List.mem_singleton_self evidence.id)] at inside
          simpa using (List.mem_filter.1 inside).2
        exact absurd (List.mem_filter.2 ⟨List.mem_filter.2 ⟨inside, (single row).2 rfl⟩, by simp [own]⟩)
          (first ▸ List.not_mem_nil)
    | cons other rest =>
        have chosenFirst := List.mem_of_mem_filter (first ▸ List.mem_cons_self : other ∈ _)
        obtain rfl := (single other).1 (List.mem_filter.1 chosenFirst).2
        exact ⟨_, rfl⟩
  obtain ⟨rest, rows⟩ := rows
  simp only [buildOne, found, build, rows, rawOf_eq faithful, held, List.isEmpty_cons]
  have first : (row :: rest).mapM (checkRow library evidence raw) = .error raised :=
    mapM_cons_error.2 (.inl fails)
  simp only [Bind.bind, Except.bind, first]
  rfl

/-- **What a packet depends on**: whatever the order in which the loads return their rows, and whatever
the chunks of a listing, the packet or the error of every item is the same, if and only if the rows of
an item that fail the checks fail with one error. -/
theorem packets_determined_iff (library : StandardLibrary) (limits : Limits) (store : Store)
    (keyed : Keyed store) :
    Determined library limits store ↔
      ∀ evidence ∈ store.evidenceItems, FailAlike library store evidence := by
  classical
  constructor
  · intro determined evidence member raw held left leftMem right rightMem raised other leftFails
      rightFails
    have bring (row : LinkedRow) (candidate : LinkedRow) :
        decide (candidate = row) = true ↔ candidate = row := decide_eq_true_iff
    have first := buildOne_bringing keyed limits member held leftMem (bring left) leftFails
    have second := buildOne_bringing keyed limits member held rightMem (bring right) rightFails
    rw [determined.one (.bringing _) (.bringing fun candidate => decide (candidate = right)),
      second] at first
    exact (Except.error.inj first).symm
  · exact determined_of_alike keyed limits

/-! ### News with two revisions -/

/-- The budgets of a builder, where none are given. -/
def defaultLimits : Limits := ⟨50, 262144, 100, by decide, by decide, by decide⟩

/-- A budget of three thousand bytes. -/
def reportedLimits : Limits := ⟨50, 3000, 100, by decide, by decide, by decide⟩

/-- The facts of an item of company news. -/
def newsFacts : Object :=
  [("provider_item_id", .str "company-news:1"), ("published_at", .str "2024-01-02T03:04:05+00:00"),
    ("title", .null), ("canonical_url", .null), ("source_identity", .null), ("symbol", .str "MSFT"),
    ("category", .null), ("summary_coverage", .str "blocked")]

def newsEvidence : EvidenceItem where
  id := 50
  evidenceVersion := 1
  provider := "finnhub"
  providerItemType := "finnhub_company_news"
  evidenceKind := "news"
  sourceType := "news"
  sourceId := 10
  sourceAccountId := none
  rawItemId := 40
  contentItemId := none
  providerItemId := some "company-news:1"
  providerItemHash := newsHash
  eventTime := some 63839761445000000
  observedAt := 0
  accessLevel := "licensed"
  processingStatus := "validated"
  officialSourceFlag := false
  marketDataFlag := false
  disclosureFlag := false
  newsSignalFlag := true
  contentPresence := expectedContent newsFacts
  numericPresence := expectedNumeric "finnhub" "company_news"
  entityRefs := []
  assetRefs := []
  topicRefs := []
  rawPayloadReference := none
  errors := []

/-- An observation of the news under a version of the contract. -/
def newsObservation (id : Uuid) (providerContractVersion : Int) (hash : String) : Observation where
  id := id
  collectionRunId := 30
  rawItemId := 40
  targetId := none
  sourceId := 10
  sourceAccountId := none
  provider := "finnhub"
  operationKey := "company_news"
  configRevision := none
  providerContractVersion := providerContractVersion
  observedAt := 0
  projectionHash := hash
  observationKind := .firstSeen
  observationKey := hash
  createdAt := 0

/-- The facts of an observation under a version of their schema. -/
def newsProjection (id observationId : Uuid) (projectionSchemaVersion : Int) (hash : String) :
    Projection where
  id := id
  observationId := observationId
  rawItemId := 40
  provider := "finnhub"
  operationKey := "company_news"
  projectionSchemaVersion := projectionSchemaVersion
  factualPayload := newsFacts
  projectionHash := hash
  qualityStatus := .partialFacts
  processingStatus := .ready
  safeErrorCode := none
  attemptCount := 1
  nextRetryAt := none
  processedAt := some 0
  createdAt := 0
  updatedAt := 0

def newsLink (id projectionId : Uuid) (canonical : Bool) : EvidenceProjectionLink where
  id := id
  safeFactProjectionId := projectionId
  evidenceItemId := some 50
  contentItemId := none
  status := .linked
  attemptCount := 1
  nextRetryAt := none
  safeErrorCode := none
  linkedAt := some 0
  canonicalEvidence := canonical
  canonicalContent := false
  createdAt := 0
  updatedAt := 0

/-- The tables with the news, which two runs have observed, and these links. -/
def newsStore (links : List EvidenceProjectionLink) : Store where
  toDatabase :=
    { quoteTables with
      runs := [⟨30, 10, none, none, .normal, none, 0, some 0, .succeeded, 1, 1, 1, none, none, 1, 0, 0,
          none, none, 0⟩,
        ⟨31, 10, none, none, .normal, none, 0, some 0, .succeeded, 1, 1, 1, none, none, 1, 0, 0,
          none, none, 0⟩]
      rawItems := [⟨40, 10, none, 30, ⟨none, 0, none, none, none, none, "metadata_only"⟩⟩]
      observations := [newsObservation 60 3 newsHash,
        { newsObservation 61 2 newsHash with collectionRunId := 31 }]
      projections := [newsProjection 70 60 1 newsHash, newsProjection 71 61 2 newsHash] }
  evidenceItems := [newsEvidence]
  contentItems := []
  links := links

/-- The tables of a program that knows both versions. -/
def agreeingNews : Store :=
  { newsStore [newsLink 80 70 true, newsLink 81 71 false] with
    observations := [newsObservation 60 2 newsHash,
      { newsObservation 61 2 newsHash with collectionRunId := 31 }]
    projections := [newsProjection 70 60 1 newsHash, newsProjection 71 61 1 newsHash] }

/-- Both rows of the item pass the checks, and it has one packet. -/
theorem packets_determined_agreeing :
    Keyed agreeingNews ∧ Determined newsDigests defaultLimits agreeingNews := by
  have keyed : Keyed agreeingNews := by constructor <;> decide
  refine ⟨keyed, (packets_determined_iff newsDigests defaultLimits _ keyed).2 ?_⟩
  intro evidence member raw held left leftMem right rightMem raised other leftFails rightFails
  obtain rfl := List.mem_singleton.1 (member : evidence ∈ [newsEvidence])
  have checked : ∀ row ∈ linkedRows agreeingNews [newsEvidence.id],
      (rawOf (tables agreeingNews) newsEvidence).toOption.any fun raw =>
        (checkRow newsDigests newsEvidence raw row).isOk := by
    decide +kernel
  have passes := checked left leftMem
  rw [held, Except.toOption, Option.any_some, leftFails] at passes
  exact absurd passes Bool.false_ne_true

/-- A newer program has linked a revision of a newer contract and one of a newer schema. Which of the two
is reported depends on the one that arrives first. -/
theorem first_failure_raised :
    Keyed (newsStore [newsLink 80 70 true, newsLink 81 71 false]) ∧
      ¬ Determined newsDigests defaultLimits
        (newsStore [newsLink 80 70 true, newsLink 81 71 false]) := by
  refine ⟨by constructor <;> decide, fun determined => ?_⟩
  have same := determined.one (.bringing fun row => row.link.id = 80)
    (.bringing fun row => row.link.id = 81) 50
  have first : buildOne newsDigests defaultLimits (.bringing fun row => row.link.id = 80)
      (newsStore [newsLink 80 70 true, newsLink 81 71 false]) 50 =
      richError "rich_evidence_contract_version_invalid" := by
    decide +kernel
  have second : buildOne newsDigests defaultLimits (.bringing fun row => row.link.id = 81)
      (newsStore [newsLink 80 70 true, newsLink 81 71 false]) 50 =
      richError "rich_evidence_projection_invalid" := by
    decide +kernel
  rw [first, second] at same
  exact absurd same (by decide)

end Determined

end NewsCollect.RichEvidence
