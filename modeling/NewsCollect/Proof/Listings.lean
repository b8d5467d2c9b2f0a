/-
**A listing reads every item once.**

A call reads the items behind its cursor in the order of their identifiers, as many as its two
budgets allow, and names the last one that it has read as long as there are items behind it. The
calls that follow one another this way read all items, each of them in one call.

* `readChunk_reads`, `readChunks_reads`: what a chunk and a call have read.
* `Honest`: what a page says of the call.
* `listing_complete`: the pages of all calls.
-/

import NewsCollect.Proof.Truncation

namespace NewsCollect.RichEvidence

open Collection Evidence SafeProjection Unordered

/-! ### The items behind a cursor -/

section Items

variable {store : Store} {provider : Option String}

/-- The items of a listing, each before those of larger identifiers. -/
theorem linkedEvidence_pairwise (keyed : Keyed store) (cursor : Option Uuid) :
    (linkedEvidence store cursor provider).Pairwise fun left right => left.id < right.id := by
  have sorted := List.pairwise_insertionSort (fun left right : EvidenceItem => left.id ≤ right.id)
    (store.evidenceItems.filter fun evidence =>
      store.links.any (fun link => link.evidenceItemId == some evidence.id &&
        link.status == .linked) &&
      cursor.all (fun cursor => decide (cursor < evidence.id)) &&
      provider.all fun provider => evidence.provider == provider)
  have distinct : ((linkedEvidence store cursor provider).map EvidenceItem.id).Nodup :=
    ((List.perm_insertionSort _ _).map _).nodup_iff.2
      (keyed.evidenceItems.sublist (List.filter_sublist.map _))
  have apart := List.pairwise_map.1 distinct
  exact (sorted.and apart).imp fun both => lt_of_le_of_ne both.1 both.2

theorem mem_linkedEvidence {cursor : Option Uuid} {evidence : EvidenceItem} :
    evidence ∈ linkedEvidence store cursor provider ↔
      evidence ∈ linkedEvidence store none provider ∧ ∀ id, cursor = some id → id < evidence.id := by
  unfold linkedEvidence
  rw [List.mem_insertionSort, List.mem_insertionSort, List.mem_filter, List.mem_filter]
  cases cursor with
  | none => simp
  | some id => simp [and_comm, and_left_comm]

/-- The items behind the last one of some. -/
theorem linkedEvidence_after (keyed : Keyed store) {cursor : Option Uuid}
    {read rest : List EvidenceItem} {last : EvidenceItem}
    (split : linkedEvidence store cursor provider = read ++ last :: rest) :
    linkedEvidence store (some last.id) provider = rest := by
  have sorted := @linkedEvidence_pairwise _ provider keyed cursor
  have sorted' := @linkedEvidence_pairwise _ provider keyed (some last.id)
  rw [split, List.pairwise_append, List.pairwise_cons] at sorted
  obtain ⟨-, ⟨later, ordered⟩, earlier⟩ := sorted
  have members : ∀ evidence, evidence ∈ linkedEvidence store (some last.id) provider ↔
      evidence ∈ rest := by
    intro evidence
    have inside : ∀ other, other ∈ linkedEvidence store cursor provider ↔
        other ∈ read ++ last :: rest := fun other => by rw [split]
    rw [mem_linkedEvidence]
    constructor
    · rintro ⟨linked, behind⟩
      have after := behind last.id rfl
      have held : last ∈ linkedEvidence store cursor provider := (inside last).2 (by simp)
      have reached : evidence ∈ linkedEvidence store cursor provider :=
        mem_linkedEvidence.2 ⟨linked, fun id same =>
          lt_trans ((mem_linkedEvidence.1 held).2 id same) after⟩
      rcases List.mem_append.1 ((inside evidence).1 reached) with before | here
      · exact absurd (earlier evidence before last List.mem_cons_self) (lt_asymm after)
      · rcases List.mem_cons.1 here with rfl | member
        · exact absurd after (lt_irrefl _)
        · exact member
    · intro member
      have held : evidence ∈ linkedEvidence store cursor provider := (inside evidence).2 (by
        simp [member])
      refine ⟨(mem_linkedEvidence.1 held).1, fun id same => ?_⟩
      obtain rfl := Option.some.inj same
      exact later evidence member
  have irreflexive : ∀ items : List EvidenceItem,
      items.Pairwise (fun left right => left.id < right.id) → items.Nodup := fun items ordered =>
    ordered.imp fun less => fun same => absurd (same ▸ less) (lt_irrefl _)
  refine List.Perm.eq_of_pairwise (fun left right _ _ less more => absurd less (lt_asymm more))
    sorted' ordered ((List.perm_ext_iff_of_nodup (irreflexive _ sorted') (irreflexive _ ordered)).2
      members)

end Items

/-! ### What has been read -/

/-- **The items that a scan has read**, with their packets, and those that are left. -/
structure Reads (made : EvidenceItem → RichEvidencePacket → Prop) (request : ListRequest) (scan : Scan)
    (items : List EvidenceItem) (last : Scan) (read : List (EvidenceItem × RichEvidencePacket))
    (rest : List EvidenceItem) : Prop where
  split : items = read.map Prod.fst ++ rest
  made : ∀ pair ∈ read, made pair.1 pair.2
  packets : last.packets = scan.packets ++ (read.filter fun pair => request.wants pair.2).map Prod.snd
  scanned : last.scanned = scan.scanned + read.length
  cursor : last.cursor = (read.getLast?.map fun pair => pair.1.id).or scan.cursor
  few : (last.packets.length : Int) ≤ request.limit

section Reading

variable {made : EvidenceItem → RichEvidencePacket → Prop} {request : ListRequest}
  {scan next last : Scan} {items middle rest : List EvidenceItem}
  {read read' : List (EvidenceItem × RichEvidencePacket)}

theorem Reads.nothing (few : (scan.packets.length : Int) ≤ request.limit) (more : Bool) :
    Reads made request scan items { scan with more := more } [] items :=
  ⟨rfl, List.forall_mem_nil _, (List.append_nil _).symm, rfl, rfl, few⟩

theorem Reads.trans (first : Reads made request scan items next read middle)
    (second : Reads made request next middle last read' rest) :
    Reads made request scan items last (read ++ read') rest := by
  refine ⟨?_, List.forall_mem_append.2 ⟨first.made, second.made⟩, ?_, ?_, ?_, second.few⟩
  · rw [first.split, second.split, List.map_append, List.append_assoc]
  · rw [second.packets, first.packets, List.filter_append, List.map_append, List.append_assoc]
  · rw [second.scanned, first.scanned, List.length_append, Nat.add_assoc]
  · rw [second.cursor, first.cursor, List.getLast?_append]
    cases read'.getLast? with
    | none => rfl
    | some pair => rfl

theorem Reads.mono {weaker : EvidenceItem → RichEvidencePacket → Prop}
    (reads : Reads made request scan items last read rest)
    (implies : ∀ evidence packet, made evidence packet → weaker evidence packet) :
    Reads weaker request scan items last read rest :=
  ⟨reads.split, fun pair member => implies _ _ (reads.made pair member), reads.packets, reads.scanned,
    reads.cursor, reads.few⟩

/-- **A chunk is read** as far as packets are asked for. -/
theorem readChunk_reads {packetOf : EvidenceItem → Result RichEvidencePacket}
    (builds : ∀ evidence ∈ items, ∃ packet, packetOf evidence = .ok packet)
    (room : (scan.packets.length : Int) < request.limit) :
    ∃ last read rest, readChunk packetOf request scan items = .ok last ∧
      Reads (fun evidence packet => packetOf evidence = .ok packet) request scan items last read rest ∧
      last.more = (scan.more || !rest.isEmpty) ∧
      (rest ≠ [] → (last.packets.length : Int) = request.limit) := by
  induction items generalizing scan with
  | nil => exact ⟨scan, [], [], rfl, .nothing room.le scan.more, (Bool.or_false _).symm, nofun⟩
  | cons evidence items ih =>
      obtain ⟨packet, built⟩ := builds evidence List.mem_cons_self
      have later := fun other member => builds other (List.mem_cons_of_mem _ member)
      have one : ∀ next : Scan, next.packets = (if request.wants packet then
            scan.packets ++ [packet] else scan.packets) → next.scanned = scan.scanned + 1 →
          next.cursor = some evidence.id → (next.packets.length : Int) ≤ request.limit →
          Reads (fun evidence packet => packetOf evidence = .ok packet) request scan
            (evidence :: items) next [(evidence, packet)] items := by
        intro next packets scanned cursor few
        refine ⟨rfl, ?_, ?_, scanned, cursor, few⟩
        · intro pair member
          obtain rfl := List.mem_singleton.1 member
          exact built
        · rw [packets, List.filter_cons]
          split
          · rfl
          · exact (List.append_nil _).symm
      unfold readChunk
      simp only [built, Bind.bind, Except.bind]
      split
      · next wanted =>
        split
        · next full =>
          refine ⟨_, _, _, rfl, one _ (if_pos wanted).symm rfl rfl full.le, rfl, fun _ => full⟩
        · next open' =>
          have room' : ((scan.packets ++ [packet]).length : Int) < request.limit := by
            rw [List.length_append, List.length_singleton] at open' ⊢
            omega
          have first := one { scan with
            packets := scan.packets ++ [packet], scanned := scan.scanned + 1
            cursor := some evidence.id } (if_pos wanted).symm rfl rfl room'.le
          obtain ⟨last, read, rest, ran, reads, more, full⟩ := @ih { scan with
            packets := scan.packets ++ [packet], scanned := scan.scanned + 1
            cursor := some evidence.id } later room'
          exact ⟨last, _, rest, ran, first.trans reads, more, full⟩
      · next unwanted =>
        have first := one { scan with scanned := scan.scanned + 1, cursor := some evidence.id }
          (if_neg unwanted).symm rfl rfl room.le
        obtain ⟨last, read, rest, ran, reads, more, full⟩ := @ih { scan with
          scanned := scan.scanned + 1, cursor := some evidence.id } later room
        exact ⟨last, _, rest, ran, first.trans reads, more, full⟩

end Reading

/-! ### A call -/

section Calls

variable {store : Store} {request : ListRequest}
  {packetOf : Nat → List EvidenceItem → EvidenceItem → Result RichEvidencePacket}

/-- Every linked item of a chunk builds. -/
def Builds (store : Store)
    (packetOf : Nat → List EvidenceItem → EvidenceItem → Result RichEvidencePacket) : Prop :=
  ∀ number page, (∀ evidence ∈ page, evidence ∈ linkedEvidence store none none) →
    ∀ evidence ∈ page, ∃ packet, packetOf number page evidence = .ok packet

/-- A packet that has been built in some chunk. -/
def Made (packetOf : Nat → List EvidenceItem → EvidenceItem → Result RichEvidencePacket)
    (evidence : EvidenceItem) (packet : RichEvidencePacket) : Prop :=
  ∃ number page, evidence ∈ page ∧ packetOf number page evidence = .ok packet

theorem linked_of_provider {cursor : Option Uuid} {provider : Option String} {evidence : EvidenceItem}
    (member : evidence ∈ linkedEvidence store cursor provider) :
    evidence ∈ linkedEvidence store none none := by
  unfold linkedEvidence at member ⊢
  rw [List.mem_insertionSort, List.mem_filter] at member ⊢
  simp only [Bool.and_eq_true] at member ⊢
  exact ⟨member.1, ⟨member.2.1.1, rfl⟩, rfl⟩

/-- The statements that so many items need, chunk by chunk. -/
def chunkBudget (items : Nat) : Nat := (items + 99) / 100 * 7

/-- What a call does with its next chunk. -/
theorem readChunk_next (keyed : Keyed store) (builds : Builds store packetOf) {number : Nat}
    {scan : Scan} (room : (scan.packets.length : Int) < request.limit)
    (left : (scan.scanned : Int) < request.effectiveScanLimit)
    (some_left : (nextChunk store request scan).1.isEmpty = false) :
    ∃ next read, readChunk (packetOf number (nextChunk store request scan).1) request
        { scan with more := (nextChunk store request scan).2 } (nextChunk store request scan).1 =
          .ok next ∧
      Reads (Made packetOf) request scan (linkedEvidence store scan.cursor request.provider) next read
        (linkedEvidence store next.cursor request.provider) ∧
      next.more = !(linkedEvidence store next.cursor request.provider).isEmpty ∧
      scan.scanned < next.scanned ∧ (next.scanned : Int) ≤ request.effectiveScanLimit ∧
      (next.more = true → (next.packets.length : Int) = request.limit ∨
        next.scanned = scan.scanned +
          min prefetchChunkSize (request.effectiveScanLimit.toNat - scan.scanned)) := by
  obtain ⟨next, read, rest, ran, reads, more, full⟩ := @readChunk_reads request
    { scan with more := (nextChunk store request scan).2 } (nextChunk store request scan).1
    (packetOf number (nextChunk store request scan).1)
    (builds number _ fun evidence member => linked_of_provider
      (List.mem_of_mem_take (List.mem_of_mem_take member))) room
  have page : (nextChunk store request scan).1 =
      (linkedEvidence store scan.cursor request.provider).take
        (min prefetchChunkSize (request.effectiveScanLimit.toNat - scan.scanned)) := by
    show ((linkedEvidence store scan.cursor request.provider).take _).take _ = _
    rw [List.take_take, Nat.min_eq_left (Nat.le_succ _)]
  have behind : (nextChunk store request scan).2 =
      decide (min prefetchChunkSize (request.effectiveScanLimit.toNat - scan.scanned) <
        (linkedEvidence store scan.cursor request.provider).length) := by
    show decide (_ < ((linkedEvidence store scan.cursor request.provider).take _).length) = _
    rw [List.length_take, decide_eq_decide]
    omega
  rw [behind] at more
  have small := Nat.min_le_right prefetchChunkSize
    (request.effectiveScanLimit.toNat - scan.scanned)
  generalize min prefetchChunkSize (request.effectiveScanLimit.toNat - scan.scanned) = take
    at page behind more small ⊢
  generalize items_eq : linkedEvidence store scan.cursor request.provider = items at page more ⊢
  have whole : items = read.map Prod.fst ++ (rest ++ items.drop take) := by
    rw [← List.append_assoc, ← reads.split, page, List.take_append_drop]
  have one : read ≠ [] := by
    rintro rfl
    have unread : rest = (nextChunk store request scan).1 := reads.split.symm
    have length := full (by rw [unread]; simpa using some_left)
    rw [reads.packets, List.filter_nil, List.map_nil, List.append_nil] at length
    exact absurd room (by simp only at length; omega)
  have cursor : linkedEvidence store next.cursor request.provider = rest ++ items.drop take := by
    obtain ⟨front, pair, rfl⟩ := (List.eq_nil_or_concat' read).resolve_left one
    rw [reads.cursor, List.getLast?_concat]
    refine @linkedEvidence_after store request.provider keyed scan.cursor (front.map Prod.fst) _ _ ?_
    exact items_eq.trans (whole.trans (by simp))
  have counted : read.length ≤ take := by
    have length := congrArg List.length reads.split
    rw [page, List.length_take, List.length_append, List.length_map] at length
    omega
  have advanced : next.scanned = scan.scanned + read.length := reads.scanned
  have least : take ≤ request.effectiveScanLimit.toNat - scan.scanned := small
  refine ⟨next, read, ran, ?_, ?_, ?_, ?_, fun going => ?_⟩
  · rw [cursor]
    refine ⟨whole, fun pair member => ⟨number, (nextChunk store request scan).1, ?_,
      reads.made pair member⟩, reads.packets, reads.scanned, reads.cursor, reads.few⟩
    rw [reads.split]
    exact List.mem_append_left _ (List.mem_map_of_mem member)
  · rw [cursor, more]
    cases rest with
    | nil =>
        have behind : (items.drop take).isEmpty = decide (items.length ≤ take) := by
          rw [Bool.eq_iff_iff, List.isEmpty_iff, List.drop_eq_nil_iff, decide_eq_true_iff]
        rw [List.nil_append, behind, ← decide_not, decide_eq_decide.2 (Nat.not_le (a := items.length))]
        exact Bool.or_false _
    | cons evidence rest => simp
  · have positive := List.length_pos_iff.2 one
    omega
  · omega
  · by_cases empty : rest = []
    · subst empty
      have further : take < items.length := by simpa [more] using going
      have length := congrArg List.length reads.split
      rw [page, List.length_take, List.append_nil, List.length_map] at length
      exact .inr (by omega)
    · exact .inl (full empty)

/-- A call that has used up one of its budgets. -/
theorem scan_stops {scan : Scan} (within : (scan.scanned : Int) ≤ request.effectiveScanLimit)
    (few : (scan.packets.length : Int) ≤ request.limit)
    (more : scan.more = !(linkedEvidence store scan.cursor request.provider).isEmpty ∨
      (scan.packets.length : Int) < request.limit ∧
        (scan.scanned : Int) < request.effectiveScanLimit)
    (concluded : request.limit ≤ scan.packets.length ∨ request.effectiveScanLimit ≤ scan.scanned) :
    Reads (Made packetOf) request scan (linkedEvidence store scan.cursor request.provider) scan []
        (linkedEvidence store scan.cursor request.provider) ∧
      scan.more = !(linkedEvidence store scan.cursor request.provider).isEmpty ∧
      ((scan.packets.length : Int) = request.limit ∨
        (scan.scanned : Int) = request.effectiveScanLimit) := by
  refine ⟨.nothing few scan.more, more.resolve_right fun both => ?_, ?_⟩
  · omega
  · omega

/-- **A call is read** as far as its budgets allow. -/
theorem readChunks_reads (keyed : Keyed store) (builds : Builds store packetOf) {fuel number : Nat}
    {scan : Scan} (enough : request.effectiveScanLimit ≤ fuel + scan.scanned)
    (within : (scan.scanned : Int) ≤ request.effectiveScanLimit)
    (few : (scan.packets.length : Int) ≤ request.limit)
    (more : scan.more = !(linkedEvidence store scan.cursor request.provider).isEmpty ∨
      (scan.packets.length : Int) < request.limit ∧
        (scan.scanned : Int) < request.effectiveScanLimit) :
    ∃ last read, readChunks packetOf store request fuel number scan = .ok last ∧
      Reads (Made packetOf) request scan (linkedEvidence store scan.cursor request.provider) last read
        (linkedEvidence store last.cursor request.provider) ∧
      last.more = !(linkedEvidence store last.cursor request.provider).isEmpty ∧
      (last.scanned : Int) ≤ request.effectiveScanLimit ∧
      (last.more = true → (last.packets.length : Int) = request.limit ∨
        (last.scanned : Int) = request.effectiveScanLimit) ∧
      chunkStatements packetOf store request fuel number scan ≤
        chunkBudget (request.effectiveScanLimit.toNat - scan.scanned) := by
  induction fuel generalizing number scan with
  | zero =>
      obtain ⟨reads, told, why⟩ := scan_stops within few more (.inr (by omega))
      exact ⟨scan, [], rfl, reads, told, within, fun _ => why, Nat.zero_le _⟩
  | succ fuel ih =>
      unfold readChunks chunkStatements
      split
      · next concluded =>
        obtain ⟨reads, told, why⟩ := scan_stops within few more concluded
        exact ⟨scan, [], rfl, reads, told, within, fun _ => why, Nat.zero_le _⟩
      · next going =>
        have room : (scan.packets.length : Int) < request.limit := by omega
        have left : (scan.scanned : Int) < request.effectiveScanLimit := by omega
        have atLeast : 7 ≤ chunkBudget (request.effectiveScanLimit.toNat - scan.scanned) := by
          unfold chunkBudget
          omega
        dsimp only
        cases empty : (nextChunk store request scan).1.isEmpty with
        | true =>
            have nothing : linkedEvidence store scan.cursor request.provider = [] := by
              have none : ((linkedEvidence store scan.cursor request.provider).take _).take _ = [] :=
                List.isEmpty_iff.1 empty
              rw [List.take_take, List.take_eq_nil_iff] at none
              refine none.resolve_left ?_
              unfold prefetchChunkSize
              omega
            refine ⟨{ scan with more := false }, [], rfl, .nothing few false, ?_, within,
              (by simp), ?_⟩
            · exact (congrArg (fun items => !List.isEmpty items) nothing).symm
            · show 1 ≤ chunkBudget _
              omega
        | false =>
            obtain ⟨next, read, ran, reads, told, advanced, within', why⟩ :=
              @readChunk_next store request packetOf keyed builds number scan room left empty
            rw [ran]
            simp only [Bool.false_eq_true, if_false, Bind.bind, Except.bind]
            split
            · next concluded =>
              refine ⟨next, read, rfl, reads, told, within', fun going => ?_, atLeast⟩
              rcases concluded with full | concluded
              · exact .inl full
              · exact absurd (concluded.symm.trans going) Bool.false_ne_true
            · next going =>
              rw [not_or] at going
              have further : next.more = true := by simpa using going.2
              obtain ⟨last, read', ran', reads', told', within'', why', statements⟩ :=
                @ih (number + 1) next (by omega) within' reads.few (.inl told)
              refine ⟨last, read ++ read', ran', reads.trans reads', told', within'', why', ?_⟩
              have counted := (why further).resolve_left going.1
              unfold chunkBudget pageStatements loadStatements prefetchChunkSize at *
              omega

/-- **What a page says of its call**: how many packets and items it has, whether there are items
behind those that have been scanned, and where the next call goes on. -/
structure Honest (store : Store) (request : ListRequest) (statements : Nat) (page : PacketPage) :
    Prop where
  returned : page.returnedCount = page.packets.length ∧ (page.packets.length : Int) ≤ request.limit
  scanned : (page.scannedCount : Int) ≤ request.effectiveScanLimit
  further : page.hasMore = true ↔ (linkedEvidence store request.afterEvidenceId
    request.provider).drop page.scannedCount ≠ []
  named : page.nextEvidenceId = if page.hasMore then ((linkedEvidence store request.afterEvidenceId
    request.provider).take page.scannedCount).getLast?.map EvidenceItem.id else none
  exhausted : page.scanExhausted = true ↔
    page.hasMore = true ∧ (page.scannedCount : Int) = request.effectiveScanLimit
  stopped : page.hasMore = true → (page.packets.length : Int) = request.limit ∨
    (page.scannedCount : Int) = request.effectiveScanLimit
  queried : ∃ budget, packetQueryBudget request.effectiveScanLimit = .ok budget ∧
    (statements : Int) ≤ budget

/-- A page, and the items that its call has read. -/
structure Paged (made : EvidenceItem → RichEvidencePacket → Prop) (store : Store)
    (request : ListRequest) (page : PacketPage) (read : List (EvidenceItem × RichEvidencePacket))
    (rest : List EvidenceItem) : Prop where
  split : linkedEvidence store request.afterEvidenceId request.provider = read.map Prod.fst ++ rest
  made : ∀ pair ∈ read, made pair.1 pair.2
  packets : page.packets = (read.filter fun pair => request.wants pair.2).map Prod.snd
  behind : ∀ id, page.nextEvidenceId = some id →
    read ≠ [] ∧ rest = linkedEvidence store (some id) request.provider
  ended : page.nextEvidenceId = none → rest = []

theorem check_bounds {limits : Limits} (valid : request.check limits = .ok ()) :
    1 ≤ request.limit ∧ request.limit ≤ request.effectiveScanLimit ∧
      request.effectiveScanLimit ≤ 500 := by
  obtain ⟨limit, rest⟩ := check_eq_ok.1 valid
  obtain ⟨-, rest⟩ := check_eq_ok.1 rest
  obtain ⟨-, rest⟩ := check_eq_ok.1 rest
  have bounds := require_eq_ok.1 rest
  rw [require_eq_ok] at limit
  simp only [decide_eq_true_eq] at limit bounds
  exact ⟨limit.1, bounds⟩

/-- **A call succeeds**, and says what it has read. -/
theorem listing_reads (keyed : Keyed store) (builds : Builds store packetOf) {limits : Limits}
    (valid : request.check limits = .ok ()) :
    ∃ page read rest, listing packetOf limits store request = .ok page ∧
      Paged (Made packetOf) store request page read rest ∧
      Honest store request (1 + chunkStatements packetOf store request
        request.effectiveScanLimit.toNat 0 ⟨[], 0, request.afterEvidenceId, false⟩) page := by
  obtain ⟨positive, fits, most⟩ := check_bounds valid
  obtain ⟨last, read, ran, reads, told, within, why, statements⟩ :=
    @readChunks_reads store request packetOf keyed builds request.effectiveScanLimit.toNat 0
      ⟨[], 0, request.afterEvidenceId, false⟩ (by simp only; omega) (by simp only; omega)
      (by simp only [List.length_nil]; omega) (.inr ⟨by simp only [List.length_nil]; omega,
        by simp only; omega⟩)
  generalize behind : linkedEvidence store last.cursor request.provider = rest at reads told
  have scanned : last.scanned = read.length := reads.scanned.trans (Nat.zero_add _)
  have packets : last.packets = (read.filter fun pair => request.wants pair.2).map Prod.snd :=
    reads.packets
  have more : (last.more || (decide (request.effectiveScanLimit ≤ last.scanned) && last.more)) =
      last.more := by
    cases last.more with
    | true => rfl
    | false => exact Bool.and_false _
  have front : (linkedEvidence store request.afterEvidenceId request.provider).take last.scanned =
      read.map Prod.fst := by
    rw [reads.split, scanned]
    exact List.take_left' (List.length_map _)
  have back : (linkedEvidence store request.afterEvidenceId request.provider).drop last.scanned =
      rest := by
    rw [reads.split, scanned]
    exact List.drop_left' (List.length_map _)
  have one : last.more = true → read ≠ [] := by
    rintro going rfl
    rw [List.filter_nil, List.map_nil] at packets
    rw [List.length_nil] at scanned
    rcases why going with full | concluded
    · rw [packets, List.length_nil] at full
      omega
    · rw [scanned] at concluded
      omega
  have left : last.more = true ↔ rest ≠ [] := by
    rw [told]
    simp
  refine ⟨⟨last.packets, if last.more then last.cursor else none, last.scanned, last.packets.length,
    decide (request.effectiveScanLimit ≤ last.scanned) && last.more, last.more⟩, read, rest, ?_,
    ⟨reads.split, reads.made, packets, fun id named => ?_, fun ended => ?_⟩,
    ⟨⟨rfl, reads.few⟩, within, ?_, ?_, ?_, why, ?_⟩⟩
  · unfold listing
    rw [valid]
    show (readChunks packetOf store request request.effectiveScanLimit.toNat 0
      ⟨[], 0, request.afterEvidenceId, false⟩ >>= _) = _
    rw [ran]
    simp only [Bind.bind, Except.bind, more]
    rfl
  · cases going : last.more with
    | false =>
        rw [going] at named
        exact absurd named nofun
    | true =>
        rw [going, if_pos rfl] at named
        exact ⟨one going, by rw [← named, behind]⟩
  · by_contra others
    have going := left.2 others
    rw [going, if_pos rfl, reads.cursor, List.getLast?_eq_some_getLast (one going)] at ended
    exact absurd ended nofun
  · rw [back]
    exact left
  · show (if last.more then last.cursor else none) = _
    cases going : last.more with
    | false => rfl
    | true =>
        rw [if_pos rfl, if_pos rfl, front, reads.cursor, List.getLast?_map,
          List.getLast?_eq_some_getLast (one going)]
        rfl
  · show (decide (request.effectiveScanLimit ≤ last.scanned) && last.more) = true ↔ _
    rw [Bool.and_eq_true, decide_eq_true_iff]
    constructor
    · exact fun both => ⟨both.2, le_antisymm within both.1⟩
    · exact fun both => ⟨both.2.ge, both.1⟩
  · refine ⟨1 + -(-request.effectiveScanLimit / prefetchChunkSize) * queriesPerPrefetchChunk, ?_, ?_⟩
    · exact check_eq_ok.2 ⟨require_eq_ok.2 (decide_eq_true ⟨by omega, most⟩), rfl⟩
    · unfold chunkBudget at statements
      unfold prefetchChunkSize queriesPerPrefetchChunk
      simp only at statements
      omega

end Calls

/-! ### All calls -/

/-- **The pages of the calls from one on**, each behind the cursor of the page before it, as long as
there is one. -/
inductive Followed (list : Nat → Option Uuid → Result PacketPage) :
    Nat → Option Uuid → List PacketPage → Prop where
  | last {number cursor page} (listed : list number cursor = .ok page)
      (ended : page.nextEvidenceId = none) : Followed list number cursor [page]
  | next {number cursor page id pages} (listed : list number cursor = .ok page)
      (named : page.nextEvidenceId = some id) (rest : Followed list (number + 1) (some id) pages) :
      Followed list number cursor (page :: pages)

/-- What a call chooses: its budgets. Its loads return their rows in orders of their own. -/
structure ListCall where
  limit : Int
  scanLimit : Option Int
  arrivals : Nat → Arrival

/-- The parameters of a call behind a cursor. -/
def ListCall.request (call : ListCall) (provider quality : Option String) (cursor : Option Uuid) :
    ListRequest where
  afterEvidenceId := cursor
  limit := call.limit
  provider := provider
  quality := quality
  scanLimit := call.scanLimit

section Follow

variable {store : Store} {provider quality : Option String} {calls : Nat → ListCall}

theorem followed_reads {list : Nat → Option Uuid → Result PacketPage}
    {made : EvidenceItem → RichEvidencePacket → Prop}
    (reads : ∀ number cursor, ∃ page read rest, list number cursor = .ok page ∧
      Paged made store ((calls number).request provider quality cursor) page read rest)
    (number : Nat) (cursor : Option Uuid) :
    ∃ (pages : List PacketPage) (built : List (EvidenceItem × RichEvidencePacket)),
      Followed list number cursor pages ∧
      built.map Prod.fst = linkedEvidence store cursor provider ∧
      (∀ pair ∈ built, made pair.1 pair.2) ∧
      pages.flatMap PacketPage.packets = (built.filter fun pair =>
        quality.all fun quality => qualityText pair.2.quality == quality).map Prod.snd := by
  induction left : (linkedEvidence store cursor provider).length using Nat.strong_induction_on
    generalizing number cursor with
  | h left ih =>
      subst left
      obtain ⟨page, read, rest, listed, paged⟩ := reads number cursor
      have split : linkedEvidence store cursor provider = read.map Prod.fst ++ rest := paged.split
      have packets : page.packets = (read.filter fun pair =>
          quality.all fun quality => qualityText pair.2.quality == quality).map Prod.snd :=
        paged.packets
      cases named : page.nextEvidenceId with
      | none =>
          rw [paged.ended named, List.append_nil] at split
          refine ⟨[page], read, .last listed named, split.symm, paged.made, ?_⟩
          rw [List.flatMap_singleton, packets]
      | some id =>
          obtain ⟨one, behind⟩ := paged.behind id named
          replace behind : rest = linkedEvidence store (some id) provider := behind
          have fewer : (linkedEvidence store (some id) provider).length <
              (linkedEvidence store cursor provider).length := by
            rw [split, ← behind, List.length_append, List.length_map]
            have positive := List.length_pos_iff.2 one
            omega
          obtain ⟨pages, built, followed, whole, made, returned⟩ := ih _ fewer (number + 1) (some id) rfl
          refine ⟨page :: pages, read ++ built, .next listed named followed, ?_,
            List.forall_mem_append.2 ⟨paged.made, made⟩, ?_⟩
          · rw [List.map_append, whole, ← behind, split]
          · rw [List.flatMap_cons, returned, packets, List.filter_append, List.map_append]

/-- **A listing is a complete scan.** Whatever the budgets of the calls, the pages that are got by
following the cursors from the first call on are finitely many. They have the packets of all linked
items of the provider that are of the quality, each of them once and in the order of the identifiers,
and every page tells how far its call has come. -/
theorem listing_complete (library : StandardLibrary) (limits : Limits) {store : Store}
    (keyed : Keyed store) (provider quality : Option String) (calls : Nat → ListCall)
    (builds : ∀ arrival page, (∀ evidence ∈ page, evidence ∈ linkedEvidence store none none) →
      ∀ evidence ∈ page, ∃ packet,
        build library limits (loadInputs arrival store page) evidence = .ok packet)
    (valid : ∀ number, ((calls number).request provider quality none).check limits = .ok ()) :
    (∃ (pages : List PacketPage) (built : List (EvidenceItem × RichEvidencePacket)),
        Followed (fun number cursor => listPackets library limits (calls number).arrivals store
          ((calls number).request provider quality cursor)) 0 none pages ∧
        built.map Prod.fst = linkedEvidence store none provider ∧
        (∀ pair ∈ built, ∃ arrival page, pair.1 ∈ page ∧
          build library limits (loadInputs arrival store page) pair.1 = .ok pair.2) ∧
        pages.flatMap PacketPage.packets = (built.filter fun pair =>
          quality.all fun quality => qualityText pair.2.quality == quality).map Prod.snd ∧
        ((pages.flatMap PacketPage.packets).map RichEvidencePacket.evidenceId).Pairwise (· < ·)) ∧
      ∀ number cursor, ∃ page, listPackets library limits (calls number).arrivals store
          ((calls number).request provider quality cursor) = .ok page ∧
        Honest store ((calls number).request provider quality cursor)
          (listStatements library limits (calls number).arrivals store
            ((calls number).request provider quality cursor)) page := by
  have reads : ∀ number cursor, ∃ page read rest, listPackets library limits (calls number).arrivals
        store ((calls number).request provider quality cursor) = .ok page ∧
      Paged (fun evidence packet => ∃ arrival page, evidence ∈ page ∧
          build library limits (loadInputs arrival store page) evidence = .ok packet) store
        ((calls number).request provider quality cursor) page read rest ∧
      Honest store ((calls number).request provider quality cursor)
        (listStatements library limits (calls number).arrivals store
          ((calls number).request provider quality cursor)) page := by
    intro number cursor
    obtain ⟨page, read, rest, listed, paged, honest⟩ := @listing_reads store
      ((calls number).request provider quality cursor)
      (fun chunk page evidence => build library limits
        (loadInputs ((calls number).arrivals chunk) store page) evidence) keyed
      (fun chunk page inside => builds ((calls number).arrivals chunk) page inside) limits
      (valid number)
    refine ⟨page, read, rest, listed, ⟨paged.split, fun pair member => ?_, paged.packets, paged.behind,
      paged.ended⟩, honest⟩
    obtain ⟨chunk, items, inside, built⟩ := paged.made pair member
    exact ⟨_, items, inside, built⟩
  obtain ⟨pages, built, followed, whole, made, returned⟩ := followed_reads (fun number cursor => by
    obtain ⟨page, read, rest, listed, paged, -⟩ := reads number cursor
    exact ⟨page, read, rest, listed, paged⟩) 0 none
  refine ⟨⟨pages, built, followed, whole, made, returned, ?_⟩, fun number cursor => ?_⟩
  · have named : ∀ pair ∈ built, pair.2.evidenceId = pair.1.id := by
      intro pair member
      obtain ⟨arrival, page, -, made⟩ := made pair member
      exact build_evidenceId made
    have ids : (built.map fun pair => pair.2.evidenceId) =
        (linkedEvidence store none provider).map EvidenceItem.id := by
      rw [← whole, List.map_map]
      exact List.map_congr_left named
    have sorted : (built.map fun pair => pair.2.evidenceId).Pairwise (· < ·) := by
      rw [ids]
      exact List.pairwise_map.2 (linkedEvidence_pairwise keyed none)
    rw [returned, List.map_map]
    exact sorted.sublist (List.filter_sublist.map _)
  · obtain ⟨page, -, -, listed, -, honest⟩ := reads number cursor
    exact ⟨page, listed, honest⟩

end Follow

/-! ### Two items of news -/

/-- An item whose rows have been checked has no row that fails. -/
theorem failAlike_of_prepared {library : StandardLibrary} {store : Store} {evidence : EvidenceItem}
    {draft : Draft} {revisions : List EvidenceRevision}
    (valid : prepared library (tables store) evidence = .ok (draft, revisions)) :
    FailAlike library store evidence := by
  obtain ⟨raw, revised, held, checked, -⟩ := (prepared_of_eq_ok valid).checked
  intro other found left leftMem right rightMem raised second leftFails rightFails
  obtain rfl := Except.ok.inj (held.symm.trans found)
  obtain ⟨one, -, made⟩ := mapM_ok_mem checked leftMem
  rw [made] at leftFails
  exact absurd leftFails nofun

/-- What the packet of the second item is made of. -/
def guidanceDraft : Draft :=
  ⟨guidanceEvidence, guidanceRaw, ⟨reportedRevision 82 72 62 "Guidance" 0, reportedRun, none⟩,
    ⟨none, none, false, "unavailable", false⟩, ["canonical_url"], ["summary"], 1⟩

theorem prepared_guidance : prepared reportDigests (tables reportedNews) guidanceEvidence =
    .ok (guidanceDraft, [reportedRevision 82 72 62 "Guidance" 0]) := by
  have row : checkRow reportDigests guidanceEvidence guidanceRaw
      ⟨guidanceLink, reportedProjection 72 62 "Guidance", guidanceObservation, reportedRun, none⟩ =
      .ok ⟨reportedRevision 82 72 62 "Guidance" 0, reportedRun, none⟩ :=
    check_eq_ok.2 ⟨rfl, bind_eq_ok.2 ⟨_, checkFacts_report (by decide) 72 62, rfl⟩⟩
  have absent : availability (reportedRevision 82 72 62 "Guidance" 0).facts =
      (["canonical_url"], ["summary"]) := availability_report (by decide)
  have checked : ((tables reportedNews).rows guidanceEvidence.id).mapM
      (checkRow reportDigests guidanceEvidence guidanceRaw) =
      .ok [⟨reportedRevision 82 72 62 "Guidance" 0, reportedRun, none⟩] :=
    mapM_cons_ok.2 ⟨_, _, row, rfl, rfl⟩
  refine check_eq_ok.2 ⟨rfl, bind_eq_ok.2 ⟨guidanceRaw, rfl, bind_eq_ok.2 ⟨_, checked,
    check_eq_ok.2 ⟨rfl, bind_eq_ok.2
      ⟨⟨reportedRevision 82 72 62 "Guidance" 0, reportedRun, none⟩, rfl, bind_eq_ok.2 ⟨_, rfl,
      check_eq_ok.2 ⟨rfl, bind_eq_ok.2 ⟨_, rfl, check_eq_ok.2 ⟨rfl,
        bind_eq_ok.2 ⟨⟨none, none, false, "unavailable", false⟩, rfl, ?_⟩⟩⟩⟩⟩⟩⟩⟩⟩⟩
  rw [absent]
  rfl

theorem reportedNews_builds (arrival : Arrival) (page : List EvidenceItem)
    (linked : ∀ evidence ∈ page, evidence ∈ linkedEvidence reportedNews none none) :
    ∀ evidence ∈ page, ∃ packet, build reportDigests reportedLimits
      (loadInputs arrival reportedNews page) evidence = .ok packet := by
  intro evidence member
  have keyed : Keyed reportedNews := by constructor <;> decide
  have inside : evidence ∈ reportedNews.evidenceItems :=
    mem_of_linkedEvidence (linked evidence member)
  have loaded := loadInputs_faithful keyed arrival member
  rcases List.mem_cons.1 (inside : evidence ∈ [reportedEvidence, guidanceEvidence]) with
    rfl | inside
  · rw [build_eq keyed loaded (failAlike_of_prepared prepared_report)]
    exact reportedNews_built
  · obtain rfl := List.mem_singleton.1 inside
    rw [build_eq keyed loaded (failAlike_of_prepared prepared_guidance)]
    exact report_built prepared_guidance rfl (by decide) (by decide)

/-- A listing of one item a call, and of both qualities. -/
def oneByOne (_ : Nat) : ListCall := ⟨1, some 1, fun _ => .bringing fun _ => true⟩

/-- The pages of the news, from the first call on. -/
abbrev newsPages (number : Nat) (cursor : Option Uuid) : Result PacketPage :=
  listPackets reportDigests reportedLimits (oneByOne number).arrivals reportedNews
    ((oneByOne number).request (some "finnhub") none cursor)

/-- The first page has one packet and a cursor, which is followed; the pages have both items. -/
theorem listing_complete_news : ∃ page id pages, newsPages 0 none = .ok page ∧
    page.nextEvidenceId = some id ∧ Followed newsPages 1 (some id) pages ∧
    ((page :: pages).flatMap PacketPage.packets).map RichEvidencePacket.evidenceId = [50, 51] := by
  have keyed : Keyed reportedNews := by constructor <;> decide
  have valid : ((oneByOne 0).request (some "finnhub") none none).check reportedLimits = .ok () := by
    decide
  obtain ⟨⟨pages, built, followed, whole, made, returned, -⟩, honest⟩ := listing_complete
    reportDigests reportedLimits keyed (some "finnhub") none oneByOne reportedNews_builds
    (fun _ => valid)
  have items : (linkedEvidence reportedNews none (some "finnhub")).map EvidenceItem.id = [50, 51] := by
    rfl
  have named : ∀ pair ∈ built, pair.2.evidenceId = pair.1.id := by
    intro pair member
    obtain ⟨arrival, page, -, packet⟩ := made pair member
    exact build_evidenceId packet
  have ids : (pages.flatMap PacketPage.packets).map RichEvidencePacket.evidenceId = [50, 51] := by
    rw [returned, ← items, ← whole, List.map_map, List.map_map]
    simp only [Option.all_none, List.filter_true]
    exact List.map_congr_left named
  cases followed with
  | last listed ended =>
      -- one page has one packet
      obtain ⟨page, listed', said⟩ := honest 0 none
      obtain rfl := Except.ok.inj (listed'.symm.trans listed)
      have most : (page.packets.length : Int) ≤ 1 := said.returned.2
      have both : page.packets.length = 2 := by simpa using congrArg List.length ids
      omega
  | next listed next rest => exact ⟨_, _, _, listed, next, rest, ids⟩

end NewsCollect.RichEvidence
