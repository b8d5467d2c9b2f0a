/-
**What the handoff keeps.**

Workers claim links, link them, lose them to others and try them again, in any order and among
writers of all other tables. Every projection has one link; a link that is linked or blocked stays as
it is; no link is tried more often than it may be; an evidence item and a content item with links have
one canonical link each.

* `Sound`: what is known of the tables of the evidence.
* `Sound.rewritten`, `Sound.linked`: the links are written without linking any, and one is linked.
* `Sound.stepped`: every move keeps it.
* `handed_off_safely`: every run.
-/

import NewsCollect.Collection.Control
import NewsCollect.Evidence.Handoff
import NewsCollect.Proof.FixedPoint

namespace NewsCollect.Evidence

open Collection Interleaving SafeProjection

/-! ### What is known -/

/-- A link that is over. -/
def IsOver (link : EvidenceProjectionLink) : Prop := link.status = .linked ∨ link.status = .blocked

/-- The attempts of a link. -/
structure Bounded (maxAttempts : Nat) (link : EvidenceProjectionLink) : Prop where
  attempts : link.attemptCount ≤ maxAttempts
  waiting : link.status = .pending ∨ link.status = .retry → link.attemptCount < maxAttempts

/-- The canonical link of an evidence item. -/
def isCanonicalEvidence (id : Uuid) (link : EvidenceProjectionLink) : Bool :=
  link.evidenceItemId = some id ∧ link.status = .linked ∧ link.canonicalEvidence = true

/-- The canonical link of a content item. -/
def isCanonicalContent (id : Uuid) (link : EvidenceProjectionLink) : Bool :=
  link.contentItemId = some id ∧ link.status = .linked ∧ link.canonicalContent = true

/-- **What is known of the tables of the evidence.** -/
structure Sound (maxAttempts : Nat) (store : Store) : Prop where
  keys : (store.links.map EvidenceProjectionLink.id).Nodup
  projections : (store.links.map EvidenceProjectionLink.safeFactProjectionId).Nodup
  attempts : ∀ link ∈ store.links, Bounded maxAttempts link
  evidenceItems : (store.evidenceItems.map fun item => (item.rawItemId, item.provider)).Nodup
  contentItems : (store.contentItems.map ContentItem.rawItemId).Nodup
  canonicalEvidence : ∀ id, isLinkedEvidence store.links id = true →
    store.links.countP (isCanonicalEvidence id) = 1
  canonicalContent : ∀ id, isLinkedContent store.links id = true →
    store.links.countP (isCanonicalContent id) = 1

/-- The links that are over are as they were. -/
def KeepsOver (before after : Store) : Prop :=
  ∀ id link, before.link id = some link → IsOver link → after.link id = some link

theorem KeepsOver.refl (store : Store) : KeepsOver store store := fun _ _ found _ => found

section Kept

variable {maxAttempts : Nat} {store : Store}

/-- The tables of others are none of this. -/
theorem Sound.elsewhere (sound : Sound maxAttempts store) (database : Database) :
    Sound maxAttempts { store with toDatabase := database } :=
  ⟨sound.keys, sound.projections, sound.attempts, sound.evidenceItems, sound.contentItems,
    sound.canonicalEvidence, sound.canonicalContent⟩

/-- **Links are written, and none becomes linked.** -/
theorem Sound.rewritten (sound : Sound maxAttempts store)
    {change : EvidenceProjectionLink → EvidenceProjectionLink}
    (keeps : ∀ link, (change link).id = link.id ∧
      (change link).safeFactProjectionId = link.safeFactProjectionId)
    (bounded : ∀ link ∈ store.links, Bounded maxAttempts (change link))
    (idle : ∀ link ∈ store.links, IsOver link → change link = link)
    (unlinked : ∀ link ∈ store.links, link.status ≠ .linked → (change link).status ≠ .linked) :
    Sound maxAttempts { store with links := store.links.map change } ∧
      KeepsOver store { store with links := store.links.map change } := by
  have same {counts : EvidenceProjectionLink → Bool}
      (needs : ∀ link, counts link = true → link.status = .linked) (link : EvidenceProjectionLink)
      (member : link ∈ store.links) : counts (change link) = counts link := by
    by_cases linked : link.status = .linked
    · rw [idle link member (.inl linked)]
    · rw [Bool.eq_iff_iff]
      exact ⟨fun counted => absurd (needs _ counted) (unlinked link member linked),
        fun counted => absurd (needs _ counted) linked⟩
  have any {counts : EvidenceProjectionLink → Bool}
      (needs : ∀ link, counts link = true → link.status = .linked) :
      (store.links.map change).any counts = store.links.any counts := by
    rw [List.any_map, Bool.eq_iff_iff, List.any_eq_true, List.any_eq_true]
    exact ⟨fun ⟨link, member, counted⟩ => ⟨link, member, same needs link member ▸ counted⟩,
      fun ⟨link, member, counted⟩ => ⟨link, member, (same needs link member).trans counted⟩⟩
  have count {counts : EvidenceProjectionLink → Bool}
      (needs : ∀ link, counts link = true → link.status = .linked) :
      (store.links.map change).countP counts = store.links.countP counts := by
    rw [List.countP_map]
    exact List.countP_congr fun link member => by
      rw [Function.comp_apply, same needs link member]
  refine ⟨⟨?_, ?_, ?_, sound.evidenceItems, sound.contentItems, ?_, ?_⟩, ?_⟩
  · rw [List.map_map, show EvidenceProjectionLink.id ∘ change = EvidenceProjectionLink.id from
      funext fun link => (keeps link).1]
    exact sound.keys
  · rw [List.map_map, show EvidenceProjectionLink.safeFactProjectionId ∘ change =
      EvidenceProjectionLink.safeFactProjectionId from funext fun link => (keeps link).2]
    exact sound.projections
  · intro link member
    obtain ⟨old, present, rfl⟩ := List.mem_map.1 member
    exact bounded old present
  · intro id linked
    rw [isLinkedEvidence, any fun link counted => (of_decide_eq_true counted).2] at linked
    rw [count fun link counted => (of_decide_eq_true counted).2.1]
    exact sound.canonicalEvidence id linked
  · intro id linked
    rw [isLinkedContent, any fun link counted => (of_decide_eq_true counted).2] at linked
    rw [count fun link counted => (of_decide_eq_true counted).2.1]
    exact sound.canonicalContent id linked
  · intro id link found concluded
    show Table.find EvidenceProjectionLink.id (store.links.map change) id = some link
    rw [Table.find_map (fun link => (keeps link).1)]
    exact (congrArg (Option.map change) found).trans
      (congrArg some (idle link (Table.mem_of_find _ found) concluded))

/-- A new link is not linked. -/
theorem Sound.inserted (sound : Sound maxAttempts store) (positive : 1 ≤ maxAttempts) {now : Int}
    {projectionId id : Uuid}
    {links : List EvidenceProjectionLink}
    (ok : insertLink store.links (pendingLink now projectionId id) = .ok links) :
    Sound maxAttempts { store with links := links } ∧
      KeepsOver store { store with links := links } := by
  unfold insertLink at ok
  split at ok
  · obtain rfl := Except.ok.inj ok
    exact ⟨sound, .refl store⟩
  · next fresh =>
    split at ok
    · cases ok
    · next new =>
      obtain rfl := Except.ok.inj ok
      have newProjection (link : EvidenceProjectionLink) (member : link ∈ store.links) :
          link.safeFactProjectionId ≠ projectionId :=
        fun same => fresh (List.any_eq_true.2 ⟨link, member, decide_eq_true same⟩)
      have newKey (link : EvidenceProjectionLink) (member : link ∈ store.links) : link.id ≠ id :=
        fun same => new (List.any_eq_true.2 ⟨link, member, decide_eq_true same⟩)
      have count (counts : EvidenceProjectionLink → Bool)
          (none : counts (pendingLink now projectionId id) = false) :
          (store.links ++ [pendingLink now projectionId id]).countP counts =
            store.links.countP counts := by
        simp [none]
      have any (counts : EvidenceProjectionLink → Bool)
          (none : counts (pendingLink now projectionId id) = false) :
          (store.links ++ [pendingLink now projectionId id]).any counts = store.links.any counts := by
        simp [none]
      refine ⟨⟨?_, ?_, ?_, sound.evidenceItems, sound.contentItems, ?_, ?_⟩, ?_⟩
      · exact Table.nodup_append EvidenceProjectionLink.id sound.keys
          ((Table.find_eq_none _).2 newKey)
      · exact Table.nodup_append EvidenceProjectionLink.safeFactProjectionId sound.projections
          ((Table.find_eq_none _).2 newProjection)
      · intro link member
        rcases List.mem_append.1 member with old | new
        · exact sound.attempts link old
        · obtain rfl := List.mem_singleton.1 new
          exact ⟨Nat.zero_le _, fun _ => positive⟩
      · intro id linked
        rw [isLinkedEvidence, any _ (by simp [pendingLink])] at linked
        rw [count _ (by simp [isCanonicalEvidence, pendingLink])]
        exact sound.canonicalEvidence id linked
      · intro id linked
        rw [isLinkedContent, any _ (by simp [pendingLink])] at linked
        rw [count _ (by simp [isCanonicalContent, pendingLink])]
        exact sound.canonicalContent id linked
      · intro id link found _
        exact Table.find_append_of_some found

/-- **The first link of an item is its canonical one**: after another link of an item has been written,
which is the canonical one if there was none before, the item has one canonical link. -/
theorem one_canonical {links : List EvidenceProjectionLink}
    (distinct : (links.map EvidenceProjectionLink.id).Nodup) {id : Uuid}
    {link : EvidenceProjectionLink} (found : Table.find EvidenceProjectionLink.id links id = some link)
    {change : EvidenceProjectionLink → EvidenceProjectionLink}
    {linked canonical : EvidenceProjectionLink → Bool}
    (before : links.any linked = true → links.countP canonical = 1)
    (within : ∀ link, canonical link = true → linked link = true) (new : linked link = false)
    (first : canonical (change link) = (linked (change link) && !links.any linked))
    (after : (Table.modify EvidenceProjectionLink.id links id change).any linked = true) :
    (Table.modify EvidenceProjectionLink.id links id change).countP canonical = 1 := by
  have fresh : canonical link = false := by
    rw [← Bool.not_eq_true] at new ⊢
    exact fun counted => new (within link counted)
  rw [Table.countP_modify distinct found fresh, first]
  by_cases prior : links.any linked = true
  · rw [before prior, prior]
    simp
  · have none : links.countP canonical = 0 := List.countP_eq_zero.2 fun other member counted =>
      prior (List.any_eq_true.2 ⟨other, member, within other counted⟩)
    obtain ⟨other, member, counted⟩ := List.any_eq_true.1 after
    obtain ⟨old, present, rfl⟩ := Table.mem_modify.1 member
    by_cases same : old.id = id
    · have again := Table.find_of_mem _ distinct present
      rw [same] at again
      obtain rfl := Option.some.inj (again.symm.trans found)
      rw [if_pos same] at counted
      rw [none, counted, Bool.eq_false_iff.2 prior]
      rfl
    · rw [if_neg same] at counted
      exact absurd (List.any_eq_true.2 ⟨old, present, counted⟩) prior

/-- **A link that is being processed is linked**, with an evidence item and a content item. -/
theorem Sound.linked (sound : Sound maxAttempts store) {id : Uuid} {link : EvidenceProjectionLink}
    (found : store.link id = some link) (processing : link.status = .processing) (evidenceId : Uuid)
    (contentId : Option Uuid) (now : Int) :
    let links := Table.modify EvidenceProjectionLink.id store.links id
      (linkedLink store.links evidenceId contentId now)
    Sound maxAttempts { store with links := links } ∧
      KeepsOver store { store with links := links } := by
  intro links
  have keeps (link : EvidenceProjectionLink) :
      (linkedLink store.links evidenceId contentId now link).id = link.id := rfl
  refine ⟨⟨?_, ?_, ?_, sound.evidenceItems, sound.contentItems, ?_, ?_⟩, ?_⟩
  · rw [Table.map_key_modify keeps]
    exact sound.keys
  · have same : links.map EvidenceProjectionLink.safeFactProjectionId =
        store.links.map EvidenceProjectionLink.safeFactProjectionId := by
      simp only [links, Table.modify, List.map_map]
      refine List.map_congr_left fun link _ => ?_
      by_cases own : link.id = id <;> simp [own, linkedLink]
    rw [same]
    exact sound.projections
  · intro other member
    obtain ⟨old, present, rfl⟩ := Table.mem_modify.1 member
    split
    · refine ⟨(sound.attempts old present).attempts, ?_⟩
      rintro (impossible | impossible)
      · cases impossible
      · cases impossible
    · exact sound.attempts old present
  · intro item
    refine one_canonical sound.keys found (sound.canonicalEvidence item) ?_ ?_ ?_
    · simp only [isCanonicalEvidence, decide_eq_true_eq]
      exact fun link counted => ⟨counted.1, counted.2.1⟩
    · simp [processing]
    · by_cases own : evidenceId = item
      · subst own
        rw [Bool.eq_iff_iff]
        simp [isCanonicalEvidence, isLinkedEvidence, linkedLink]
      · simp [isCanonicalEvidence, linkedLink, own]
  · intro item
    refine one_canonical sound.keys found (sound.canonicalContent item) ?_ ?_ ?_
    · simp only [isCanonicalContent, decide_eq_true_eq]
      exact fun link counted => ⟨counted.1, counted.2.1⟩
    · simp [processing]
    · by_cases own : contentId = some item
      · subst own
        rw [Bool.eq_iff_iff]
        simp [isCanonicalContent, isLinkedContent, linkedLink]
      · simp [isCanonicalContent, linkedLink, own]
  · intro other row held concluded
    have different : other ≠ id := by
      rintro rfl
      obtain rfl := Option.some.inj (held.symm.trans found)
      rcases concluded with linked | blocked
      · exact absurd (linked.symm.trans processing) (by decide)
      · exact absurd (blocked.symm.trans processing) (by decide)
    exact (Table.find_modify_ne _ keeps different).trans held

/-- A content item is inserted for a raw item that has none. -/
theorem Sound.contentInserted (sound : Sound maxAttempts store) {content : ContentItem}
    {store' : Store} (ok : insertContent store content = .ok store') :
    Sound maxAttempts store' ∧ store'.links = store.links := by
  unfold insertContent at ok
  split at ok
  · cases ok
  · next fresh =>
    obtain rfl := Except.ok.inj ok
    have new : Table.find ContentItem.rawItemId store.contentItems content.rawItemId = none :=
      (Table.find_eq_none _).2 fun other member same =>
        fresh (List.any_eq_true.2 ⟨other, member, by simp [same]⟩)
    exact ⟨⟨sound.keys, sound.projections, sound.attempts, sound.evidenceItems,
      Table.nodup_append _ sound.contentItems new, sound.canonicalEvidence,
      sound.canonicalContent⟩, rfl⟩

/-- An evidence item is inserted for a raw item and a provider that have none. -/
theorem Sound.evidenceInserted (sound : Sound maxAttempts store) {evidence : EvidenceItem}
    {store' : Store} (ok : insertEvidence store evidence = .ok store')
    (new : ∀ other ∈ store.evidenceItems, other.rawItemId = evidence.rawItemId →
      other.provider ≠ evidence.provider) :
    Sound maxAttempts store' ∧ store'.links = store.links := by
  unfold insertEvidence at ok
  split at ok
  · cases ok
  · obtain rfl := Except.ok.inj ok
    have absent : Table.find (fun item : EvidenceItem => (item.rawItemId, item.provider))
        store.evidenceItems (evidence.rawItemId, evidence.provider) = none :=
      (Table.find_eq_none _).2 fun other member same =>
        new other member (congrArg Prod.fst same) (congrArg Prod.snd same)
    exact ⟨⟨sound.keys, sound.projections, sound.attempts,
      Table.nodup_append _ sound.evidenceItems absent, sound.contentItems, sound.canonicalEvidence,
      sound.canonicalContent⟩, rfl⟩

variable {library : StandardLibrary} {projection : Projection} {raw : RawItem}

/-- The content of facts is found, or made. -/
theorem Sound.contentFor (sound : Sound maxAttempts store) {id : Uuid} {content : Option ContentItem}
    {store' : Store} (ok : contentFor library store projection raw id = .ok (content, store')) :
    Sound maxAttempts store' ∧ store'.links = store.links := by
  obtain ⟨policy, -, rest⟩ := bind_eq_ok.1 ok
  split at rest
  · obtain ⟨rfl, rfl⟩ := Prod.mk.inj (pure_eq_ok.1 rest)
    exact ⟨sound, rfl⟩
  · split at rest
    · obtain ⟨rfl, rfl⟩ := Prod.mk.inj (pure_eq_ok.1 (check_eq_ok.1 rest).2)
      exact ⟨sound, rfl⟩
    · obtain ⟨head, -, rest⟩ := bind_eq_ok.1 rest
      split at rest
      · obtain ⟨rfl, rfl⟩ := Prod.mk.inj (pure_eq_ok.1 rest)
        exact ⟨sound, rfl⟩
      · obtain ⟨made, -, rest⟩ := bind_eq_ok.1 rest
        obtain ⟨next, inserted, rest⟩ := bind_eq_ok.1 rest
        obtain ⟨-, rfl⟩ := Prod.mk.inj (pure_eq_ok.1 rest)
        exact sound.contentInserted inserted

/-- The evidence item of facts is found, or made. -/
theorem Sound.evidenceFor (sound : Sound maxAttempts store) {observation : Observation}
    {content : Option ContentItem} {id : Uuid} {evidence : EvidenceItem} {store' : Store}
    (ok : evidenceFor library store projection observation raw content id = .ok (evidence, store')) :
    Sound maxAttempts store' ∧ store'.links = store.links := by
  obtain ⟨policy, -, rest⟩ := bind_eq_ok.1 ok
  obtain ⟨identity, -, rest⟩ := bind_eq_ok.1 rest
  split at rest
  · next none =>
    obtain ⟨-, rest⟩ := check_eq_ok.1 rest
    obtain ⟨made, new, rest⟩ := bind_eq_ok.1 rest
    obtain ⟨next, inserted, rest⟩ := bind_eq_ok.1 rest
    obtain ⟨-, rfl⟩ := Prod.mk.inj (pure_eq_ok.1 rest)
    refine sound.evidenceInserted inserted fun other member raws providers => ?_
    obtain ⟨_, -, new⟩ := bind_eq_ok.1 new
    obtain ⟨_, -, new⟩ := bind_eq_ok.1 new
    obtain ⟨_, -, new⟩ := bind_eq_ok.1 new
    obtain rfl := pure_eq_ok.1 new
    have taken : other ∈ store.evidenceItems.filter fun evidence =>
        evidence.rawItemId = raw.id ∧ evidence.provider = projection.provider :=
      List.mem_filter.2 ⟨member, decide_eq_true ⟨raws, providers⟩⟩
    rw [none] at taken
    exact List.not_mem_nil taken
  · obtain ⟨rfl, rfl⟩ := Prod.mk.inj (pure_eq_ok.1 (check_eq_ok.1 rest).2)
    exact ⟨sound, rfl⟩
  · exact absurd rest conflict_ne_ok

/-- **Linking an item** keeps what is known. -/
theorem Sound.linkLocked (sound : Sound maxAttempts store) {id contentId evidenceId : Uuid}
    {located : Located} {now : Int} {store' : Store}
    (ok : linkLocked library store id located now contentId evidenceId = .ok store') :
    Sound maxAttempts store' ∧ KeepsOver store store' := by
  obtain ⟨held, holds, rest⟩ := bind_eq_ok.1 ok
  obtain ⟨policy, -, rest⟩ := bind_eq_ok.1 rest
  obtain ⟨-, rest⟩ := check_eq_ok.1 rest
  obtain ⟨⟨content, first⟩, contents, rest⟩ := bind_eq_ok.1 rest
  obtain ⟨⟨evidence, second⟩, evidences, rest⟩ := bind_eq_ok.1 rest
  obtain rfl := pure_eq_ok.1 rest
  have found : ∃ link, store.link id = some link ∧ link.status = .processing := by
    obtain ⟨_, -, holds⟩ := bind_eq_ok.1 holds
    obtain ⟨_, -, holds⟩ := bind_eq_ok.1 holds
    obtain ⟨_, -, holds⟩ := bind_eq_ok.1 holds
    obtain ⟨link, found, -⟩ := bind_eq_ok.1 holds
    obtain ⟨found, processing⟩ := Option.filter_eq_some_iff.1 (present_eq_ok.1 found)
    exact ⟨link, found, of_decide_eq_true processing⟩
  obtain ⟨link, found, processing⟩ := found
  obtain ⟨soundFirst, linksFirst⟩ := sound.contentFor contents
  obtain ⟨soundSecond, linksSecond⟩ := soundFirst.evidenceFor evidences
  have links : second.links = store.links := linksSecond.trans linksFirst
  have held : second.link id = some link := by
    rw [Store.link, links]
    exact found
  obtain ⟨kept, keeps⟩ := soundSecond.linked held processing evidence.id (content.map ContentItem.id) now
  refine ⟨kept, fun other row there concluded => keeps other row ?_ concluded⟩
  rw [Store.link, links]
  exact there

end Kept

/-! ### The transactions -/

section Transactions

variable {maxAttempts : Nat} {store : Store} {settings : HandoffSettings}

/-- What a transaction that links nothing may make of a link it takes. -/
structure Moves (maxAttempts : Nat) (link next : EvidenceProjectionLink) : Prop where
  working : ¬IsOver link
  bounded : Bounded maxAttempts next
  unlinked : next.status ≠ .linked

/-- **A transaction that takes some links**, and writes each as it may. -/
theorem Sound.written (sound : Sound maxAttempts store) {chosen : EvidenceProjectionLink → Prop}
    [DecidablePred chosen] {change : EvidenceProjectionLink → EvidenceProjectionLink}
    (keeps : ∀ link, (change link).id = link.id ∧
      (change link).safeFactProjectionId = link.safeFactProjectionId)
    (moves : ∀ link ∈ store.links, chosen link → Moves maxAttempts link (change link)) :
    Sound maxAttempts
        { store with links := store.links.map fun link => if chosen link then change link else link } ∧
      KeepsOver store
        { store with links := store.links.map fun link => if chosen link then change link else link } := by
  refine sound.rewritten ?_ ?_ ?_ ?_
  · intro link
    split
    · exact keeps link
    · exact ⟨rfl, rfl⟩
  · intro link member
    split
    · next taken => exact (moves link member taken).bounded
    · exact sound.attempts link member
  · intro link member concluded
    rw [if_neg fun taken => (moves link member taken).working concluded]
  · intro link member open'
    split
    · next taken => exact (moves link member taken).unlinked
    · exact open'

theorem not_isOver {link : EvidenceProjectionLink} {status : LinkStatus} (held : link.status = status)
    (linked : status ≠ .linked) (blocked : status ≠ .blocked) : ¬IsOver link := by
  rintro (concluded | concluded)
  · exact linked (held.symm.trans concluded)
  · exact blocked (held.symm.trans concluded)

theorem moves_recovered {now : Int} {link : EvidenceProjectionLink}
    (bounded : Bounded settings.maxAttempts link) (processing : link.status = .processing) :
    Moves settings.maxAttempts link (recoveredLink settings now link) := by
  refine ⟨not_isOver processing nofun nofun, ?_, ?_⟩
  · unfold recoveredLink
    split
    · exact ⟨bounded.attempts, by simp⟩
    · next below => exact ⟨bounded.attempts, fun _ => Nat.lt_of_not_le below⟩
  · unfold recoveredLink
    split <;> simp

theorem moves_retried {now : Int} {code : String} {link : EvidenceProjectionLink}
    (bounded : Bounded settings.maxAttempts link) (processing : link.status = .processing) :
    Moves settings.maxAttempts link (retriedLink settings now code link) := by
  refine ⟨not_isOver processing nofun nofun, ?_, ?_⟩
  · unfold retriedLink
    split
    · exact ⟨bounded.attempts, by simp⟩
    · next below => exact ⟨bounded.attempts, fun _ => Nat.lt_of_not_le below⟩
  · unfold retriedLink
    split <;> simp

theorem moves_blocked {now : Int} {code : String} {link : EvidenceProjectionLink}
    (bounded : Bounded maxAttempts link) (processing : link.status = .processing) :
    Moves maxAttempts link (blockedLink now code link) :=
  ⟨not_isOver processing nofun nofun, ⟨bounded.attempts, by simp [blockedLink]⟩,
    by simp [blockedLink]⟩

theorem moves_claimed {now : Int} {link : EvidenceProjectionLink} (bounded : Bounded maxAttempts link)
    (waits : link.status = .pending ∨ link.status = .retry) :
    Moves maxAttempts link (claimedLink now link) := by
  refine ⟨?_, ⟨bounded.waiting waits, by simp [claimedLink]⟩, by simp [claimedLink]⟩
  rcases waits with pending | retried
  · exact not_isOver pending nofun nofun
  · exact not_isOver retried nofun nofun

theorem claimedLink_keeps (now : Int) (link : EvidenceProjectionLink) :
    (claimedLink now link).id = link.id ∧
      (claimedLink now link).safeFactProjectionId = link.safeFactProjectionId := ⟨rfl, rfl⟩

theorem blockedLink_keeps (now : Int) (code : String) (link : EvidenceProjectionLink) :
    (blockedLink now code link).id = link.id ∧
      (blockedLink now code link).safeFactProjectionId = link.safeFactProjectionId := ⟨rfl, rfl⟩

theorem recoveredLink_keeps (now : Int) (link : EvidenceProjectionLink) :
    (recoveredLink settings now link).id = link.id ∧
      (recoveredLink settings now link).safeFactProjectionId = link.safeFactProjectionId := by
  unfold recoveredLink
  split <;> exact ⟨rfl, rfl⟩

theorem retriedLink_keeps (now : Int) (code : String) (link : EvidenceProjectionLink) :
    (retriedLink settings now code link).id = link.id ∧
      (retriedLink settings now code link).safeFactProjectionId = link.safeFactProjectionId := by
  unfold retriedLink
  split <;> exact ⟨rfl, rfl⟩

/-- The one link with an identifier. -/
theorem Sound.only (sound : Sound maxAttempts store) {id : Uuid} {link other : EvidenceProjectionLink}
    (found : store.link id = some link) (member : other ∈ store.links) (same : other.id = id) :
    other = link := by
  have again := Table.find_of_mem _ sound.keys member
  rw [same] at again
  exact Option.some.inj (again.symm.trans found)

theorem Sound.recoverStale (sound : Sound settings.maxAttempts store) (now : Int) (limit : Nat)
    (locked : List Uuid) :
    Sound settings.maxAttempts (recoverStale settings store now limit locked).2 ∧
      KeepsOver store (recoverStale settings store now limit locked).2 := by
  refine sound.written (recoveredLink_keeps now) fun link member taken => ?_
  have stale := Table.wanted_of_mem_pick sound.keys member taken
  exact moves_recovered (sound.attempts link member) (of_decide_eq_true stale).1

theorem Sound.claim (sound : Sound maxAttempts store) (limit : Nat) (now : Int)
    (locked : List Uuid) :
    Sound maxAttempts (claim store limit now locked).2 ∧
      KeepsOver store (claim store limit now locked).2 := by
  refine sound.written (claimedLink_keeps now) fun link member taken => ?_
  have waits := Table.wanted_of_mem_pick sound.keys member taken
  exact moves_claimed (sound.attempts link member) (of_decide_eq_true waits).1

theorem Sound.discoverReady (sound : Sound maxAttempts store) (positive : 1 ≤ maxAttempts)
    {limit : Nat} {now : Int} {given : List Uuid} {store' : Store}
    (ok : discoverReady store limit now given = .ok store') :
    Sound maxAttempts store' ∧ KeepsOver store store' := by
  obtain ⟨links, ran, made⟩ := bind_eq_ok.1 ok
  obtain rfl := pure_eq_ok.1 made
  let holds (links : List EvidenceProjectionLink) : Prop :=
    Sound maxAttempts { store with links := links } ∧ KeepsOver store { store with links := links }
  have initially : holds store.links := ⟨sound, .refl store⟩
  suffices last : holds links from last
  refine foldlM_preserves ?_ ran initially
  rintro before entry - after inserted ⟨kept, keeps⟩
  obtain ⟨soundAfter, keepsAfter⟩ := kept.inserted positive inserted
  exact ⟨soundAfter, fun id link found concluded =>
    keepsAfter id link (keeps id link found concluded) concluded⟩

theorem Sound.terminal (sound : Sound maxAttempts store) (id : Uuid) (code : String) (now : Int) :
    Sound maxAttempts (terminal store id code now) ∧
      KeepsOver store (terminal store id code now) := by
  unfold Evidence.terminal
  split
  · next processing =>
    obtain ⟨link, found, status⟩ := (Option.any_eq_true _ _).1 processing
    refine sound.written (blockedLink_keeps now code) fun other member same => ?_
    obtain rfl := sound.only found member same
    exact moves_blocked (sound.attempts other member) (of_decide_eq_true status)
  · exact ⟨sound, .refl store⟩

theorem Sound.retry (sound : Sound settings.maxAttempts store) (id : Uuid) (code : String)
    (now : Int) :
    Sound settings.maxAttempts (retry settings store id code now).2 ∧
      KeepsOver store (retry settings store id code now).2 := by
  unfold Evidence.retry
  split
  · exact ⟨sound, .refl store⟩
  · next link found =>
    split
    · exact ⟨sound, .refl store⟩
    · next processing =>
      refine sound.written (retriedLink_keeps now code) fun other member same => ?_
      obtain rfl := sound.only found member same
      exact moves_retried (sound.attempts other member) (not_not.1 processing)

end Transactions

/-! ### Runs -/

section Runs

variable {deployed : Deployment} {state state' : Handoff}

/-- **A transaction that ends** keeps what is known. -/
theorem Sound.transact (sound : Sound deployed.settings.maxAttempts state.store) {op : Op}
    {choice : Choice} {answer : Answer op} {store' : Store}
    (ended : transact deployed state op choice = some (.ok (answer, store'))) :
    Sound deployed.settings.maxAttempts store' ∧ KeepsOver state.store store' := by
  unfold Evidence.transact at ended
  split at ended
  · obtain ⟨-, rfl⟩ := Prod.mk.inj (Except.ok.inj (Option.some.inj ended))
    exact ⟨sound, .refl _⟩
  · next now limit locked =>
    obtain rfl := congrArg Prod.snd (Except.ok.inj (Option.some.inj ended))
    exact sound.recoverStale now limit locked
  · obtain ⟨next, ran, made⟩ := map_eq_ok.1 (Option.some.inj ended)
    obtain ⟨-, rfl⟩ := Prod.mk.inj made
    exact sound.discoverReady deployed.settings.positive ran
  · next limit now locked =>
    obtain rfl := congrArg Prod.snd (Except.ok.inj (Option.some.inj ended))
    exact sound.claim limit now locked
  · obtain ⟨found, -, made⟩ := map_eq_ok.1 (Option.some.inj ended)
    obtain ⟨-, rfl⟩ := Prod.mk.inj made
    exact ⟨sound, .refl _⟩
  · obtain ⟨next, ran, made⟩ := map_eq_ok.1 (Option.some.inj ended)
    obtain ⟨-, rfl⟩ := Prod.mk.inj made
    exact sound.linkLocked ran
  · next id code now =>
    obtain rfl := congrArg Prod.snd (Except.ok.inj (Option.some.inj ended))
    exact sound.terminal id code now
  · next id code now =>
    obtain rfl := congrArg Prod.snd (Except.ok.inj (Option.some.inj ended))
    exact sound.retry id code now
  · cases ended
  · cases ended
  · cases ended

/-- **Every move keeps what is known**, and what was over is as it was. -/
theorem sound_stepped {phases phases' : Nat → Option Unit}
    {move : Move signature Choice Int Happening}
    (sound : Sound deployed.settings.maxAttempts state.store)
    (stepped : (Discipline.free (handoffs deployed)).Stepped state phases move state' phases') :
    Sound deployed.settings.maxAttempts state'.store ∧ KeepsOver state.store state'.store := by
  cases stepped with
  | work who op choice bound allowed executed =>
      obtain ⟨ended, ran, made⟩ := Option.map_eq_some_iff.1 executed
      cases ended with
      | ok result =>
          obtain ⟨-, rfl⟩ := Prod.mk.inj made
          exact sound.transact ran
      | error failure =>
          obtain ⟨-, rfl⟩ := Prod.mk.inj made
          exact ⟨sound, .refl _⟩
  | crash who bound => exact ⟨sound, .refl _⟩
  | start who job free accepted =>
      obtain rfl := Option.some.inj accepted
      exact ⟨sound, .refl _⟩
  | env action acted =>
      obtain rfl := Option.some.inj acted
      cases action with
      | tick elapsed => exact ⟨sound, .refl _⟩
      | elsewhere database => exact ⟨sound.elsewhere database, .refl _⟩

end Runs

/-! ### One item -/

/-- The fields of a link that refusing it or trying it again may write. -/
def SameBut (old new : EvidenceProjectionLink) : Prop :=
  new = { old with
    status := new.status
    safeErrorCode := new.safeErrorCode
    nextRetryAt := new.nextRetryAt
    updatedAt := new.updatedAt }

/-- **Only the own link is changed**, in its status, its error, its retry and its times. -/
def OnlyOwn (id : Uuid) (before after : Handoff) : Prop :=
  after.now = before.now ∧ ∃ links, after.store = { before.store with links := links } ∧
    List.Forall₂ (fun old new => new = old ∨ old.id = id ∧ SameBut old new) before.store.links links

section Items

variable {deployed : Deployment} {id : Uuid}

theorem OnlyOwn.refl (state : Handoff) : OnlyOwn id state state :=
  ⟨rfl, state.store.links, rfl, List.forall₂_same.2 fun _ _ => .inl rfl⟩

theorem OnlyOwn.modify (state : Handoff) {change : EvidenceProjectionLink → EvidenceProjectionLink}
    (same : ∀ link, SameBut link (change link)) :
    OnlyOwn id state { state with
      store := { state.store with
        links := Table.modify EvidenceProjectionLink.id state.store.links id change } } := by
  refine ⟨rfl, _, rfl, ?_⟩
  rw [Table.modify, List.forall₂_map_right_iff]
  refine List.forall₂_same.2 fun link _ => ?_
  by_cases own : link.id = id
  · rw [if_pos own]
    exact .inr ⟨own, same link⟩
  · rw [if_neg own]
    exact .inl rfl

/-- The item has been linked. -/
def hasLinked : (op : Op) → Except Failure (Answer op) → Bool
  | .link _ _ _, .ok _ => true
  | _, _ => false

/-- **What the worker of an item asks for**: operations of the item. The phase is whether it has been
linked. -/
def itemProtocol (id : Uuid) : Protocol signature Bool where
  allowed _ op :=
    match op with
    | .inspect other => other = id
    | .link other _ _ => other = id
    | .terminal other _ _ => other = id
    | .retry other _ _ => other = id
    | _ => False
  next phase op reply := phase || hasLinked op reply

/-- An operation of the item that does not link it changes only its own link. -/
theorem onlyOwn_of_exec {before after : Handoff} {op : Op} {choice : Choice}
    {reply : Except Failure (Answer op)} {phase : Bool} (allowed : (itemProtocol id).allowed phase op)
    (executed : exec deployed before op choice = some (reply, after))
    (unlinked : hasLinked op reply = false) : OnlyOwn id before after := by
  obtain ⟨ended, ran, made⟩ := Option.map_eq_some_iff.1 executed
  cases ended with
  | error failure =>
      obtain ⟨-, rfl⟩ := Prod.mk.inj made
      exact .refl before
  | ok result =>
      obtain ⟨rfl, rfl⟩ := Prod.mk.inj made
      unfold transact at ran
      split at ran
      · exact allowed.elim
      · exact allowed.elim
      · exact allowed.elim
      · exact allowed.elim
      · obtain ⟨found, -, same⟩ := map_eq_ok.1 (Option.some.inj ran)
        rw [← same]
        exact .refl before
      · cases unlinked
      · next other code now =>
        obtain rfl : other = id := allowed
        obtain rfl := Except.ok.inj (Option.some.inj ran)
        show OnlyOwn other before { before with store := terminal before.store other code now }
        unfold terminal
        split
        · exact .modify before fun _ => rfl
        · exact .refl before
      · next other code now =>
        obtain rfl : other = id := allowed
        obtain rfl := Except.ok.inj (Option.some.inj ran)
        show OnlyOwn other before
          { before with store := (retry deployed.settings before.store other code now).2 }
        unfold retry
        split
        · exact .refl before
        · split
          · exact .refl before
          · refine .modify before fun link => ?_
            unfold retriedLink
            split <;> rfl
      · cases ran
      · cases ran
      · cases ran

/-- The transaction of an item says whether it has linked it. -/
theorem follows_linkTransaction (now : Int) :
    (itemProtocol id).FollowsE false (linkTransaction id now) fun phase outcome =>
      phase = true → outcome = .ok true := by
  refine Protocol.followsE_request_bind rfl (fun found => ?_) (fun _ => nofun)
  cases found with
  | none => exact Protocol.followsE_pure nofun
  | some located =>
      exact Protocol.followsE_request_bind rfl (fun _ => Protocol.followsE_pure fun _ => rfl)
        (fun _ => nofun)

/-- An item that has been linked ends as linked. -/
theorem follows_linkOne (now : Int) :
    (itemProtocol id).FollowsE false (linkOne id now) fun phase outcome =>
      phase = true → outcome = .ok .linked := by
  refine Protocol.followsE_bind (Protocol.followsE_attempt
    (Protocol.followsE_mono (follows_linkTransaction now) fun phase outcome known => ?_))
  have unlinked (other : outcome ≠ .ok true) : phase = false := by
    rw [← Bool.not_eq_true]
    exact fun linked => other (known linked)
  have again (code : String) (other : outcome ≠ .ok true) :
      (itemProtocol id).FollowsE phase (ask (.retry id code now)) fun phase outcome =>
        phase = true → outcome = .ok .linked := by
    rw [unlinked other]
    exact Protocol.followsE_request rfl fun _ => nofun
  match outcome with
  | .ok true => exact Protocol.followsE_pure fun _ => rfl
  | .ok false =>
      rw [unlinked nofun]
      exact Protocol.followsE_pure nofun
  | .error (.raised error) =>
      rw [unlinked nofun]
      dsimp only
      split
      · exact Protocol.followsE_request_bind rfl (fun _ => Protocol.followsE_pure nofun)
          (fun _ => nofun)
      · exact Protocol.followsE_throw nofun
  | .error .integrity => exact again _ nofun
  | .error (.database sqlstate) => exact again _ nofun

theorem follows_handOff (now : Int) :
    (itemProtocol id).FollowsE false (handOff id now) fun phase outcome =>
      phase = true → outcome = .ok .linked := by
  refine Protocol.followsE_bind (Protocol.followsE_attempt
    (Protocol.followsE_mono (follows_linkOne now) fun phase outcome known => ?_))
  cases outcome with
  | ok outcome => exact Protocol.followsE_pure known
  | error failure =>
      have unlinked : phase = false := by
        rw [← Bool.not_eq_true]
        exact fun linked => absurd (known linked) nofun
      rw [unlinked]
      exact Protocol.followsE_request rfl fun _ => nofun

/-- **An item that is not linked** has changed only its own link. -/
theorem onlyOwn_of_executes {now : Int} {steps : List (Handoff × Handoff)}
    {outcome : Except Failure Outcome}
    (executes : Protocol.Executes (exec deployed) (handOff id now).run steps outcome)
    (ends : outcome ≠ .ok .linked) : ∀ step ∈ steps, OnlyOwn id step.1 step.2 := by
  let holds (phase : Bool) (steps : List (Handoff × Handoff)) : Prop :=
    phase = false → ∀ step ∈ steps, OnlyOwn id step.1 step.2
  have initially : holds false [] := fun _ _ member => absurd member List.not_mem_nil
  have kept (phase : Bool) (steps : List (Handoff × Handoff)) (op : Op) (choice : Choice)
      (reply : Except Failure (Answer op)) (before after : Handoff)
      (allowed : (itemProtocol id).allowed phase op)
      (executed : exec deployed before op choice = some (reply, after)) (own : holds phase steps) :
      holds (phase || hasLinked op reply) (steps ++ [(before, after)]) := by
    intro next step member
    obtain ⟨unlinkedBefore, unlinked⟩ := Bool.or_eq_false_iff.1 next
    rcases List.mem_append.1 member with earlier | new
    · exact own unlinkedBefore step earlier
    · obtain rfl := List.mem_singleton.1 new
      exact onlyOwn_of_exec allowed executed unlinked
  obtain ⟨last, linked, own⟩ := executes.of_follows (follows_handOff now) initially kept
  refine own ?_
  rw [← Bool.not_eq_true]
  exact fun linkedAtLast => ends (linked linkedAtLast)

end Items

/-! ### Histories -/

/-- Tables without links, where raw items have one evidence item of a provider and one content item, are
sound. -/
theorem Sound.of_no_links {maxAttempts : Nat} {store : Store} (empty : store.links = [])
    (evidenceItems : (store.evidenceItems.map fun item => (item.rawItemId, item.provider)).Nodup)
    (contentItems : (store.contentItems.map ContentItem.rawItemId).Nodup) :
    Sound maxAttempts store := by
  constructor
  · simp [empty]
  · simp [empty]
  · simp [empty]
  · exact evidenceItems
  · exact contentItems
  · simp [empty, isLinkedEvidence]
  · simp [empty, isLinkedContent]

/-- **The handoff**, in every history: the tables stay sound; a link that is linked or blocked stays as
it is; and an item that does not end as linked changes, whatever others do meanwhile, only its own
link. -/
theorem handed_off_safely {deployed : Deployment} {state : Handoff}
    {world : World signature (Except Failure EvidenceHandoffReport) Handoff Int}
    (sound : Sound deployed.settings.maxAttempts state.store)
    (reached : (Discipline.free (handoffs deployed)).Reaches (Discipline.anyMove _)
      (.initial state) world) :
    Sound deployed.settings.maxAttempts world.state.store ∧
      (∀ id link later, world.state.store.link id = some link →
        link.status = .linked ∨ link.status = .blocked →
        (Discipline.free (handoffs deployed)).Reaches (Discipline.anyMove _) world later →
        later.state.store.link id = some link) ∧
      ∀ id now steps outcome,
        Protocol.Executes (exec deployed) (handOff id now).run steps outcome →
        outcome ≠ .ok .linked → ∀ step ∈ steps, OnlyOwn id step.1 step.2 := by
  have start := Discipline.adherent_initial (Discipline.free (handoffs deployed)) state
  have kept := reached.invariant _
    (fun _ _ _ _ _ stepped _ sound => (sound_stepped sound stepped).1) start sound
  refine ⟨kept, fun id link later found concluded follows => ?_,
    fun id now steps outcome executes ends => onlyOwn_of_executes executes ends⟩
  have still (state state' : Handoff) (phases phases' : Nat → Option Unit)
      (move : Move signature Choice Int Happening)
      (stepped : (Discipline.free (handoffs deployed)).Stepped state phases move state' phases')
      (held : Sound deployed.settings.maxAttempts state.store ∧ state.store.link id = some link) :
      Sound deployed.settings.maxAttempts state'.store ∧ state'.store.link id = some link :=
    ⟨(sound_stepped held.1 stepped).1, (sound_stepped held.1 stepped).2 id link held.2 concluded⟩
  exact (follows.invariant _
    (fun state phases move state' phases' stepped _ held =>
      still state state' phases phases' move stepped held)
    (reached.adherent _ start) ⟨kept, found⟩).2

/-- Three attempts, ten minutes, and one minute. -/
def newsHandoff : Deployment := ⟨newsDigests, ⟨3, 600000000, 60000000, by decide⟩⟩

/-- News of a company that two runs have observed, at different times, and that are ready. -/
def readyNews : Handoff where
  store :=
    { quoteTables with
      runs := [⟨30, 10, none, none, .normal, none, 0, some 0, .succeeded, 1, 1, 1, none, none, 1, 0, 0,
          none, none, 0⟩,
        ⟨31, 10, none, none, .normal, none, 5, some 5, .succeeded, 1, 1, 1, none, none, 1, 0, 0,
          none, none, 5⟩]
      rawItems := [⟨40, 10, none, 30, ⟨none, 0, none, none, none, none, "metadata_only"⟩⟩]
      observations := [⟨60, 30, 40, none, 10, none, "finnhub", "company_news", none, 2, 0, newsHash,
          .firstSeen, "run", 0⟩,
        ⟨61, 31, 40, none, 10, none, "finnhub", "company_news", none, 2, 5, newsHash,
          .firstSeen, "run", 5⟩]
      projections := [⟨70, 60, 40, "finnhub", "company_news", 1, newsItem "MSFT", newsHash,
          .partialFacts, .ready, none, 1, none, some 0, 0, 0⟩,
        ⟨71, 61, 40, "finnhub", "company_news", 1, newsItem "MSFT", newsHash,
          .partialFacts, .ready, none, 1, none, some 5, 5, 5⟩]
      evidenceItems := []
      contentItems := []
      links := [] }
  now := 5

/-- Two workers that have claimed a link each; the second one is done first. -/
def newsBatches : List (Event Choice Int Happening) :=
  [.start 1, .start 1, .work 0 .proceed, .work 0 (.locked []), .work 0 (.given [80]),
    .work 0 (.locked []), .work 1 .proceed, .work 1 (.locked []), .work 1 (.given [81]),
    .work 1 (.locked []), .work 1 .proceed, .work 1 (.given [91, 51]), .work 0 .proceed,
    .work 0 (.given [90, 50])]

/-- Both are linked to the evidence item of the second worker, whose link is the canonical one and
stays as it is. -/
theorem handed_off_news : ∃ world,
    (World.initial readyNews).run (handoffs newsHandoff) newsBatches = some world ∧
    world.state.store.links.map EvidenceProjectionLink.evidenceItemId = [some 51, some 51] ∧
    world.state.store.links.countP (isCanonicalEvidence 51) = 1 ∧
    ∃ link, world.state.store.link 81 = some link ∧ link.canonicalEvidence = true ∧
      ∀ later, (Discipline.free (handoffs newsHandoff)).Reaches (Discipline.anyMove _) world later →
        later.state.store.link 81 = some link := by
  have ran : ((World.initial readyNews).run (handoffs newsHandoff) newsBatches).map
      (fun world => (world.state.store.links.map EvidenceProjectionLink.evidenceItemId,
        isLinkedEvidence world.state.store.links 51,
        (world.state.store.link 81).map fun link => (link.status, link.canonicalEvidence))) =
      some ([some 51, some 51], true, some (.linked, true)) := by
    decide +kernel
  obtain ⟨world, reached, told⟩ := Option.map_eq_some_iff.1 ran
  simp only [Prod.mk.injEq] at told
  obtain ⟨linkedTo, linked, held⟩ := told
  obtain ⟨link, found, concluded⟩ := Option.map_eq_some_iff.1 held
  obtain ⟨status, canonical⟩ := Prod.mk.inj concluded
  have sound : Sound newsHandoff.settings.maxAttempts readyNews.store :=
    .of_no_links rfl .nil .nil
  obtain ⟨known, stays, -⟩ := handed_off_safely sound (.of_run _ (.refl _) reached)
  exact ⟨world, reached, linkedTo, known.canonicalEvidence 51 linked, link, found, canonical,
    fun later follows => stays 81 link later found (.inl status) follows⟩

end NewsCollect.Evidence
