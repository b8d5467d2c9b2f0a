/-
**Evidence is written once, and never overwritten.**

Requests are written in transactions, and other transactions commit between any two statements. A
request that is written once more finds its row. A request that shares the hash or the identity of
another row writes nothing, whether the row was there when it looked or was committed before it
could insert its own.

* `Consistent`, `Agrees`, `Written`: the unique indexes, the provenance, and a row of a request.
* `ReadsTo`: what the statements that read are answered, among others.
* `Reaches`: the courses of a transaction, with the requests it has written.
* `writeOne_settled`: what becomes of a request in any of them.
-/

import Mathlib.Data.List.Pairwise
import NewsCollect.Evidence.WritePath
import NewsCollect.Proof.FixedPoint

namespace NewsCollect.Evidence

open Collection Interleaving SafeProjection

variable {library : StandardLibrary} {breaks : Store → EvidenceItem → Prop}

/-! ### The unique indexes -/

section Indexes

variable {rows : List EvidenceItem} {first second item : EvidenceItem}

theorem sameKey_iff {left right : Option String} :
    sameKey left right = true ↔ ∃ text, left = some text ∧ right = some text := by
  cases left <;> cases right <;> simp [sameKey]
  exact eq_comm

theorem clashes_iff :
    clashes first second = true ↔ first.id = second.id ∨ first.provider = second.provider ∧
      (first.providerItemHash = second.providerItemHash ∨
        ∃ text, first.providerItemId = some text ∧ second.providerItemId = some text) := by
  simp only [clashes, Bool.or_eq_true, Bool.and_eq_true, beq_iff_eq, sameKey_iff]

theorem clashes_comm : clashes first second = true ↔ clashes second first = true := by
  rw [clashes_iff, clashes_iff]
  constructor
  · rintro (same | ⟨provider, hash | ⟨text, left, right⟩⟩)
    · exact .inl same.symm
    · exact .inr ⟨provider.symm, .inl hash.symm⟩
    · exact .inr ⟨provider.symm, .inr ⟨text, right, left⟩⟩
  · rintro (same | ⟨provider, hash | ⟨text, left, right⟩⟩)
    · exact .inl same.symm
    · exact .inr ⟨provider.symm, .inl hash.symm⟩
    · exact .inr ⟨provider.symm, .inr ⟨text, right, left⟩⟩

/-- Two rows of a table that clash are one row. -/
theorem Consistent.eq_of_clashes (consistent : Consistent rows) (here : first ∈ rows)
    (there : second ∈ rows) (clash : clashes first second = true) : first = second := by
  by_contra different
  have symmetric : Std.Symm fun other item : EvidenceItem => clashes other item = false :=
    ⟨fun other item apart => by
      rw [← Bool.not_eq_true] at apart ⊢
      exact fun back => apart (clashes_comm.1 back)⟩
  have apart := List.Pairwise.forall consistent here there different
  exact Bool.false_ne_true (apart.symm.trans clash)

theorem Consistent.append (consistent : Consistent rows)
    (apart : ∀ other ∈ rows, clashes other item = false) : Consistent (rows ++ [item]) := by
  refine List.pairwise_append.2 ⟨consistent, List.pairwise_singleton .., ?_⟩
  intro other member last single
  obtain rfl := List.mem_singleton.1 single
  exact apart other member

/-- What the indexes leave is accepted. -/
theorem insertEvidence_eq_ok {store store' : Store} :
    insertEvidence store item = .ok store' → ∀ other ∈ store.evidenceItems,
      clashes other item = false := by
  intro accepted other member
  unfold insertEvidence at accepted
  split at accepted
  · exact absurd accepted nofun
  · next apart =>
      rw [Bool.not_eq_true, List.any_eq_false] at apart
      exact Bool.eq_false_iff.2 (apart other member)

end Indexes

/-! ### Requests and rows -/

/-- The row of a request, under this identifier. -/
def rowOf (library : StandardLibrary) (request : EvidenceWriteRequest) (id : Uuid) : EvidenceItem :=
  evidenceValues request (sanitized library request.envelope) id

/-- The envelope of a request passes its checks, without an unsafe reference. -/
def Accepted (library : StandardLibrary) (request : EvidenceWriteRequest) : Prop :=
  validateEvidenceEnvelope library
    (validatedCopy request.envelope (sanitized library request.envelope)) = []

/-- The raw item, the account and the content item are there, and are what the request says. -/
structure Agrees (session : Session) (request : EvidenceWriteRequest) : Prop where
  raw : session.rawProvenance request.rawItemId =
    some ⟨request.sourceId, request.sourceAccountId⟩
  account : ∀ accountId, request.sourceAccountId = some accountId →
    session.accountSourceId accountId = some request.sourceId
  content : ∀ contentItemId, request.contentItemId = some contentItemId →
    session.contentProvenance contentItemId =
      some ⟨request.sourceId, request.sourceAccountId, request.rawItemId⟩

/-- The row has the hash or the identity of the request. -/
def Shares (request : EvidenceWriteRequest) (row : EvidenceItem) : Prop :=
  row.provider = request.envelope.provider.value ∧
    (row.providerItemHash = request.envelope.providerItemHash.getD "" ∨
      ∃ text, row.providerItemId = some text ∧ request.envelope.providerItemId = some text)

/-- The row says what the request says. -/
def Equivalent (library : StandardLibrary) (request : EvidenceWriteRequest) (row : EvidenceItem) :
    Prop :=
  equivalent row (rowOf library request row.id) = true

/-- **A row of a request**: it is stored as the request says, without an unsafe reference, and its
provenance agrees. -/
structure Written (library : StandardLibrary) (session : Session) (request : EvidenceWriteRequest)
    (row : EvidenceItem) : Prop where
  member : row ∈ session.visible.evidenceItems
  same : row = rowOf library request row.id
  accepted : Accepted library request
  agrees : Agrees session request
  safe : validateRawPayloadReference library row.rawPayloadReference = []

/-- The code of a conflict with the row. -/
def conflictCode (request : EvidenceWriteRequest) (row : EvidenceItem) : String :=
  if row.providerItemHash = request.envelope.providerItemHash.getD "" then "provider_hash_conflict"
  else "provider_item_id_conflict"

section Rows

variable {request : EvidenceWriteRequest} {row found : EvidenceItem} {id : Uuid}

theorem rowOf_safe :
    validateRawPayloadReference library (rowOf library request id).rawPayloadReference = [] := by
  show validateRawPayloadReference library (sanitized library request.envelope).rawReference = []
  unfold sanitized
  split
  · assumption
  · rfl

theorem Equivalent.keys (same : Equivalent library request row) :
    row.provider = request.envelope.provider.value ∧
      row.providerItemHash = request.envelope.providerItemHash.getD "" ∧
      row.providerItemId = request.envelope.providerItemId := by
  simp only [Equivalent, equivalent, rowOf, evidenceValues, Bool.and_eq_true, beq_iff_eq] at same
  exact ⟨by tauto, by tauto, by tauto⟩

theorem Equivalent.shares (same : Equivalent library request row) : Shares request row :=
  ⟨same.keys.1, .inl same.keys.2.1⟩

theorem wellFormed_texts (texts : List String) : Json.wellFormed (.arr (texts.map .str)) = true := by
  rw [Json.wellFormed]
  induction texts with
  | nil => rfl
  | cons text texts ih => simpa [Json.wellFormedItems, Json.wellFormed] using ih

theorem wellFormed_storedError (code : String) (field : Option String) (safeMessage : String) :
    Json.wellFormed (storedError code field safeMessage) = true := by
  cases field <;> simp [storedError, Providers.textOrNull, Json.wellFormed, Json.wellFormedMembers]

theorem wellFormed_storedErrors (errors : List EvidenceError) (rest : List Json)
    (formed : Json.wellFormedItems rest = true) :
    Json.wellFormedItems ((errors.map fun error =>
      storedError error.code error.field error.safeMessage) ++ rest) = true := by
  induction errors with
  | nil => exact formed
  | cons error errors ih =>
      rw [List.map_cons, List.cons_append, Json.wellFormedItems, wellFormed_storedError, ih]
      rfl

theorem wellFormed_sanitized (envelope : CommonEvidenceEnvelope) :
    Json.wellFormed (.arr (sanitized library envelope).storedErrors) = true := by
  rw [Json.wellFormed]
  unfold sanitized
  split
  · have formed := wellFormed_storedErrors envelope.errors [] rfl
    rwa [List.append_nil] at formed
  · refine wellFormed_storedErrors envelope.errors _ ?_
    rw [Json.wellFormedItems, wellFormed_storedError]
    rfl

/-- A row is what its request says. -/
theorem equivalent_rowOf : Equivalent library request (rowOf library request id) := by
  have content : (Json.obj request.envelope.contentPresence.object).wellFormed = true := by
    simp [ContentPresence.object, Json.wellFormed, Json.wellFormedMembers]
  have numbers : (Json.obj request.envelope.numericPresence.object).wellFormed = true := by
    simp [NumericPresence.object, Json.wellFormed, Json.wellFormedMembers]
  simp only [Equivalent, equivalent, rowOf, evidenceValues, beq_self_eq_true,
    Bool.and_true, Json.eq_refl _ content, Json.eq_refl _ numbers,
    Json.eq_refl _ (wellFormed_texts _), Json.eq_refl _ (wellFormed_sanitized _)]

/-- A row that shares a key with a request says what it says, or is the only one that does. -/
theorem Equivalent.eq_of_shares {rows : List EvidenceItem} (consistent : Consistent rows)
    (here : row ∈ rows) (there : found ∈ rows) (same : Equivalent library request row)
    (shares : Shares request found) : row = found := by
  refine consistent.eq_of_clashes here there (clashes_iff.2 (.inr ?_))
  obtain ⟨provider, hash, identity⟩ := same.keys
  refine ⟨provider.trans shares.1.symm, ?_⟩
  rcases shares.2 with sameHash | ⟨text, foundText, requestText⟩
  · exact .inl (hash.trans sameHash.symm)
  · exact .inr ⟨text, identity.trans requestText, foundText⟩

/-- What is answered of a row that is found by one of its keys. -/
def answerTo (library : StandardLibrary) (request : EvidenceWriteRequest) (row : EvidenceItem) :
    EvidenceWriteOutcome :=
  if row.providerItemHash ≠ request.envelope.providerItemHash.getD "" then
    conflictOutcome request "provider_item_id_conflict"
  else answerOf request (rowOf library request) row

theorem answerTo_equivalent (same : Equivalent library request row) :
    answerTo library request row = existingOutcome request row := by
  have holds : equivalent row (rowOf library request row.id) = true := same
  rw [answerTo, if_neg (not_not_intro same.keys.2.1), answerOf, if_pos holds]

theorem answerTo_conflicting (different : ¬ Equivalent library request row) :
    answerTo library request row = conflictOutcome request (conflictCode request row) := by
  unfold answerTo conflictCode
  by_cases hash : row.providerItemHash = request.envelope.providerItemHash.getD ""
  · have apart : ¬ equivalent row (rowOf library request row.id) = true := different
    rw [if_neg (not_not_intro hash), if_pos hash, answerOf, if_neg apart]
  · rw [if_pos hash, if_neg hash]

end Rows

/-! ### What the others leave -/

/-- The statement inserts. -/
def WriteOp.inserts : WriteOp → Bool
  | insert _ => true
  | _ => false

/-- The log of a part of a transaction. -/
abbrev WriteLog : Type := List (Entry (.raising WriteOp.Answer DbError) Session)

/-- The database has failed at a statement. -/
def Disturbed (log : WriteLog) : Prop := ∃ entry ∈ log, entry.reply = .error .failed

/-- **What is there stays**: rows as they are, and what a raw item, an account or a content item is
of. -/
structure Later (session session' : Session) : Prop where
  rows : session.visible.evidenceItems ⊆ session'.visible.evidenceItems
  consistent : Consistent session'.visible.evidenceItems
  rawItems : ∀ id found, session.rawProvenance id = some found →
    session'.rawProvenance id = some found
  accounts : ∀ id found, session.accountSourceId id = some found →
    session'.accountSourceId id = some found
  contentItems : ∀ id found, session.contentProvenance id = some found →
    session'.contentProvenance id = some found

section Later

variable {first second third : Session} {request : EvidenceWriteRequest} {row : EvidenceItem}

theorem Later.refl (consistent : Consistent first.visible.evidenceItems) : Later first first :=
  ⟨fun _ => id, consistent, fun _ _ => id, fun _ _ => id, fun _ _ => id⟩

theorem Later.trans (early : Later first second) (late : Later second third) : Later first third where
  rows := fun _ member => late.rows (early.rows member)
  consistent := late.consistent
  rawItems := fun id found held => late.rawItems id found (early.rawItems id found held)
  accounts := fun id found held => late.accounts id found (early.accounts id found held)
  contentItems := fun id found held => late.contentItems id found (early.contentItems id found held)

theorem Others.later (others : Others first second) : Later first second where
  rows := by
    intro row member
    rcases List.mem_append.1 member with stored | own
    · exact List.mem_append.2 (.inl (others.rows stored))
    · exact List.mem_append.2 (.inr (others.pending.symm ▸ own))
  consistent := others.consistent
  rawItems := others.rawItems
  accounts := others.accounts
  contentItems := others.contentItems

/-- A row that clashes with none is inserted. -/
theorem Later.inserted (consistent : Consistent first.visible.evidenceItems)
    (apart : ∀ other ∈ first.visible.evidenceItems, clashes other row = false) :
    Later first { first with pending := first.pending ++ [row] } where
  rows := by
    intro other member
    rcases List.mem_append.1 member with stored | own
    · exact List.mem_append.2 (.inl stored)
    · exact List.mem_append.2 (.inr (List.mem_append.2 (.inl own)))
  consistent := by
    have whole := consistent.append apart
    show Consistent (first.store.evidenceItems ++ (first.pending ++ [row]))
    rw [← List.append_assoc]
    exact whole
  rawItems := fun _ _ => id
  accounts := fun _ _ => id
  contentItems := fun _ _ => id

theorem Agrees.later (agrees : Agrees first request) (later : Later first second) :
    Agrees second request where
  raw := later.rawItems _ _ agrees.raw
  account := fun accountId given => later.accounts _ _ (agrees.account accountId given)
  content := fun contentItemId given => later.contentItems _ _ (agrees.content contentItemId given)

theorem Written.later (written : Written library first request row) (later : Later first second) :
    Written library second request row :=
  { written with
    member := later.rows written.member
    agrees := written.agrees.later later }

end Later

/-! ### Statements that read -/

/-- What a part of a transaction that only reads leaves. -/
structure ReadsOnly (session : Session) (log : WriteLog) (session' : Session) : Prop where
  later : Later session session'
  pending : session'.pending = session.pending
  quiet : ∀ entry ∈ log, entry.op.inserts = false

theorem ReadsOnly.trans {first second third : Session} {early late : WriteLog}
    (before : ReadsOnly first early second) (after : ReadsOnly second late third) :
    ReadsOnly first (early ++ late) third where
  later := before.later.trans after.later
  pending := after.pending.trans before.pending
  quiet := by
    intro entry member
    rcases List.mem_append.1 member with inside | inside
    · exact before.quiet entry inside
    · exact after.quiet entry inside

/-- **A program that reads**, and what holds of its value where it ends. It raises where the database
fails, and only there. -/
def ReadsTo (breaks : Store → EvidenceItem → Prop) {α : Type} (session : Session)
    (program : WriteProgram α) (holds : Session → α → Prop) : Prop :=
  (setting breaks).EnsuresE session program fun log session' result =>
    ReadsOnly session log session' ∧
      match result with
      | .ok value => holds session' value
      | .error raised => raised = .failed ∧ Disturbed log

section ReadsTo

variable {α β : Type} {session : Session}

theorem readsTo_pure {value : α} {holds : Session → α → Prop}
    (consistent : Consistent session.visible.evidenceItems) (held : holds session value) :
    ReadsTo breaks session (pure value) holds :=
  Setting.ensuresE_pure ⟨⟨.refl consistent, rfl, by simp⟩, held⟩

/-- A statement that reads is answered with what is there. -/
theorem readsTo_ask {op : WriteOp} (reads : op.inserts = false) :
    ReadsTo breaks session (EvidenceWriteRepository.ask op) fun session' answer =>
      session'.read op = some answer := by
  refine Setting.ensuresE_request fun before reply after others performs => ?_
  cases performs with
  | read answers =>
      refine ⟨⟨others.later, others.pending, ?_⟩, answers⟩
      intro entry member
      obtain rfl := List.mem_singleton.1 member
      exact reads
  | inserted | refused => exact absurd reads nofun
  | failed =>
      refine ⟨⟨others.later, others.pending, ?_⟩, rfl, ⟨_, List.mem_singleton_self _, rfl⟩⟩
      intro entry member
      obtain rfl := List.mem_singleton.1 member
      exact reads

/-- The second program reads on where the first ends. -/
theorem readsTo_bind {program : WriteProgram α} {next : α → WriteProgram β}
    {middle : Session → α → Prop} {holds : Session → β → Prop}
    (first : ReadsTo breaks session program middle)
    (second : ∀ session' value, Later session session' → middle session' value →
      ReadsTo breaks session' (next value) holds) :
    ReadsTo breaks session (program >>= next) holds := by
  refine Setting.ensuresE_bind (Setting.ensuresE_mono first ?_)
  rintro early between (raised | value) ⟨reads, held⟩
  · exact ⟨reads, held⟩
  · refine Setting.ensuresE_mono (second between value reads.later held) ?_
    rintro late last (raised | result) ⟨rest, ends⟩
    · obtain ⟨rfl, entry, member, failed⟩ := ends
      exact ⟨reads.trans rest, rfl, entry, List.mem_append_right _ member, failed⟩
    · exact ⟨reads.trans rest, ends⟩

theorem readsTo_mono {program : WriteProgram α} {holds weaker : Session → α → Prop}
    (reads : ReadsTo breaks session program holds)
    (implies : ∀ session' value, Later session session' → holds session' value →
      weaker session' value) : ReadsTo breaks session program weaker := by
  refine Setting.ensuresE_mono reads ?_
  rintro log last (raised | value) ⟨read, held⟩
  · exact ⟨read, held⟩
  · exact ⟨read, implies last value read.later held⟩

end ReadsTo

/-! ### The checks against the tables -/

section Checks

variable {session : Session} {request : EvidenceWriteRequest}

/-- No error is what agrees, and stays so; an error is what did not agree before. -/
def Checked (session : Session) (request : EvidenceWriteRequest) (part : Session → Prop)
    (session' : Session) (error : Option EvidenceWriteError) : Prop :=
  (error = none → part session') ∧ (error ≠ none → ¬ Agrees session request)

theorem readsTo_validateAccount (consistent : Consistent session.visible.evidenceItems) :
    ReadsTo breaks session (validateAccount request)
      (Checked session request fun session' => ∀ accountId,
        request.sourceAccountId = some accountId →
        session'.accountSourceId accountId = some request.sourceId) := by
  unfold validateAccount
  cases given : request.sourceAccountId with
  | none => exact readsTo_pure consistent ⟨nofun, fun some => absurd rfl some⟩
  | some accountId =>
      refine readsTo_bind (readsTo_ask rfl) fun session' answer later answers => ?_
      have found : session'.accountSourceId accountId = answer := Option.some.inj answers
      have agreeing (agrees : Agrees session request) : answer = some request.sourceId :=
        found.symm.trans ((agrees.later later).account accountId given)
      cases answer with
      | none =>
          refine readsTo_pure later.consistent ⟨nofun, fun _ agrees => ?_⟩
          exact absurd (agreeing agrees) nofun
      | some sourceId =>
          by_cases same : sourceId = request.sourceId
          · simp only [if_pos same]
            refine readsTo_pure later.consistent ⟨fun _ other other' => ?_, fun some => absurd rfl some⟩
            obtain rfl := Option.some.inj other'
            rw [found, same]
          · simp only [if_neg same]
            refine readsTo_pure later.consistent ⟨nofun, fun _ agrees => same ?_⟩
            exact Option.some.inj (agreeing agrees)

theorem readsTo_validateContent (consistent : Consistent session.visible.evidenceItems) :
    ReadsTo breaks session (validateContent request)
      (Checked session request fun session' => ∀ contentItemId,
        request.contentItemId = some contentItemId →
        session'.contentProvenance contentItemId =
          some ⟨request.sourceId, request.sourceAccountId, request.rawItemId⟩) := by
  unfold validateContent
  cases given : request.contentItemId with
  | none => exact readsTo_pure consistent ⟨nofun, fun some => absurd rfl some⟩
  | some contentItemId =>
      refine readsTo_bind (readsTo_ask rfl) fun session' answer later answers => ?_
      have found : session'.contentProvenance contentItemId = answer := Option.some.inj answers
      have agreeing (agrees : Agrees session request) :
          answer = some ⟨request.sourceId, request.sourceAccountId, request.rawItemId⟩ :=
        found.symm.trans ((agrees.later later).content contentItemId given)
      cases answer with
      | none =>
          refine readsTo_pure later.consistent ⟨nofun, fun _ agrees => ?_⟩
          exact absurd (agreeing agrees) nofun
      | some content =>
          by_cases same :
              content = ⟨request.sourceId, request.sourceAccountId, request.rawItemId⟩
          · simp only [if_pos same]
            refine readsTo_pure later.consistent ⟨fun _ other other' => ?_, fun some => absurd rfl some⟩
            obtain rfl := Option.some.inj other'
            rw [found, same]
          · simp only [if_neg same]
            refine readsTo_pure later.consistent ⟨nofun, fun _ agrees => same ?_⟩
            exact Option.some.inj (agreeing agrees)

/-- **The provenance**: a request without an error agrees with the tables. -/
theorem readsTo_validateProvenance :
    ReadsTo breaks session (validateProvenance request)
      (Checked session request fun session' => Agrees session' request) := by
  refine readsTo_bind (readsTo_ask rfl) fun first answer later answers => ?_
  have found : first.rawProvenance request.rawItemId = answer := Option.some.inj answers
  have agreeing (agrees : Agrees session request) :
      answer = some ⟨request.sourceId, request.sourceAccountId⟩ :=
    found.symm.trans (agrees.later later).raw
  cases answer with
  | none =>
      refine readsTo_pure later.consistent ⟨nofun, fun _ agrees => ?_⟩
      exact absurd (agreeing agrees) nofun
  | some raw =>
      by_cases same : raw = ⟨request.sourceId, request.sourceAccountId⟩
      · simp only [if_pos same]
        refine readsTo_bind (readsTo_validateAccount later.consistent) ?_
        rintro second (_ | error) onward ⟨passes, fails⟩
        · refine readsTo_mono (readsTo_validateContent onward.consistent) ?_
          rintro third error last ⟨whole, partly⟩
          refine ⟨fun none => ⟨?_, ?_, whole none⟩, fun some agrees => ?_⟩
          · exact (onward.trans last).rawItems _ _ (found.trans (congrArg some same))
          · exact fun accountId given => last.accounts _ _ (passes rfl accountId given)
          · exact partly some (agrees.later (later.trans onward))
        · refine readsTo_pure onward.consistent ⟨nofun, fun _ agrees => ?_⟩
          exact fails nofun (agrees.later later)
      · simp only [if_neg same]
        refine readsTo_pure later.consistent ⟨nofun, fun _ agrees => same ?_⟩
        exact Option.some.inj (agreeing agrees)

/-- What has been looked for: nothing that was there shares a key, or what is answered is of a row that
does. -/
def Classified (library : StandardLibrary) (session : Session) (request : EvidenceWriteRequest)
    (session' : Session) : Option EvidenceWriteOutcome → Prop
  | none => ∀ row ∈ session.visible.evidenceItems, ¬ Shares request row
  | some outcome => ∃ row ∈ session'.visible.evidenceItems, Shares request row ∧
      outcome = answerTo library request row

/-- **The classification.** -/
theorem readsTo_classifyExisting :
    ReadsTo breaks session (classifyExisting request (rowOf library request))
      (Classified library session request) := by
  refine readsTo_bind (readsTo_ask rfl) fun first byHash later answers => ?_
  have looked := Option.some.inj answers
  cases byHash with
  | some row =>
      have keys : row.provider = request.envelope.provider.value ∧
          row.providerItemHash = request.envelope.providerItemHash.getD "" := by
        simpa using List.find?_some looked
      refine readsTo_pure later.consistent ⟨row, List.mem_of_find?_eq_some looked, ?_, ?_⟩
      · exact ⟨keys.1, .inl keys.2⟩
      · rw [answerTo, if_neg (not_not_intro keys.2)]
  | none =>
      have fresh (row : EvidenceItem) (member : row ∈ session.visible.evidenceItems)
          (shares : Shares request row) :
          ∃ text, row.providerItemId = some text ∧ request.envelope.providerItemId = some text := by
        refine shares.2.resolve_left fun hash => ?_
        exact List.find?_eq_none.1 looked row (later.rows member)
          (decide_eq_true ⟨shares.1, hash⟩)
      cases given : request.envelope.providerItemId with
      | none =>
          have nothing : ReadsTo breaks first (pure none)
              fun _ (found : Option EvidenceItem) => found = none :=
            readsTo_pure later.consistent rfl
          refine readsTo_bind nothing ?_
          rintro second found onward rfl
          refine readsTo_pure onward.consistent fun row member shares => ?_
          obtain ⟨text, -, given'⟩ := fresh row member shares
          exact absurd (given.symm.trans given') nofun
      | some itemId =>
          refine readsTo_bind (readsTo_ask rfl) fun second byId onward answers' => ?_
          have looked' := Option.some.inj answers'
          cases byId with
          | none =>
              refine readsTo_pure onward.consistent fun row member shares => ?_
              obtain ⟨text, held, given'⟩ := fresh row member shares
              obtain rfl := Option.some.inj (given.symm.trans given')
              exact List.find?_eq_none.1 looked' row (onward.rows (later.rows member))
                (decide_eq_true ⟨shares.1, held⟩)
          | some row =>
              have keys : row.provider = request.envelope.provider.value ∧
                  row.providerItemId = some itemId := by
                simpa using List.find?_some looked'
              have shares : Shares request row := ⟨keys.1, .inr ⟨itemId, keys.2, given⟩⟩
              have member := List.mem_of_find?_eq_some looked'
              by_cases hash : row.providerItemHash = request.envelope.providerItemHash.getD ""
              · simp only [hash, ne_eq, not_true_eq_false, if_false]
                refine readsTo_pure onward.consistent ⟨row, member, shares, ?_⟩
                rw [answerTo, if_neg (not_not_intro hash)]
              · simp only [ne_eq, hash, not_false_eq_true, if_true]
                refine readsTo_pure onward.consistent ⟨row, member, shares, ?_⟩
                rw [answerTo, if_pos hash]

end Checks

/-! ### One request -/

/-- The states in which a request may have found a row: where it begins, and where it inserts. -/
def Looked (session : Session) (log : WriteLog) (seen : Session) : Prop :=
  seen = session ∨ ∃ entry ∈ log, entry.op.inserts = true ∧ entry.before = seen

/-- **What becomes of a request**, beginning with this state. -/
structure Settles (library : StandardLibrary) (session : Session) (request : EvidenceWriteRequest)
    (log : WriteLog) (session' : Session) (result : Except DbError EvidenceWriteOutcome) : Prop where
  raises : ∀ raised, result = .error raised → raised = .failed ∧ Disturbed log
  later : Later session session'
  stores : session'.pending = session.pending ∨ ∃ id,
    session'.pending = session.pending ++ [rowOf library request id] ∧
      Accepted library request ∧ Agrees session' request ∧
      result = .ok (writtenOutcome request (sanitized library request.envelope) id)
  finds : ∀ seen, Looked session log seen → ∀ row ∈ seen.visible.evidenceItems,
    Shares request row → session'.pending = session.pending ∧
      (¬ Disturbed log → Accepted library request → Agrees session request →
        ∃ found ∈ session'.visible.evidenceItems, Shares request found ∧
          result = .ok (answerTo library request found))
  present : ∀ seen, Looked session log seen → Later seen session'
  invalid : ∀ outcome, result = .ok outcome → outcome.status = .invalid →
    Accepted library request → ¬ Agrees session request
  rejects : ¬ Disturbed log → ¬ (Accepted library request ∧ Agrees session' request) →
    ∃ outcome, result = .ok outcome ∧ outcome.status = .invalid

section Settles

variable {session middle last : Session} {request : EvidenceWriteRequest} {log rest : WriteLog}
  {result : Except DbError EvidenceWriteOutcome}

theorem looked_of_reads {seen : Session} (reads : ReadsOnly session log middle)
    (looked : Looked session log seen) : seen = session := by
  rcases looked with here | ⟨entry, member, inserts, -⟩
  · exact here
  · exact absurd ((reads.quiet entry member).symm.trans inserts) Bool.false_ne_true

/-- A request that has only read and raises. -/
theorem Settles.raised (reads : ReadsOnly session log middle) (disturbed : Disturbed log) :
    Settles library session request log middle (.error .failed) where
  raises := by
    rintro raised ⟨⟩
    exact ⟨rfl, disturbed⟩
  later := reads.later
  stores := .inl reads.pending
  finds := fun _ _ _ _ _ => ⟨reads.pending, fun calm => absurd disturbed calm⟩
  present := fun _ looked => looked_of_reads reads looked ▸ reads.later
  invalid := nofun
  rejects := fun calm => absurd disturbed calm

/-- A request that is refused. -/
theorem Settles.refused (reads : ReadsOnly session log middle) {outcome : EvidenceWriteOutcome}
    (invalid : outcome.status = .invalid)
    (refused : Accepted library request → ¬ Agrees session request) :
    Settles library session request log middle (.ok outcome) where
  raises := nofun
  later := reads.later
  stores := .inl reads.pending
  finds := fun _ _ _ _ _ => ⟨reads.pending, fun _ accepted agrees => absurd agrees (refused accepted)⟩
  present := fun _ looked => looked_of_reads reads looked ▸ reads.later
  invalid := fun _ _ _ => refused
  rejects := fun _ _ => ⟨outcome, rfl, invalid⟩

theorem answerTo_failed (row : EvidenceItem) : (answerTo library request row).status ≠ .invalid := by
  by_cases same : Equivalent library request row
  · rw [answerTo_equivalent same]
    nofun
  · rw [answerTo_conflicting same]
    nofun

/-- A request that finds a row. -/
theorem Settles.found (reads : ReadsOnly session log middle) (accepted : Accepted library request)
    (agrees : Agrees middle request) {row : EvidenceItem}
    (member : row ∈ middle.visible.evidenceItems) (shares : Shares request row) :
    Settles library session request log middle (.ok (answerTo library request row)) where
  raises := nofun
  later := reads.later
  stores := .inl reads.pending
  finds := fun _ _ _ _ _ => ⟨reads.pending, fun _ _ _ => ⟨row, member, shares, rfl⟩⟩
  present := fun _ looked => looked_of_reads reads looked ▸ reads.later
  invalid := by
    rintro outcome ⟨⟩ invalid
    exact absurd invalid (answerTo_failed row)
  rejects := fun _ never => absurd ⟨accepted, agrees⟩ never

/-- What has been looked at after what is read. -/
theorem looked_of_append {seen : Session} (reads : ReadsOnly session log middle)
    (looked : Looked session (log ++ rest) seen) : seen = session ∨ Looked middle rest seen := by
  rcases looked with here | ⟨entry, member, inserts, before⟩
  · exact .inl here
  · rcases List.mem_append.1 member with early | late
    · exact absurd ((reads.quiet entry early).symm.trans inserts) Bool.false_ne_true
    · exact .inr (.inr ⟨entry, late, inserts, before⟩)

/-- What is read before a request goes on belongs to what becomes of it. -/
theorem Settles.prepend (reads : ReadsOnly session log middle)
    (fresh : ∀ row ∈ session.visible.evidenceItems, ¬ Shares request row)
    (settles : Settles library middle request rest last result) :
    Settles library session request (log ++ rest) last result where
  raises := by
    intro raised same
    obtain ⟨failed, entry, member, disturbs⟩ := settles.raises raised same
    exact ⟨failed, entry, List.mem_append_right _ member, disturbs⟩
  later := reads.later.trans settles.later
  stores := reads.pending ▸ settles.stores
  finds := by
    intro seen looked row member shares
    rcases looked_of_append reads looked with rfl | looked
    · exact absurd shares (fresh row member)
    · obtain ⟨pending, found⟩ := settles.finds seen looked row member shares
      refine ⟨pending.trans reads.pending, fun calm accepted agrees => ?_⟩
      refine found (fun disturbed => calm ?_) accepted (agrees.later reads.later)
      obtain ⟨entry, member, disturbs⟩ := disturbed
      exact ⟨entry, List.mem_append_right _ member, disturbs⟩
  present := by
    intro seen looked
    rcases looked_of_append reads looked with rfl | looked
    · exact reads.later.trans settles.later
    · exact settles.present seen looked
  invalid := fun outcome same invalid accepted agrees =>
    settles.invalid outcome same invalid accepted (agrees.later reads.later)
  rejects := by
    intro calm never
    refine settles.rejects (fun disturbed => calm ?_) never
    obtain ⟨entry, member, disturbs⟩ := disturbed
    exact ⟨entry, List.mem_append_right _ member, disturbs⟩

/-- A row that shares a key with a request clashes with its row. -/
theorem Shares.clashes {row : EvidenceItem} {id : Uuid} (shares : Shares request row) :
    clashes row (rowOf library request id) = true :=
  clashes_iff.2 (.inr shares)

/-- **The insertion**, and what is found where it is refused. -/
theorem settles_insertOrClassify (accepted : Accepted library request)
    (agrees : Agrees session request) :
    (setting breaks).EnsuresE session
      (insertOrClassify request (sanitized library request.envelope))
      (Settles library session request) := by
  refine Setting.ensuresE_bind (Setting.ensuresE_attempt (Setting.ensuresE_request ?_))
  intro before reply after others performs
  have later := others.later
  have pending := others.pending
  -- a row that has been looked at is there when the row is inserted
  have there {seen : Session} {values : Uuid → EvidenceItem} {reply : Except DbError Uuid}
      {rest : WriteLog} (quiet : ∀ entry ∈ rest, entry.op.inserts = false)
      (looked : Looked session (⟨before, .insert values, reply⟩ :: rest) seen) :
      Later seen before := by
    rcases looked with rfl | ⟨entry, member, inserts, rfl⟩
    · exact later
    · rcases List.mem_cons.1 member with rfl | member
      · exact .refl later.consistent
      · exact absurd ((quiet entry member).symm.trans inserts) Bool.false_ne_true
  cases performs with
  | read answers => exact absurd answers nofun
  | @inserted _ id store sound accepts =>
      have apart := insertEvidence_eq_ok accepts
      have inserted := Later.inserted later.consistent apart
      refine Setting.ensuresE_pure
        { raises := nofun
          later := later.trans inserted
          stores := .inr ⟨id, by rw [← pending]; rfl, accepted, agrees.later (later.trans inserted), rfl⟩
          finds := fun seen looked row member shares => ?_
          present := fun seen looked => (there (by simp) looked).trans inserted
          invalid := ?_
          rejects := fun _ never => absurd ⟨accepted, agrees.later (later.trans inserted)⟩ never }
      · have clear := apart row ((there (by simp) looked).rows member)
        exact absurd (clear.symm.trans shares.clashes) Bool.false_ne_true
      · rintro outcome ⟨⟩ invalid
        revert invalid
        show (if _ then EvidenceWriteStatus.blocked else .inserted) = .invalid → _
        split <;> nofun
  | refused reason =>
      refine Setting.ensuresE_bind (Setting.ensuresE_mono readsTo_classifyExisting ?_)
      rintro log middle (raised | none | outcome) ⟨reads, ends⟩
      · obtain ⟨rfl, entry, member, disturbs⟩ := ends
        exact
          { raises := by
              rintro raised ⟨⟩
              exact ⟨rfl, entry, List.mem_cons_of_mem _ member, disturbs⟩
            later := later.trans reads.later
            stores := .inl (reads.pending.trans pending)
            finds := fun _ _ _ _ _ => ⟨reads.pending.trans pending, fun calm =>
              absurd ⟨entry, List.mem_cons_of_mem _ member, disturbs⟩ calm⟩
            present := fun seen looked => (there reads.quiet looked).trans reads.later
            invalid := nofun
            rejects := fun calm => absurd ⟨entry, List.mem_cons_of_mem _ member, disturbs⟩ calm }
      · -- nothing that was there when the row was refused shares a key
        refine Setting.ensuresE_pure
          { raises := nofun
            later := later.trans reads.later
            stores := .inl (reads.pending.trans pending)
            finds := fun seen looked row member shares => ?_
            present := fun seen looked => (there reads.quiet (by simpa using looked)).trans reads.later
            invalid := ?_
            rejects := fun _ never =>
              absurd ⟨accepted, agrees.later (later.trans reads.later)⟩ never }
        · have seen := (there reads.quiet (by simpa using looked)).rows member
          exact absurd shares (ends row seen)
        · rintro outcome ⟨⟩ invalid
          exact absurd invalid nofun
      · obtain ⟨row, member, shares, rfl⟩ := ends
        refine Setting.ensuresE_pure
          { raises := nofun
            later := later.trans reads.later
            stores := .inl (reads.pending.trans pending)
            finds := fun _ _ _ _ _ =>
              ⟨reads.pending.trans pending, fun _ _ _ => ⟨row, member, shares, rfl⟩⟩
            present := fun seen looked => (there reads.quiet (by simpa using looked)).trans reads.later
            invalid := ?_
            rejects := fun _ never =>
              absurd ⟨accepted, agrees.later (later.trans reads.later)⟩ never }
        rintro outcome ⟨⟩ invalid
        exact absurd invalid (answerTo_failed row)
  | failed =>
      refine Setting.ensuresE_pure
        { raises := nofun
          later := later
          stores := .inl pending
          finds := fun _ _ _ _ _ => ⟨pending, fun calm => absurd ⟨_, List.mem_cons_self, rfl⟩ calm⟩
          present := fun seen looked => there (by simp) looked
          invalid := ?_
          rejects := fun _ never => absurd ⟨accepted, agrees.later later⟩ never }
      rintro outcome ⟨⟩ invalid
      exact absurd invalid nofun

/-- **One request**, among others. -/
theorem settles_writeOne (consistent : Consistent session.visible.evidenceItems) :
    (setting breaks).EnsuresE session (writeOne library request)
      (Settles library session request) := by
  unfold writeOne
  dsimp only
  split
  · next error errors checked =>
      refine Setting.ensuresE_pure (.refused ⟨.refl consistent, rfl, by simp⟩ rfl fun accepted => ?_)
      exact absurd (checked.symm.trans accepted) nofun
  · next checked =>
      refine Setting.ensuresE_bind (Setting.ensuresE_mono readsTo_validateProvenance ?_)
      rintro early first (raised | none | error) ⟨reads, ends⟩
      · obtain ⟨rfl, disturbed⟩ := ends
        exact .raised reads disturbed
      · have agrees := ends.1 rfl
        refine Setting.ensuresE_bind (Setting.ensuresE_mono readsTo_classifyExisting ?_)
        rintro late second (raised | none | outcome) ⟨reads', ends'⟩
        · obtain ⟨rfl, entry, member, disturbs⟩ := ends'
          exact .raised (reads.trans reads') ⟨entry, List.mem_append_right _ member, disturbs⟩
        · refine Setting.ensuresE_mono (settles_insertOrClassify checked (agrees.later reads'.later)) ?_
          intro rest last result settles
          rw [← List.append_assoc]
          refine settles.prepend (reads.trans reads') fun row member => ends' row ?_
          exact reads.later.rows member
        · obtain ⟨row, member, shares, rfl⟩ := ends'
          refine Setting.ensuresE_pure ?_
          rw [List.append_nil]
          exact .found (reads.trans reads') checked (agrees.later reads'.later) member shares
      · refine Setting.ensuresE_pure ?_
        rw [List.append_nil]
        exact .refused reads rfl fun _ => ends.2 (Option.some_ne_none error)

end Settles

/-! ### Transactions -/

/-- What has been written, each request with its row. -/
abbrev History : Type := List (EvidenceWriteRequest × EvidenceItem)

/-- **The courses of a session**, with what it has written: others commit, a request is written among
them, and the transaction is committed or rolled back. -/
inductive Reaches (library : StandardLibrary) (breaks : Store → EvidenceItem → Prop) :
    Session → History → Prop where
  | started {store : Store} (consistent : Consistent store.evidenceItems) :
      Reaches library breaks ⟨store, []⟩ []
  | others {session session' : Session} {history : History}
      (reached : Reaches library breaks session history) (others : Others session session') :
      Reaches library breaks session' history
  | wrote {session session' : Session} {history : History} {request : EvidenceWriteRequest}
      {log : WriteLog} {result : Except DbError EvidenceWriteOutcome}
      (reached : Reaches library breaks session history)
      (run : (setting breaks).Runs session (writeOne library request).run log session' result) :
      Reaches library breaks session' (history ++
        (session'.pending.drop session.pending.length).map fun row => (request, row))
  | committed {session : Session} {history : History}
      (reached : Reaches library breaks session history) :
      Reaches library breaks session.commit history
  | rolledBack {session : Session} {history : History}
      (reached : Reaches library breaks session history) :
      Reaches library breaks session.rollback
        (history.filter fun noted => noted.2 ∈ session.store.evidenceItems)

section Transactions

variable {session session' : Session} {history : History} {request : EvidenceWriteRequest}
  {row : EvidenceItem} {log : WriteLog} {result : Except DbError EvidenceWriteOutcome}

/-- The row a request has just stored is a row of it. -/
theorem written_of_stored {id : Uuid}
    (stored : session'.pending = session.pending ++ [rowOf library request id])
    (accepted : Accepted library request) (agrees : Agrees session' request) :
    Written library session' request (rowOf library request id) where
  member := by
    refine List.mem_append_right _ ?_
    rw [stored]
    exact List.mem_append_right _ (List.mem_singleton_self _)
  same := rfl
  accepted := accepted
  agrees := agrees
  safe := rowOf_safe

theorem visible_commit : session.commit.visible = session.visible := by
  simp [Session.commit, Session.visible]

theorem visible_rollback :
    session.rollback.visible.evidenceItems = session.store.evidenceItems :=
  List.append_nil _

/-- **In every course** the unique indexes hold, and what has been written is there. -/
theorem Reaches.sound (reached : Reaches library breaks session history) :
    Consistent session.visible.evidenceItems ∧
      ∀ noted ∈ history, Written library session noted.1 noted.2 := by
  induction reached with
  | started consistent => exact ⟨by simpa [Session.visible] using consistent, by simp⟩
  | others reached others ih =>
      exact ⟨others.consistent, fun noted member => (ih.2 noted member).later others.later⟩
  | wrote reached run ih =>
      have settles := settles_writeOne ih.1 _ _ _ run
      refine ⟨settles.later.consistent, fun noted member => ?_⟩
      rcases List.mem_append.1 member with old | new
      · exact (ih.2 noted old).later settles.later
      · rcases settles.stores with same | ⟨id, stored, accepted, agrees, -⟩
        · simp [same] at new
        · rw [stored, List.drop_left] at new
          obtain rfl := List.mem_singleton.1 new
          exact written_of_stored stored accepted agrees
  | committed reached ih =>
      rw [visible_commit]
      refine ⟨ih.1, fun noted member => ?_⟩
      have held := ih.2 noted member
      exact { held with
        member := by
          rw [visible_commit]
          exact held.member
        agrees := ⟨held.agrees.raw, held.agrees.account, held.agrees.content⟩ }
  | rolledBack reached ih =>
      refine ⟨?_, fun noted member => ?_⟩
      · rw [visible_rollback]
        exact (List.pairwise_append.1 ih.1).1
      · obtain ⟨inside, stays⟩ := List.mem_filter.1 member
        have held := ih.2 noted inside
        exact { held with
          member := by
            rw [visible_rollback]
            exact of_decide_eq_true stays
          agrees := ⟨held.agrees.raw, held.agrees.account, held.agrees.content⟩ }

/-- **What a request does**, in a course that has written these. -/
structure Settled (library : StandardLibrary) (session : Session) (history : History)
    (request : EvidenceWriteRequest) (log : WriteLog) (session' : Session)
    (result : Except DbError EvidenceWriteOutcome) : Prop where
  /-- What is raised is a failure of the database, and no constraint. -/
  raises : ∀ raised, result = .error raised → raised = .failed ∧ Disturbed log
  /-- No row is changed, and the unique indexes hold. -/
  kept : session.visible.evidenceItems ⊆ session'.visible.evidenceItems
  consistent : Consistent session'.visible.evidenceItems
  /-- At most one row is stored, as the request says, and it is answered with its identifier. -/
  stores : session'.pending = session.pending ∨ ∃ row,
    session'.pending = session.pending ++ [row] ∧ Written library session' request row ∧
      result = .ok (writtenOutcome request (sanitized library request.envelope) row.id)
  /-- What has been written stays as it was requested. -/
  written : ∀ noted ∈ history, Written library session' noted.1 noted.2
  /-- A request that has been written finds its row. -/
  repeated : ∀ row, (request, row) ∈ history → session'.pending = session.pending ∧
    (¬ Disturbed log → result = .ok (existingOutcome request row))
  /-- So does a request that says the same as a row that is there, or that is there before it can
  insert its own. -/
  equivalent : ∀ seen, Looked session log seen → ∀ row ∈ seen.visible.evidenceItems,
    Equivalent library request row → session'.pending = session.pending ∧
      (¬ Disturbed log → Accepted library request → Agrees session request →
        result = .ok (existingOutcome request row))
  /-- A request that shares a key with such a row and says something else is a conflict. -/
  conflicting : ∀ seen, Looked session log seen → ∀ row ∈ seen.visible.evidenceItems,
    Shares request row → ¬ Equivalent library request row → session'.pending = session.pending ∧
      (¬ Disturbed log → Accepted library request → Agrees session request →
        ∃ found ∈ session'.visible.evidenceItems, Shares request found ∧
          ¬ Equivalent library request found ∧
          result = .ok (conflictOutcome request (conflictCode request found)))
  /-- A request is invalid where its envelope or its provenance is. -/
  invalid : ∀ outcome, result = .ok outcome → outcome.status = .invalid →
    Accepted library request → ¬ Agrees session request
  /-- A request whose envelope or whose provenance is not accepted is answered as invalid, whatever
  it shares a key with. -/
  rejects : ¬ Disturbed log → ¬ (Accepted library request ∧ Agrees session' request) →
    ∃ outcome, result = .ok outcome ∧ outcome.status = .invalid

/-- **Evidence is written once, and never overwritten**, whatever the others commit. -/
theorem writeOne_settled (reached : Reaches library breaks session history)
    (run : (setting breaks).Runs session (writeOne library request).run log session' result) :
    Settled library session history request log session' result := by
  obtain ⟨consistent, stands⟩ := reached.sound
  have settles := settles_writeOne consistent _ _ _ run
  have same {seen : Session} (looked : Looked session log seen) {row : EvidenceItem}
      (member : row ∈ seen.visible.evidenceItems) (alike : Equivalent library request row) :
      session'.pending = session.pending ∧
        (¬ Disturbed log → Accepted library request → Agrees session request →
          result = .ok (existingOutcome request row)) := by
    obtain ⟨pending, finds⟩ := settles.finds seen looked row member alike.shares
    refine ⟨pending, fun calm accepted agrees => ?_⟩
    obtain ⟨found, there, shares, answers⟩ := finds calm accepted agrees
    have here := (settles.present seen looked).rows member
    obtain rfl := alike.eq_of_shares settles.later.consistent here there shares
    rw [answers, answerTo_equivalent alike]
  refine
    { raises := settles.raises
      kept := settles.later.rows
      consistent := settles.later.consistent
      stores := ?_
      written := fun noted member => (stands noted member).later settles.later
      repeated := fun row member => ?_
      equivalent := fun seen looked row => same looked
      conflicting := fun seen looked row member shares different => ?_
      invalid := settles.invalid
      rejects := settles.rejects }
  · rcases settles.stores with pending | ⟨id, stored, accepted, agrees, answers⟩
    · exact .inl pending
    · exact .inr ⟨_, stored, written_of_stored stored accepted agrees, answers⟩
  · have noted := stands _ member
    have alike : Equivalent library request row := by
      have fits := @equivalent_rowOf library request row.id
      rwa [← noted.same] at fits
    obtain ⟨pending, finds⟩ := same (.inl rfl) noted.member alike
    exact ⟨pending, fun calm => finds calm noted.accepted noted.agrees⟩
  · obtain ⟨pending, finds⟩ := settles.finds seen looked row member shares
    refine ⟨pending, fun calm accepted agrees => ?_⟩
    obtain ⟨found, there, shared, answers⟩ := finds calm accepted agrees
    have here := (settles.present seen looked).rows member
    have apart : ¬ Equivalent library request found := by
      intro alike
      obtain rfl := alike.eq_of_shares settles.later.consistent there here shares
      exact different alike
    exact ⟨found, there, shared, apart, answers.trans (congrArg _ (answerTo_conflicting apart))⟩

end Transactions

/-! ### A request that is written twice -/

/-- An envelope of news, with this hash. -/
def newsEnvelope (hash : String) : CommonEvidenceEnvelope where
  evidenceVersion := 1
  provider := .marketaux
  providerItemType := .marketauxNews
  sourceType := .news
  sourcePriority := none
  accessLevel := .linkOnly
  providerItemId := some "provider-item:1"
  providerItemHash := some hash
  canonicalSourceReference := none
  observedAt := (1700000000000000, 0)
  eventTime := some (1700000000000000, 0)
  entityRefs := []
  assetRefs := []
  topicRefs := []
  dedupCandidateKey := none
  evidenceKind := .news
  evidenceConfidence := none
  contentPresence := {}
  numericPresence := {}
  flags := { newsSignal := true }
  rawPayloadReference := some "https://example.com/?token=1"
  processingStatus := .validated
  errors := []

/-- A request of it, of this raw item. -/
def newsRequest (rawItemId : Uuid) : EvidenceWriteRequest where
  envelope := newsEnvelope "0123456789abcdef0123456789abcdef0123456789abcdef0123456789abcdef"
  sourceId := 1
  rawItemId := rawItemId
  sourceAccountId := none

/-- Tables with the raw item 7. -/
def rawStore : Store where
  sources := []
  accounts := []
  targets := []
  runs := []
  cursors := []
  rawItems := [⟨7, 1, none, 5, ⟨none, 0, none, none, none, none, "standard"⟩⟩]
  observations := []
  projections := []
  rejectedRows := []
  issued := 0
  supply := ⟨id, Function.injective_id⟩
  evidenceItems := []
  contentItems := []
  links := []

/-- The row of the request, whose reference is removed. -/
def newsRow : EvidenceItem := rowOf silentLibrary (newsRequest 7) 9

theorem newsRequest_accepted (rawItemId : Uuid) : Accepted silentLibrary (newsRequest rawItemId) := by
  show validateEvidenceEnvelope silentLibrary (validatedCopy (newsRequest 7).envelope
    (sanitized silentLibrary (newsRequest 7).envelope)) = []
  decide +kernel

/-- The others do nothing. -/
theorem others_refl {session : Session} (consistent : Consistent session.visible.evidenceItems) :
    Others session session :=
  ⟨fun _ => id, rfl, consistent, fun _ _ => id, fun _ _ => id, fun _ _ => id⟩

theorem rawStore_consistent : Consistent (Session.visible ⟨rawStore, []⟩).evidenceItems :=
  List.Pairwise.nil

theorem newsRow_consistent : Consistent (Session.visible ⟨rawStore, [newsRow]⟩).evidenceItems :=
  List.pairwise_singleton ..

/-- The request is written. -/
theorem news_written : ∃ log, (setting fun _ _ => False).Runs ⟨rawStore, []⟩
    (writeOne silentLibrary (newsRequest 7)).run log ⟨rawStore, [newsRow]⟩
    (.ok (writtenOutcome (newsRequest 7) (sanitized silentLibrary (newsRequest 7).envelope) 9)) := by
  have still := others_refl rawStore_consistent
  have passes : validateEvidenceEnvelope silentLibrary (validatedCopy (newsRequest 7).envelope
    (sanitized silentLibrary (newsRequest 7).envelope)) = [] := newsRequest_accepted 7
  unfold writeOne
  dsimp only
  rw [passes]
  exact ⟨_, .call still (.read rfl) (.call still (.read rfl) (.call still (.read rfl)
    (.call still (.inserted (fun breaks => breaks) rfl) .done)))⟩

/-- Nothing has failed where every statement has been answered. -/
theorem calm_of_all {log : WriteLog} (calm : ∀ entry ∈ log, entry.reply ≠ .error .failed) :
    ¬ Disturbed log :=
  fun ⟨entry, member, failed⟩ => calm entry member failed

/-- The request is written once more. -/
theorem news_repeated : ∃ log, (setting fun _ _ => False).Runs ⟨rawStore, [newsRow]⟩
    (writeOne silentLibrary (newsRequest 7)).run log ⟨rawStore, [newsRow]⟩
    (.ok (answerOf (newsRequest 7) (rowOf silentLibrary (newsRequest 7)) newsRow)) ∧
    ¬ Disturbed log := by
  have still := others_refl newsRow_consistent
  have passes : validateEvidenceEnvelope silentLibrary (validatedCopy (newsRequest 7).envelope
    (sanitized silentLibrary (newsRequest 7).envelope)) = [] := newsRequest_accepted 7
  unfold writeOne
  dsimp only
  rw [passes]
  refine ⟨_, .call still (.read rfl) (.call still (.read rfl) .done), calm_of_all ?_⟩
  simp

/-- Its row is found. -/
theorem writeOne_settled_news : ∃ log result,
    Settled silentLibrary ⟨rawStore, [newsRow]⟩ [(newsRequest 7, newsRow)] (newsRequest 7) log
      ⟨rawStore, [newsRow]⟩ result ∧ ¬ Disturbed log ∧
      result = .ok (existingOutcome (newsRequest 7) newsRow) := by
  obtain ⟨first, written⟩ := news_written
  obtain ⟨log, run, calm⟩ := news_repeated
  have settled := writeOne_settled (.wrote (.started rawStore_consistent) written) run
  exact ⟨log, _, settled, calm, (settled.repeated newsRow List.mem_cons_self).2 calm⟩

/-- A request of a raw item that is not there is invalid, though it has the hash of a row of another. -/
theorem conflicting_request_invalid : ¬ ∀ (session session' : Session) (history : History)
    (request : EvidenceWriteRequest) (log : WriteLog) (outcome : EvidenceWriteOutcome),
    Reaches silentLibrary (fun _ _ => False) session history →
    (setting fun _ _ => False).Runs session (writeOne silentLibrary request).run log session'
      (.ok outcome) →
    (∃ row ∈ session.visible.evidenceItems, Shares request row ∧
      ¬ Equivalent silentLibrary request row) → outcome.status = .failed := by
  intro claimed
  obtain ⟨first, written⟩ := news_written
  have still := others_refl newsRow_consistent
  have passes : validateEvidenceEnvelope silentLibrary (validatedCopy (newsRequest 8).envelope
    (sanitized silentLibrary (newsRequest 8).envelope)) = [] := newsRequest_accepted 8
  have run : ∃ log, (setting fun _ _ => False).Runs ⟨rawStore, [newsRow]⟩
      (writeOne silentLibrary (newsRequest 8)).run log ⟨rawStore, [newsRow]⟩
      (.ok (requestOutcome (newsRequest 8) .invalid none [referenceNotFound "raw_item_id" 8])) := by
    unfold writeOne
    dsimp only
    rw [passes]
    exact ⟨_, .call still (.read rfl) .done⟩
  obtain ⟨log, run⟩ := run
  have different : ¬ Equivalent silentLibrary (newsRequest 8) newsRow := by
    show ¬ equivalent newsRow (rowOf silentLibrary (newsRequest 8) 9) = true
    decide +kernel
  have invalid := claimed _ _ _ _ _ _ (.wrote (.started rawStore_consistent) written) run
    ⟨newsRow, List.mem_cons_self, ⟨rfl, .inl rfl⟩, different⟩
  exact absurd invalid nofun

end NewsCollect.Evidence
