/-
**The rows of a page, piece by piece.**

A page is read row by row, and each row adds to what has been read: a payload, the hash of a rejected
row, or nothing. So a list of rows may be cut into pieces that are read apart. The facts of a page are
its valid payloads, the first of each identity, and the same holds of them.

* `Adds`: a step that adds to what has been read; every step of the adapters is one.
* `readRows_append`: rows in two pieces.
* `deduplicate_eq_ok`: what is kept is the first payload of each identity.
* `Checked`, `factsOf_eq_ok`: the facts of a page.
-/

import NewsCollect.Library.Firsts
import NewsCollect.Proof.Watermarks

namespace NewsCollect.Providers

open Collection Firsts SafeProjection

/-! ### Steps that add -/

/-- Two readings, one behind the other. -/
def Rows.append (first second : Rows) : Rows :=
  ⟨first.payloads ++ second.payloads, first.rejected ++ second.rejected⟩

theorem Rows.append_assoc (first second third : Rows) :
    (first.append second).append third = first.append (second.append third) := by
  simp [Rows.append]

@[simp] theorem Rows.nil_append (rows : Rows) : Rows.append ⟨[], []⟩ rows = rows := rfl

@[simp] theorem Rows.append_nil (rows : Rows) : rows.append ⟨[], []⟩ = rows := by
  simp [Rows.append]

theorem Rows.keep_eq (rows : Rows) (payload : Object) :
    rows.keep payload = rows.append ⟨[payload], []⟩ := by
  simp [Rows.keep, Rows.append]

theorem Rows.reject_eq (rows : Rows) (hash : String) :
    rows.reject hash = rows.append ⟨[], [hash]⟩ := by
  simp [Rows.reject, Rows.append]

/-- What is read adds to what has been read, whatever that is. -/
def Adds (read : Rows → Result Rows) : Prop :=
  ∀ rows next, read rows = .ok next ↔ ∃ added, read ⟨[], []⟩ = .ok added ∧ next = rows.append added

theorem adds_append (added : Rows) : Adds fun rows => pure (rows.append added) := by
  intro rows next
  simp only [pure_eq_ok, Rows.nil_append, exists_eq_left']
  exact eq_comm

theorem adds_keep (payload : Object) : Adds fun rows => pure (rows.keep payload) := by
  simp only [Rows.keep_eq]
  exact adds_append _

theorem adds_reject (hash : String) : Adds fun rows => pure (rows.reject hash) := by
  simp only [Rows.reject_eq]
  exact adds_append _

theorem adds_nothing : Adds fun rows => pure rows := by
  intro rows next
  simp only [pure_eq_ok, exists_eq_left', Rows.append_nil]
  exact eq_comm

theorem adds_error (raised : PyError) : Adds fun _ => .error raised := by
  intro rows next
  simp

theorem adds_bind {β : Type} {first : Result β} {read : β → Rows → Result Rows}
    (each : ∀ value, Adds (read value)) :
    Adds fun rows => first >>= fun value => read value rows := by
  intro rows next
  cases first with
  | error raised => exact adds_error raised rows next
  | ok value => exact each value rows next

theorem adds_ite {condition : Prop} [Decidable condition] {read other : Rows → Result Rows}
    (yes : Adds read) (no : Adds other) :
    Adds fun rows => if condition then read rows else other rows := by
  by_cases holds : condition
  · simp only [if_pos holds]
    exact yes
  · simp only [if_neg holds]
    exact no

section Steps

variable {α : Type} {step : Rows → α → Result Rows} {rows next : Rows} {items first second : List α}

/-- The rows of these items. -/
def readRows (step : Rows → α → Result Rows) (items : List α) : Result Rows :=
  items.foldlM step ⟨[], []⟩

theorem foldlM_eq_ok (adds : ∀ item, Adds fun rows => step rows item) :
    items.foldlM step rows = .ok next ↔
      ∃ added, readRows step items = .ok added ∧ next = rows.append added := by
  induction items generalizing rows next with
  | nil =>
      show pure rows = Except.ok next ↔ ∃ added, pure _ = Except.ok added ∧ _
      simp only [pure_eq_ok, exists_eq_left', Rows.append_nil]
      exact eq_comm
  | cons item items ih =>
      rw [List.foldlM_cons, readRows, List.foldlM_cons]
      simp only [bind_eq_ok, ih]
      constructor
      · rintro ⟨middle, stepped, added, read, rfl⟩
        obtain ⟨front, stepped', rfl⟩ := (adds item _ _).1 stepped
        exact ⟨front.append added, ⟨front, stepped', added, read, rfl⟩, Rows.append_assoc _ _ _⟩
      · rintro ⟨_, ⟨front, stepped, added, read, rfl⟩, rfl⟩
        exact ⟨_, (adds item _ _).2 ⟨front, stepped, rfl⟩, added, read,
          (Rows.append_assoc _ _ _).symm⟩

/-- **Rows in two pieces.** -/
theorem readRows_append (adds : ∀ item, Adds fun rows => step rows item) :
    readRows step (first ++ second) = .ok next ↔
      ∃ front back, readRows step first = .ok front ∧ readRows step second = .ok back ∧
        next = front.append back := by
  rw [readRows, List.foldlM_append, bind_eq_ok]
  constructor
  · rintro ⟨front, read, rest⟩
    obtain ⟨back, read', rfl⟩ := (foldlM_eq_ok adds).1 rest
    exact ⟨front, back, read, read', rfl⟩
  · rintro ⟨front, back, read, read', rfl⟩
    exact ⟨front, read, (foldlM_eq_ok adds).2 ⟨back, read', rfl⟩⟩

end Steps

/-! ### The steps of the adapters -/

section Adapters

variable {rules : RowRules} {config : Object} {operation : String}

theorem adds_marketauxRow (row : Json) : Adds fun rows => marketauxRow rules config rows row := by
  cases row with
  | obj row =>
      unfold marketauxRow
      refine adds_bind fun sanitized => ?_
      cases sanitized with
      | some item => exact adds_keep _
      | none =>
          cases Object.get row "uuid" with
          | str identity => exact adds_bind fun _ => adds_bind fun hash => adds_reject hash
          | _ => exact adds_error _
  | _ => exact adds_error _

theorem adds_retailRow (row : Object) :
    Adds fun rows => retailRow rules operation config rows row := by
  unfold retailRow
  cases row.get "stateid" with
  | str geography =>
      cases row.get "sectorid" with
      | str sector =>
          cases row.get "period" with
          | str period =>
              exact adds_ite (adds_error _) (adds_ite adds_nothing (adds_ite
                (adds_bind fun hash => adds_reject hash) (adds_ite adds_nothing
                  (adds_bind fun series => adds_keep _))))
          | _ => exact adds_error _
      | _ => exact adds_error _
  | _ => exact adds_error _

theorem adds_rtoRow (row : Object) : Adds fun rows => rtoRow rules operation config rows row := by
  unfold rtoRow
  cases row.get "respondent" with
  | str region =>
      cases row.get "type" with
      | str metric =>
          cases row.get "period" with
          | str period =>
              exact adds_ite (adds_error _) (adds_ite adds_nothing (adds_ite
                (adds_bind fun hash => adds_reject hash) (adds_ite adds_nothing
                  (adds_bind fun series => adds_keep _))))
          | _ => exact adds_error _
      | _ => exact adds_error _
  | _ => exact adds_error _

theorem adds_eiaRow (row : Json) : Adds fun rows => eiaRow rules operation config rows row := by
  cases row with
  | obj row => exact adds_ite (adds_retailRow row) (adds_rtoRow row)
  | _ => exact adds_error _

theorem adds_checkPayload {library : StandardLibrary} {adapter : BreadthAdapter} (payload : Object) :
    Adds fun rows => adapter.checkPayload library rows payload := by
  unfold BreadthAdapter.checkPayload
  cases validateFactualPayload library adapter.provider adapter.operation 1 payload with
  | ok normal => exact adds_keep normal
  | error raised =>
      refine adds_ite ?_ (adds_error raised)
      cases payload.get "provider_item_id" with
      | str identity => exact adds_bind fun hash => adds_reject hash
      | _ => exact adds_error _

end Adapters

/-! ### The first of each identity -/

section Distinct

variable {rules : RowRules} {payload : Object} {payloads first second kept : List Object}

/-- The identity of a payload. -/
def identityOf (payload : Object) : String := strAt payload "provider_item_id"

/-- A payload that has an identity and a hash. -/
def Traceable (rules : RowRules) (payload : Object) : Prop :=
  ∃ digest, payload.get "provider_item_id" = .str (identityOf payload) ∧
    rules.canonicalHash payload = .ok digest

/-- **Payloads of which one may stand for another**: those of one identity have one hash. -/
structure Agreeing (rules : RowRules) (payloads : List Object) : Prop where
  traceable : ∀ payload ∈ payloads, Traceable rules payload
  agree : ∀ first ∈ payloads, ∀ second ∈ payloads, identityOf first = identityOf second →
    rules.canonicalHash first = rules.canonicalHash second

theorem Agreeing.subset (agreeing : Agreeing rules payloads) (inside : first ⊆ payloads) :
    Agreeing rules first where
  traceable payload member := agreeing.traceable payload (inside member)
  agree one member other member' := agreeing.agree one (inside member) other (inside member')

theorem identityOf_eq {identity : String} (named : payload.get "provider_item_id" = .str identity) :
    identityOf payload = identity := by
  rw [identityOf, strAt, named]
  rfl

/-- What is held of payloads: their identities and hashes. -/
structure HeldOf (rules : RowRules) (before : List Object) (held : List (String × String × Object)) :
    Prop where
  payloads : held.map (fun entry => entry.2.2) = before
  named : ∀ entry ∈ held, identityOf entry.2.2 = entry.1 ∧
    rules.canonicalHash entry.2.2 = .ok entry.2.1
  distinct : (before.map identityOf).Nodup

theorem HeldOf.lookup_none {before : List Object} {held : List (String × String × Object)}
    (holds : HeldOf rules before held) {identity : String} (absent : held.lookup identity = none) :
    identity ∉ before.map identityOf := by
  rw [← holds.payloads, List.map_map]
  intro member
  obtain ⟨entry, inside, same⟩ := List.mem_map.1 member
  have named : entry.1 = identity := (holds.named entry inside).1.symm.trans same
  have missing := List.lookup_eq_none_iff.1 absent entry inside
  rw [named] at missing
  simp at missing

theorem HeldOf.lookup_some {before : List Object} {held : List (String × String × Object)}
    (holds : HeldOf rules before held) {identity : String} {prior : String × Object}
    (found : held.lookup identity = some prior) :
    prior.2 ∈ before ∧ identityOf prior.2 = identity ∧ rules.canonicalHash prior.2 = .ok prior.1 := by
  obtain ⟨front, back, rfl, -⟩ := List.lookup_eq_some_iff.1 found
  have inside : (identity, prior) ∈ front ++ (identity, prior) :: back := by simp
  refine ⟨?_, holds.named _ inside⟩
  rw [← holds.payloads]
  exact List.mem_map_of_mem inside

theorem HeldOf.add {before : List Object} {held : List (String × String × Object)}
    (holds : HeldOf rules before held) {identity digest : String}
    (absent : held.lookup identity = none) (named : identityOf payload = identity)
    (hashed : rules.canonicalHash payload = .ok digest) :
    HeldOf rules (before ++ [payload]) (held ++ [(identity, digest, payload)]) where
  payloads := by rw [List.map_append, holds.payloads]; rfl
  named := by
    intro entry member
    rcases List.mem_append.1 member with old | new
    · exact holds.named entry old
    · obtain rfl := List.mem_singleton.1 new
      exact ⟨named, hashed⟩
  distinct := by
    rw [List.map_append, List.nodup_append]
    refine ⟨holds.distinct, List.nodup_singleton _, ?_⟩
    intro key member other single same
    obtain rfl := List.mem_singleton.1 single
    subst same
    exact holds.lookup_none absent (named ▸ member)

/-- What the loop keeps, and when. -/
def Keeps (rules : RowRules) (before payloads kept : List Object) : Prop :=
  (∀ payload ∈ payloads, Traceable rules payload) ∧
    (∀ first ∈ before ++ payloads, ∀ second ∈ payloads, identityOf first = identityOf second →
      rules.canonicalHash first = rules.canonicalHash second) ∧
    kept = before ++ fresh identityOf (before.map identityOf) (firsts identityOf payloads)

/-- A payload that is held already adds nothing. -/
theorem keeps_known {before rest : List Object} {prior : Object}
    (distinct : (before.map identityOf).Nodup) (known : prior ∈ before)
    (same : identityOf prior = identityOf payload)
    (hashed : rules.canonicalHash prior = rules.canonicalHash payload)
    (traceable : Traceable rules payload) :
    Keeps rules before (payload :: rest) kept ↔ Keeps rules before rest kept := by
  have taken : identityOf payload ∈ before.map identityOf := same ▸ List.mem_map_of_mem known
  have left : fresh identityOf (before.map identityOf) (firsts identityOf (payload :: rest)) =
      fresh identityOf (before.map identityOf) (firsts identityOf rest) := by
    rw [firsts_cons, fresh, List.filter_cons_of_neg (by simpa using taken)]
    show fresh _ _ (fresh _ _ _) = _
    rw [fresh_fresh]
    exact fresh_congr fun key => by simpa using fun equal => equal ▸ by simpa using taken
  unfold Keeps
  rw [left]
  constructor
  · rintro ⟨traceable, agree, kept⟩
    refine ⟨fun other member => traceable other (List.mem_cons_of_mem _ member), ?_, kept⟩
    intro first member second member'
    refine agree first ?_ second (List.mem_cons_of_mem _ member')
    rcases List.mem_append.1 member with old | new
    · exact List.mem_append_left _ old
    · exact List.mem_append_right _ (List.mem_cons_of_mem _ new)
  · rintro ⟨traceable', agree, kept⟩
    -- a payload is compared with its prior, of which there is one
    have withPayload : ∀ first ∈ before ++ rest, identityOf first = identityOf payload →
        rules.canonicalHash first = rules.canonicalHash payload := by
      intro first member named
      rcases List.mem_append.1 member with old | new
      · rw [List.inj_on_of_nodup_map distinct old known (named.trans same.symm), hashed]
      · rw [← hashed]
        exact (agree prior (List.mem_append_left _ known) first new (same.trans named.symm)).symm
    refine ⟨List.forall_mem_cons.2 ⟨traceable, traceable'⟩, ?_, kept⟩
    intro first member second member' named
    rcases List.mem_cons.1 member' with rfl | later
    · rcases List.mem_append.1 member with old | new
      · exact withPayload first (List.mem_append_left _ old) named
      · rcases List.mem_cons.1 new with rfl | new
        · rfl
        · exact withPayload first (List.mem_append_right _ new) named
    · rcases List.mem_append.1 member with old | new
      · exact agree first (List.mem_append_left _ old) second later named
      · rcases List.mem_cons.1 new with rfl | new
        · exact (withPayload second (List.mem_append_right _ later) named.symm).symm
        · exact agree first (List.mem_append_right _ new) second later named

/-- A payload with a new identity is kept. -/
theorem keeps_new {before rest : List Object} (absent : identityOf payload ∉ before.map identityOf)
    (traceable : Traceable rules payload) :
    Keeps rules before (payload :: rest) kept ↔ Keeps rules (before ++ [payload]) rest kept := by
  have left : before ++
      fresh identityOf (before.map identityOf) (firsts identityOf (payload :: rest)) =
      (before ++ [payload]) ++
        fresh identityOf ((before ++ [payload]).map identityOf) (firsts identityOf rest) := by
    rw [firsts_cons, fresh, List.filter_cons_of_pos (by simpa using absent), List.append_assoc,
      List.map_append]
    show before ++ payload :: fresh _ _ (fresh _ _ _) = _
    rw [fresh_fresh]
    rfl
  unfold Keeps
  rw [left]
  constructor
  · rintro ⟨traceable, agree, kept⟩
    refine ⟨fun other member => traceable other (List.mem_cons_of_mem _ member), ?_, kept⟩
    intro first member second member'
    rw [List.append_assoc] at member
    exact agree first member second (List.mem_cons_of_mem _ member')
  · rintro ⟨traceable', agree, kept⟩
    refine ⟨List.forall_mem_cons.2 ⟨traceable, traceable'⟩, ?_, kept⟩
    intro first member second member' named
    rw [List.append_assoc] at agree
    rcases List.mem_cons.1 member' with rfl | later
    · rcases List.mem_append.1 member with old | new
      · exact absurd (named ▸ List.mem_map_of_mem old) absent
      · rcases List.mem_cons.1 new with rfl | new
        · rfl
        · exact (agree second (by simp) first new named.symm).symm
    · exact agree first member second later named

/-- The loop keeps the new ones of the payloads, each once. -/
theorem deduplicate_spec {before : List Object} {held : List (String × String × Object)}
    (holds : HeldOf rules before held) :
    deduplicate rules payloads held = .ok kept ↔ Keeps rules before payloads kept := by
  induction payloads generalizing before held with
  | nil =>
      rw [deduplicate, holds.payloads]
      simp [Keeps, eq_comm]
  | cons payload rest ih =>
      have untraceable : ¬ Traceable rules payload → ¬ Keeps rules before (payload :: rest) kept :=
        fun none keeps => none (keeps.1 payload (List.mem_cons_self ..))
      unfold deduplicate
      split
      · next identity named =>
        have same := identityOf_eq named
        cases hashed : rules.canonicalHash payload with
        | error raised =>
            refine iff_of_false (by simp [Bind.bind, Except.bind]) (untraceable ?_)
            rintro ⟨digest, -, found⟩
            rw [hashed] at found
            cases found
        | ok digest =>
            have traceable : Traceable rules payload := ⟨digest, same ▸ named, hashed⟩
            dsimp only [Bind.bind, Except.bind]
            split
            · next prior found =>
              obtain ⟨known, named', hashed'⟩ := holds.lookup_some found
              split
              · next equal =>
                rw [ih holds]
                exact (keeps_known holds.distinct known (named'.trans same.symm)
                  (by rw [hashed', equal, hashed]) traceable).symm
              · next conflict =>
                refine iff_of_false (by simp [raise]) fun keeps => conflict ?_
                have agree := keeps.2.1 prior.2 (List.mem_append_left _ known) payload
                  (List.mem_cons_self ..) (named'.trans same.symm)
                rw [hashed', hashed] at agree
                exact Except.ok.inj agree
            · next absent =>
              rw [ih (holds.add absent same hashed)]
              exact (keeps_new (same ▸ holds.lookup_none absent) traceable).symm
      · next other =>
        refine iff_of_false (by simp [raise]) (untraceable ?_)
        rintro ⟨digest, found, -⟩
        exact other _ found

/-- **What is kept** is the first payload of each identity, if all of an identity have one hash. -/
theorem deduplicate_eq_ok :
    deduplicate rules payloads [] = .ok kept ↔
      Agreeing rules payloads ∧ kept = firsts identityOf payloads := by
  rw [@deduplicate_spec _ _ _ [] _ ⟨rfl, List.forall_mem_nil _, List.nodup_nil⟩, Keeps,
    List.nil_append, List.map_nil, fresh_none, List.nil_append]
  constructor
  · rintro ⟨traceable, agree, rfl⟩
    exact ⟨⟨traceable, agree⟩, rfl⟩
  · rintro ⟨agreeing, rfl⟩
    exact ⟨agreeing.traceable, agreeing.agree, rfl⟩

end Distinct

/-! ### The facts of a page -/

section Facts

variable {library : StandardLibrary} {adapter : BreadthAdapter} {payloads first second : List Object}

/-- The payloads that are valid, and the hashes of the others. -/
def checkedRows (library : StandardLibrary) (adapter : BreadthAdapter) (payloads : List Object) :
    Result Rows :=
  readRows (adapter.checkPayload library) payloads

theorem checkedRows_append {next : Rows} : checkedRows library adapter (first ++ second) = .ok next ↔
    ∃ front back, checkedRows library adapter first = .ok front ∧
      checkedRows library adapter second = .ok back ∧ next = front.append back :=
  readRows_append adds_checkPayload

/-- **What payloads come to**: the valid ones, of which those of one identity agree. -/
def Checked (library : StandardLibrary) (adapter : BreadthAdapter) (payloads : List Object)
    (checked : Rows) : Prop :=
  checkedRows library adapter payloads = .ok checked ∧ Agreeing (rowRules library) checked.payloads

/-- **The facts of a page** are its valid payloads, the first of each identity. -/
theorem factsOf_eq_ok {page : Page} {facts : Rows} :
    BreadthAdapter.factsOf library adapter page = .ok facts ↔
      ∃ checked, Checked library adapter page.payloads checked ∧
        facts = ⟨firsts identityOf checked.payloads, page.rejected ++ checked.rejected⟩ := by
  rw [BreadthAdapter.factsOf]
  simp only [bind_eq_ok, foldlM_eq_ok adds_checkPayload, pure_eq_ok, deduplicate_eq_ok]
  constructor
  · rintro ⟨_, ⟨checked, read, rfl⟩, kept, ⟨agreeing, rfl⟩, rfl⟩
    exact ⟨checked, ⟨read, agreeing⟩, rfl⟩
  · rintro ⟨checked, ⟨read, agreeing⟩, rfl⟩
    exact ⟨_, ⟨checked, read, rfl⟩, _, ⟨agreeing, rfl⟩, rfl⟩

/-- Payloads in two pieces. -/
theorem Checked.parts {whole : Rows} (checked : Checked library adapter (first ++ second) whole) :
    ∃ front back, Checked library adapter first front ∧ Checked library adapter second back ∧
      whole = front.append back := by
  obtain ⟨front, back, read, read', rfl⟩ := checkedRows_append.1 checked.1
  exact ⟨front, back, ⟨read, checked.2.subset (List.subset_append_left _ _)⟩,
    ⟨read', checked.2.subset (List.subset_append_right _ _)⟩, rfl⟩

end Facts

end NewsCollect.Providers
