/-
**The contexts of retries.**

A claim hands on the context it has read before it took the cadence. It is the last one scheduled, and
nobody else's, as long as no retry is scheduled while a claim is under way and no claim deletes a
context that another one has deleted since.

* `Phase`: how far a call has come, and what it has read.
* `Undisturbed`: the moves of calls that are not disturbed.
* `Delivering`: what holds between any two of them.
* `contexts_delivered`: every context is returned once, in time.
* `context_delivered_twice`: a claim that sleeps through a whole retry.
-/

import NewsCollect.Collection.CadenceCommands

namespace NewsCollect.Collection.Cadence

open Calendar Interleaving ProviderCadenceController

/-! ### The protocol -/

/-- How far a call has come. -/
inductive Phase where
  | asking (provider : String) (cadenceSeconds : Int)
  | passed (provider : String) (cadenceSeconds : Int)
  | informed (provider : String) (cadenceSeconds : Int) (context : Option Stored)
  | taken (provider : String) (stored : Stored)
  | retrying (provider : String) (delay : Int) (collectionRunId : Uuid) (attempt ttl : Int)
  | returned (provider : String) (claim : Claim)
  | retried (provider : String)

namespace Phase

def allowed : Phase → Op → Prop
  | asking provider _, op => op = .exists (.retry provider)
  | passed provider _, op => op = .get (.retryContext provider)
  | informed provider cadenceSeconds _, op => op = .setIfAbsent (.cadence provider) cadenceSeconds
  | taken provider _, op => op = .delete (.retryContext provider)
  | retrying provider delay collectionRunId attempt ttl, op =>
      op = .transaction provider delay collectionRunId attempt ttl
  | returned .. , _ | retried _, _ => False

/-- The phase of a claim that has taken the cadence. -/
def claimed (provider : String) : Option Stored → Phase
  | none => returned provider ⟨.claimed, none⟩
  | some stored => taken provider stored

def next : Phase → (op : Op) → Answer op → Phase
  | asking provider cadenceSeconds, .exists _, waiting =>
      if waiting = true then returned provider ⟨.retryWait, none⟩
      else passed provider cadenceSeconds
  | passed provider cadenceSeconds, .get _, context => informed provider cadenceSeconds context
  | informed provider _ context, .setIfAbsent .., free =>
      if free = true then claimed provider context else returned provider ⟨.notDue, none⟩
  | taken provider stored, .delete _, _ => returned provider (claimOf stored)
  | retrying provider .., .transaction .., _ => retried provider
  | phase, _, _ => phase

def provider : Phase → String
  | asking provider _ | passed provider _ | informed provider _ _ | taken provider _
  | retrying provider _ _ _ _ | returned provider _ | retried provider => provider

/-- A claim of the provider is under way: it has found no gate, and has not ended. -/
def Claiming (name : String) : Phase → Prop
  | passed provider _ | informed provider _ _ | taken provider _ => provider = name
  | _ => False

/-- A claim of the provider that has read this under the key of the context. -/
def Knows (name : String) (stored : Stored) : Phase → Prop
  | informed provider _ context => provider = name ∧ context = some stored
  | taken provider read => provider = name ∧ read = stored
  | _ => False

/-- A claim that has returned this context of the provider. -/
def Returns (name : String) (context : RetryContext) : Phase → Prop
  | returned provider claim => provider = name ∧ claim.context = some context
  | _ => False

end Phase

/-- The phase a call starts in. -/
def Job.phase (maxRetryDelay : Int) : Job → Phase
  | .claim provider cadenceSeconds => .asking provider cadenceSeconds
  | .scheduleRetry provider delay collectionRunId attempt =>
      .retrying provider (retrySeconds maxRetryDelay delay) collectionRunId attempt
        (maxRetryDelay + 86400)

def protocol : Protocol commands Phase := ⟨Phase.allowed, Phase.next⟩

/-- A claim returns what its phase says. -/
def Ends (phase : Phase) : Returned → Prop
  | .claim claim => ∃ provider, phase = .returned provider claim
  | .delay _ => ∃ provider, phase = .retried provider

theorem program_follows (maxRetryDelay : Int) (job : Job) :
    protocol.Follows (job.phase maxRetryDelay) (job.program maxRetryDelay) Ends := by
  cases job with
  | claim provider cadenceSeconds =>
      refine ⟨rfl, fun waiting => ?_⟩
      cases waiting with
      | true => exact ⟨provider, rfl⟩
      | false =>
          refine ⟨rfl, fun context => ⟨rfl, fun claimed => ?_⟩⟩
          cases claimed with
          | false => exact ⟨provider, rfl⟩
          | true =>
              cases context with
              | none => exact ⟨provider, rfl⟩
              | some stored => exact ⟨rfl, fun _ => ⟨provider, rfl⟩⟩
  | scheduleRetry provider delay collectionRunId attempt => exact ⟨rfl, fun _ => ⟨provider, rfl⟩⟩

/-- The calls are disciplined by the protocol. -/
def discipline (maxRetryDelay : Int) : Discipline (processes maxRetryDelay) Phase where
  toProtocol := protocol
  initial := Job.phase maxRetryDelay
  finished := Ends
  adheres := program_follows maxRetryDelay

/-! ### Undisturbed calls -/

/-- **The moves of calls that are not disturbed.** A retry is scheduled for an attempt that has been
made, while no claim of its provider is under way; and a claim deletes the context it has read. A
process that stops does so before its call has ended. -/
def Undisturbed (maxRetryDelay : Int) : (discipline maxRetryDelay).Guard := fun state phases move =>
  match move with
  | .work _ (.transaction provider _ _ attempt _) _ =>
      1 ≤ attempt ∧ ∀ other phase, phases other = some phase → ¬ phase.Claiming provider
  | .work who (.delete (.retryContext provider)) _ =>
      ∀ stored, phases who = some (.taken provider stored) →
        (state.store (.retryContext provider)).map Expiring.Entry.value = some stored
  | .crash who => ∀ provider claim, phases who ≠ some (.returned provider claim)
  | _ => True

/-- The last context that has been scheduled. -/
structure Latest (state : State) (provider : String) (context : RetryContext) : Prop where
  serial : context.serial = state.scheduled provider
  least : 1 ≤ context.serial
  attempt : 1 ≤ context.attempt

/-- **What holds between two moves.** -/
structure Delivering (state : State) (phases : ℕ → Option Phase) : Prop where
  stored : ∀ provider entry, state.store (.retryContext provider) = some entry →
    ∃ context, entry.value = .context context ∧ Latest state provider context
  opened : ∀ who phase provider, phases who = some phase → phase.Claiming provider →
    Expiring.get state.store state.now (.retry provider) = none
  known : ∀ who phase provider stored, phases who = some phase → phase.Knows provider stored →
    ∃ context, stored = .context context ∧ Latest state provider context
  past : ∀ who phase provider context, phases who = some phase → phase.Returns provider context →
    1 ≤ context.serial ∧ context.serial ≤ state.scheduled provider ∧
      (context.serial = state.scheduled provider → state.store (.retryContext provider) = none)
  once : ∀ who other phase phase' provider context context', phases who = some phase →
    phases other = some phase' → phase.Returns provider context → phase'.Returns provider context' →
    context.serial = context'.serial → who = other
  kept : ∀ provider, 1 ≤ state.scheduled provider →
    (state.store (.retryContext provider)).isSome ∨ ∃ who phase context, phases who = some phase ∧
      phase.Returns provider context ∧ context.serial = state.scheduled provider

section Steps

variable {state state' : State} {phases : ℕ → Option Phase} {who : ℕ} {phase : Phase}
  {provider : String} {context : RetryContext} {stored : Stored}

theorem Latest.of_scheduled (latest : Latest state provider context)
    (same : state'.scheduled provider = state.scheduled provider) : Latest state' provider context :=
  ⟨latest.serial.trans same.symm, latest.least, latest.attempt⟩

/-- What knows a context is under way. -/
theorem claiming_of_knows (knows : phase.Knows provider stored) : phase.Claiming provider := by
  cases phase with
  | informed => exact knows.1
  | taken => exact knows.1
  | _ => exact knows.elim

/-- Time passes, or a key is written that is neither a gate nor a context. -/
theorem Delivering.evolves (delivering : Delivering state phases) (later : state.now ≤ state'.now)
    (scheduled : state'.scheduled = state.scheduled)
    (gates : ∀ name, state'.store (.retry name) = state.store (.retry name))
    (contexts : ∀ name, state'.store (.retryContext name) = state.store (.retryContext name)) :
    Delivering state' phases := by
  have same (name : String) : state'.scheduled name = state.scheduled name := congrFun scheduled name
  refine ⟨fun name entry held => ?_, fun other phase name told claiming => ?_,
    fun other phase name stored told knows => ?_, fun other phase name context told returns => ?_,
    delivering.once, fun name least => ?_⟩
  · obtain ⟨context, value, latest⟩ := delivering.stored name entry (contexts name ▸ held)
    exact ⟨context, value, latest.of_scheduled (same name)⟩
  · have closed := delivering.opened other phase name told claiming
    have moved : Expiring.get state'.store state'.now (.retry name) =
        Expiring.get state.store state'.now (.retry name) := by
      rw [Expiring.get, gates, Expiring.get]
    rw [moved]
    cases live : Expiring.get state.store state'.now (.retry name) with
    | none => rfl
    | some value => exact absurd (closed.symm.trans (Expiring.get_of_le later live)) nofun
  · obtain ⟨context, value, latest⟩ := delivering.known other phase name stored told knows
    exact ⟨context, value, latest.of_scheduled (same name)⟩
  · rw [same, contexts]
    exact delivering.past other phase name context told returns
  · rw [same] at least ⊢
    rw [contexts]
    exact delivering.kept name least

/-- The phases after a move are those before it, but for one. -/
theorem phases_update {next : Option Phase} {other : ℕ} {phase : Phase}
    (told : Function.update phases who next other = some phase) :
    other = who ∧ next = some phase ∨ other ≠ who ∧ phases other = some phase := by
  by_cases same : other = who
  · subst same
    rw [Function.update_self] at told
    exact .inl ⟨rfl, told⟩
  · rw [Function.update_of_ne same] at told
    exact .inr ⟨same, told⟩

/-- One call goes on, and has returned no context before or after it. -/
theorem Delivering.moves (delivering : Delivering state phases) {next : Option Phase}
    (opened : ∀ phase name, next = some phase → phase.Claiming name →
      Expiring.get state.store state.now (.retry name) = none)
    (known : ∀ phase name stored, next = some phase → phase.Knows name stored →
      ∃ context, stored = .context context ∧ Latest state name context)
    (silent : ∀ phase name context, next = some phase → ¬ phase.Returns name context)
    (before : ∀ phase name context, phases who = some phase → ¬ phase.Returns name context) :
    Delivering state (Function.update phases who next) := by
  refine ⟨delivering.stored, fun other phase name told claiming => ?_,
    fun other phase name stored told knows => ?_, fun other phase name context told returns => ?_,
    fun first second phase phase' name context context' one two returns returns' same => ?_,
    fun name least => ?_⟩
  · rcases phases_update told with ⟨-, here⟩ | ⟨-, there⟩
    · exact opened phase name here claiming
    · exact delivering.opened other phase name there claiming
  · rcases phases_update told with ⟨-, here⟩ | ⟨-, there⟩
    · exact known phase name stored here knows
    · exact delivering.known other phase name stored there knows
  · rcases phases_update told with ⟨-, here⟩ | ⟨-, there⟩
    · exact absurd returns (silent phase name context here)
    · exact delivering.past other phase name context there returns
  · rcases phases_update one with ⟨-, here⟩ | ⟨-, there⟩
    · exact absurd returns (silent phase name context here)
    · rcases phases_update two with ⟨-, here'⟩ | ⟨-, there'⟩
      · exact absurd returns' (silent phase' name context' here')
      · exact delivering.once first second phase phase' name context context' there there' returns
          returns' same
  · rcases delivering.kept name least with held | ⟨other, phase, context, told, returns, same⟩
    · exact .inl held
    · refine .inr ⟨other, phase, context, ?_, returns, same⟩
      have different : other ≠ who := by
        rintro rfl
        exact before phase name context told returns
      rw [Function.update_of_ne different, told]

/-- One call goes on, is not under way any more, and has returned no context. -/
theorem Delivering.settles (delivering : Delivering state phases) {next : Option Phase}
    (idle : ∀ phase name, next = some phase →
      ¬ phase.Claiming name ∧ ∀ context, ¬ phase.Returns name context)
    (before : ∀ phase name context, phases who = some phase → ¬ phase.Returns name context) :
    Delivering state (Function.update phases who next) :=
  delivering.moves (fun phase name here claiming => absurd claiming (idle phase name here).1)
    (fun phase name _ here knows => absurd (claiming_of_knows knows) (idle phase name here).1)
    (fun phase name context here => (idle phase name here).2 context) before

/-- **A claim asks for the gate.** -/
theorem Delivering.asks (delivering : Delivering state phases) {cadenceSeconds : Int}
    (bound : phases who = some (.asking provider cadenceSeconds)) :
    Delivering state (Function.update phases who
      (some ((Phase.asking provider cadenceSeconds).next (.exists (.retry provider))
        (Expiring.get state.store state.now (.retry provider)).isSome))) := by
  have before : ∀ phase name context, phases who = some phase → ¬ phase.Returns name context := by
    intro phase name context told
    obtain rfl := Option.some.inj (bound.symm.trans told)
    exact id
  cases gate : Expiring.get state.store state.now (.retry provider) with
  | none =>
      refine delivering.moves (fun phase name here claiming => ?_) (fun phase name stored here => ?_)
        (fun phase name context here => ?_) before
      · obtain rfl := Option.some.inj here
        obtain rfl : provider = name := claiming
        exact gate
      · obtain rfl := Option.some.inj here
        exact False.elim
      · obtain rfl := Option.some.inj here
        exact id
  | some value =>
      refine delivering.settles (fun phase name here => ?_) before
      obtain rfl := Option.some.inj here
      exact ⟨id, fun context returns => nomatch returns.2⟩

/-- **A claim reads the context.** -/
theorem Delivering.reads (delivering : Delivering state phases) {cadenceSeconds : Int}
    (bound : phases who = some (.passed provider cadenceSeconds)) :
    Delivering state (Function.update phases who
      (some (.informed provider cadenceSeconds
        (Expiring.get state.store state.now (.retryContext provider))))) := by
  refine delivering.moves (fun phase name here claiming => ?_)
    (fun phase name stored here knows => ?_) (fun phase name context here => ?_)
    (fun phase name context told => ?_)
  · obtain rfl := Option.some.inj here
    exact delivering.opened who _ name bound claiming
  · obtain rfl := Option.some.inj here
    obtain ⟨rfl, read⟩ := knows
    obtain ⟨entry, held, live⟩ := Option.bind_eq_some_iff.1 read
    obtain ⟨context, value, latest⟩ := delivering.stored provider entry held
    split at live
    · exact ⟨context, (Option.some.inj live).symm.trans value, latest⟩
    · exact absurd live nofun
  · obtain rfl := Option.some.inj here
    exact id
  · obtain rfl := Option.some.inj (bound.symm.trans told)
    exact id

/-- **A claim takes the cadence**, or finds it taken. -/
theorem Delivering.takes (delivering : Delivering state phases) {cadenceSeconds : Int}
    {read : Option Stored}
    (bound : phases who = some (.informed provider cadenceSeconds read)) (ttl : Int) :
    Delivering
      { state with store := (Expiring.setIfAbsent state.store state.now (.cadence provider) .word
          ttl).2 }
      (Function.update phases who (some ((Phase.informed provider cadenceSeconds read).next
        (.setIfAbsent (.cadence provider) cadenceSeconds)
        (Expiring.setIfAbsent state.store state.now (.cadence provider) .word ttl).1))) := by
  have before : ∀ phase name context, phases who = some phase → ¬ phase.Returns name context := by
    intro phase name context told
    obtain rfl := Option.some.inj (bound.symm.trans told)
    exact id
  refine @Delivering.evolves state _ _ ?_ le_rfl rfl
    (fun name => Expiring.setIfAbsent_ne (by simp)) (fun name => Expiring.setIfAbsent_ne (by simp))
  cases (Expiring.setIfAbsent state.store state.now (.cadence provider) .word ttl).1 with
  | false =>
      refine delivering.settles (fun phase name here => ?_) before
      obtain rfl := Option.some.inj here
      exact ⟨id, fun context returns => nomatch returns.2⟩
  | true =>
      cases read with
      | none =>
          refine delivering.settles (fun phase name here => ?_) before
          obtain rfl := Option.some.inj here
          exact ⟨id, fun context returns => nomatch returns.2⟩
      | some stored =>
          refine delivering.moves (fun phase name here claiming => ?_)
            (fun phase name stored' here knows => ?_) (fun phase name context here => ?_) before
          · obtain rfl := Option.some.inj here
            exact delivering.opened who _ name bound claiming
          · obtain rfl := Option.some.inj here
            obtain ⟨rfl, rfl⟩ := knows
            exact delivering.known who _ provider stored bound ⟨rfl, rfl⟩
          · obtain rfl := Option.some.inj here
            exact id

/-- **A claim deletes the context it has read**, and returns it. -/
theorem Delivering.deletes (delivering : Delivering state phases)
    (bound : phases who = some (.taken provider stored))
    (held : (state.store (.retryContext provider)).map Expiring.Entry.value = some stored) :
    Delivering { state with store := Expiring.delete state.store (.retryContext provider) }
      (Function.update phases who (some (.returned provider (claimOf stored)))) := by
  obtain ⟨entry, found, value⟩ := Option.map_eq_some_iff.1 held
  obtain ⟨context, rfl, latest⟩ := delivering.known who _ provider stored bound ⟨rfl, rfl⟩
  have claims : claimOf (.context context) = ⟨.claimed, some context⟩ := if_neg (by
    have made := latest.attempt
    omega)
  have gone : Expiring.delete state.store (.retryContext provider) (.retryContext provider) = none :=
    Function.update_self ..
  have other_key {key : CadenceKey} (different : key ≠ .retryContext provider) :
      Expiring.delete state.store (.retryContext provider) key = state.store key :=
    Function.update_of_ne different ..
  -- Who has returned the last context of a provider has deleted its key.
  have alone : ∀ other phase context', phases other = some phase → phase.Returns provider context' →
      context'.serial ≠ context.serial := by
    intro other phase context' told returns same
    have missing := (delivering.past other phase provider context' told returns).2.2
      (same.trans latest.serial)
    exact absurd (missing.symm.trans found) nofun
  have here {phase : Phase} {name : String} {context' : RetryContext}
      (same : some (Phase.returned provider (claimOf (.context context))) = some phase)
      (returns : phase.Returns name context') : provider = name ∧ context' = context := by
    obtain rfl := Option.some.inj same
    obtain ⟨named, given⟩ := returns
    rw [claims] at given
    exact ⟨named, (Option.some.inj given).symm⟩
  refine ⟨fun name entry' held => ?_, fun other phase name told claiming => ?_,
    fun other phase name stored told knows => ?_, fun other phase name context' told returns => ?_,
    fun first second phase phase' name context' context'' one two returns returns' same => ?_,
    fun name least => ?_⟩
  · by_cases named : name = provider
    · subst named
      exact absurd (gone.symm.trans held) nofun
    · obtain ⟨read, value, current⟩ := delivering.stored name entry'
        ((other_key (by simpa using named)).symm.trans held)
      exact ⟨read, value, current.of_scheduled rfl⟩
  · rw [Expiring.get_delete_ne (by simp)]
    rcases phases_update told with ⟨-, here⟩ | ⟨-, there⟩
    · obtain rfl := Option.some.inj here
      exact claiming.elim
    · exact delivering.opened other phase name there claiming
  · rcases phases_update told with ⟨-, here⟩ | ⟨-, there⟩
    · obtain rfl := Option.some.inj here
      exact knows.elim
    · obtain ⟨read, value, current⟩ := delivering.known other phase name stored there knows
      exact ⟨read, value, current.of_scheduled rfl⟩
  · rcases phases_update told with ⟨-, told⟩ | ⟨-, there⟩
    · obtain ⟨rfl, rfl⟩ := here told returns
      exact ⟨latest.least, latest.serial.le, fun _ => gone⟩
    · obtain ⟨positive, before, deleted⟩ := delivering.past other phase name context' there returns
      refine ⟨positive, before, fun last => ?_⟩
      by_cases named : name = provider
      · exact named ▸ gone
      · exact (other_key (by simpa using named)).trans (deleted last)
  · rcases phases_update one with ⟨rfl, told⟩ | ⟨-, there⟩
    · obtain ⟨rfl, rfl⟩ := here told returns
      rcases phases_update two with ⟨rfl, -⟩ | ⟨-, there'⟩
      · rfl
      · exact absurd same.symm (alone second phase' context'' there' returns')
    · rcases phases_update two with ⟨rfl, told'⟩ | ⟨-, there'⟩
      · obtain ⟨rfl, rfl⟩ := here told' returns'
        exact absurd same (alone first phase context' there returns)
      · exact delivering.once first second phase phase' name context' context'' there there' returns
          returns' same
  · by_cases named : name = provider
    · subst named
      refine .inr ⟨who, _, context, Function.update_self .., ⟨rfl, ?_⟩, latest.serial⟩
      rw [claims]
    · rcases delivering.kept name least with held | ⟨other, phase, context', told, returns, same⟩
      · exact .inl ((congrArg Option.isSome (other_key (by simpa using named))).trans held)
      · have different : other ≠ who := by
          rintro rfl
          obtain rfl := Option.some.inj (bound.symm.trans told)
          exact returns.elim
        exact .inr ⟨other, phase, context', by rw [Function.update_of_ne different, told], returns,
          same⟩

/-- **A retry is scheduled**, while no claim of its provider is under way. -/
theorem Delivering.schedules (delivering : Delivering state phases) {delay attempt ttl : Int}
    {collectionRunId : Uuid}
    (bound : phases who = some (.retrying provider delay collectionRunId attempt ttl))
    (least : 1 ≤ attempt) (quiet : ∀ other phase, phases other = some phase →
      ¬ phase.Claiming provider) :
    Delivering (perform state (.transaction provider delay collectionRunId attempt ttl)).2
      (Function.update phases who (some (.retried provider))) := by
  have context_self : (perform state (.transaction provider delay collectionRunId attempt ttl)).2.store
      (.retryContext provider) = some ⟨.context ⟨state.scheduled provider + 1, collectionRunId,
        attempt⟩, state.now + ttl * second⟩ := Function.update_self ..
  have context_ne {name : String} (different : name ≠ provider) :
      (perform state (.transaction provider delay collectionRunId attempt ttl)).2.store
        (.retryContext name) = state.store (.retryContext name) := by
    simp [perform, Expiring.set, Expiring.delete, different]
  have gate_ne {name : String} (different : name ≠ provider) :
      (perform state (.transaction provider delay collectionRunId attempt ttl)).2.store
        (.retry name) = state.store (.retry name) := by
    simp [perform, Expiring.set, Expiring.delete, different]
  have count_self : (perform state (.transaction provider delay collectionRunId attempt
      ttl)).2.scheduled provider = state.scheduled provider + 1 := Function.update_self ..
  have count_ne {name : String} (different : name ≠ provider) :
      (perform state (.transaction provider delay collectionRunId attempt ttl)).2.scheduled name =
        state.scheduled name := Function.update_of_ne different ..
  have there {other : ℕ} {phase : Phase} (told : Function.update phases who
      (some (.retried provider)) other = some phase) (live : phase ≠ .retried provider) :
      phases other = some phase := by
    rcases phases_update told with ⟨-, here⟩ | ⟨-, there⟩
    · exact absurd (Option.some.inj here).symm live
    · exact there
  have kept {other : ℕ} {phase : Phase} {name : String} {context : RetryContext}
      (told : phases other = some phase) (returns : phase.Returns name context) :
      Function.update phases who (some (.retried provider)) other = some phase := by
    have different : other ≠ who := by
      rintro rfl
      obtain rfl := Option.some.inj (bound.symm.trans told)
      exact returns.elim
    rw [Function.update_of_ne different, told]
  refine ⟨fun name entry held => ?_, fun other phase name told claiming => ?_,
    fun other phase name stored told knows => ?_, fun other phase name context told returns => ?_,
    fun first second phase phase' name context context' one two returns returns' same => ?_,
    fun name positive => ?_⟩
  · by_cases named : name = provider
    · subst named
      obtain rfl := Option.some.inj (context_self.symm.trans held)
      exact ⟨_, rfl, count_self.symm, Nat.le_add_left .., least⟩
    · obtain ⟨context, value, latest⟩ := delivering.stored name entry (context_ne named ▸ held)
      exact ⟨context, value, latest.of_scheduled (count_ne named)⟩
  · have before := there told (by rintro rfl; exact claiming)
    have named : name ≠ provider := by
      rintro rfl
      exact quiet other phase before claiming
    have closed := delivering.opened other phase name before claiming
    rw [Expiring.get, gate_ne named]
    exact closed
  · have before := there told (by rintro rfl; exact knows)
    have named : name ≠ provider := by
      rintro rfl
      exact quiet other phase before (claiming_of_knows knows)
    obtain ⟨context, value, latest⟩ := delivering.known other phase name stored before knows
    exact ⟨context, value, latest.of_scheduled (count_ne named)⟩
  · obtain ⟨positive, before, deleted⟩ := delivering.past other phase name context
      (there told (by rintro rfl; exact returns)) returns
    by_cases named : name = provider
    · subst named
      rw [count_self]
      exact ⟨positive, before.trans (Nat.le_succ _), fun last => by omega⟩
    · rw [count_ne named, context_ne named]
      exact ⟨positive, before, deleted⟩
  · exact delivering.once first second phase phase' name context context'
      (there one (by rintro rfl; exact returns)) (there two (by rintro rfl; exact returns'))
      returns returns' same
  · by_cases named : name = provider
    · subst named
      exact .inl (by rw [context_self]; rfl)
    · rw [count_ne named] at positive ⊢
      rw [context_ne named]
      rcases delivering.kept name positive with held | ⟨other, phase, context, told, returns, same⟩
      · exact .inl held
      · exact .inr ⟨other, phase, context, kept told returns, returns, same⟩

/-- Before any call. -/
theorem delivering_fresh : Delivering fresh fun _ => none where
  stored _ _ held := nomatch held
  opened _ _ _ told := nomatch told
  known _ _ _ _ told := nomatch told
  past _ _ _ _ told := nomatch told
  once _ _ _ _ _ _ _ told := nomatch told
  kept _ least := absurd least (Nat.not_succ_le_zero 0)

variable {maxRetryDelay : Int}

/-- **Undisturbed calls deliver the contexts.** -/
theorem delivering_preserved :
    (discipline maxRetryDelay).Preserves (Undisturbed maxRetryDelay) Delivering := by
  intro state phases move state' phases' stepped undisturbed delivering
  cases stepped with
  | work who op choice bound allowed executed =>
      rename_i phase reply
      obtain ⟨rfl, rfl⟩ := Prod.mk.inj (Option.some.inj executed)
      cases phase with
      | asking provider cadenceSeconds =>
          obtain rfl : op = _ := allowed
          exact delivering.asks bound
      | passed provider cadenceSeconds =>
          obtain rfl : op = _ := allowed
          exact delivering.reads bound
      | informed provider cadenceSeconds read =>
          obtain rfl : op = _ := allowed
          exact delivering.takes bound _
      | taken provider stored =>
          obtain rfl : op = _ := allowed
          exact delivering.deletes bound (undisturbed stored bound)
      | retrying provider delay collectionRunId attempt ttl =>
          obtain rfl : op = _ := allowed
          exact delivering.schedules bound undisturbed.1 undisturbed.2
      | returned provider claim => exact allowed.elim
      | retried provider => exact allowed.elim
  | crash who bound =>
      refine delivering.settles (fun _ _ here => nomatch here)
        (fun phase name context told returns => ?_)
      cases phase with
      | returned provider claim => exact undisturbed provider claim told
      | _ => exact returns.elim
  | start who job free accepted =>
      obtain rfl := Option.some.inj accepted
      refine delivering.settles (fun phase name here => ?_)
        (fun _ _ _ told => nomatch free.symm.trans told)
      obtain rfl := Option.some.inj here
      cases job with
      | claim => exact ⟨id, fun context => id⟩
      | scheduleRetry => exact ⟨id, fun context => id⟩
  | env elapsed acted =>
      obtain rfl := Option.some.inj acted
      exact delivering.evolves (Int.le_add_of_nonneg_right (Int.natCast_nonneg elapsed)) rfl
        (fun _ => rfl) (fun _ => rfl)

/-- **Who is given the cadence finds no gate**, and has the last context if any. -/
theorem Delivering.answers (delivering : Delivering state phases) {phases' : ℕ → Option Phase}
    {move : Move commands Unit Job ℕ} {claim : Claim}
    (stepped : (discipline maxRetryDelay).Stepped state phases move state' phases')
    (undisturbed : Undisturbed maxRetryDelay state phases move)
    (before : phases who ≠ some (.returned provider claim))
    (answered : phases' who = some (.returned provider claim)) (claimed : claim.status = .claimed) :
    Expiring.get state'.store state'.now (.retry provider) = none ∧
      ∀ context ∈ claim.context, context.serial = state'.scheduled provider := by
  cases stepped with
  | work mover op choice bound allowed executed =>
      rename_i phase reply
      have performed : perform state op = (reply, state') := Option.some.inj executed
      rcases phases_update answered with ⟨rfl, here⟩ | ⟨-, there⟩
      swap
      · exact absurd there before
      cases phase with
      | asking name cadenceSeconds =>
          obtain rfl : op = _ := allowed
          obtain ⟨rfl, rfl⟩ := Prod.mk.inj ((perform_exists state _).symm.trans performed)
          cases gate : Expiring.get state.store state.now (.retry name) with
          | none =>
              rw [gate] at here
              cases here
          | some value =>
              rw [gate] at here
              obtain ⟨rfl, rfl⟩ := Phase.returned.inj (Option.some.inj here)
              cases claimed
      | passed name cadenceSeconds =>
          obtain rfl : op = _ := allowed
          cases here
      | informed name cadenceSeconds read =>
          obtain rfl : op = _ := allowed
          have closed := delivering.opened who _ name bound rfl
          obtain ⟨rfl, rfl⟩ := Prod.mk.inj ((perform_setIfAbsent state _ _).symm.trans performed)
          cases free : (Expiring.setIfAbsent state.store state.now (.cadence name) .word
              (cadenceSeconds * second)).1 with
          | false =>
              rw [free] at here
              obtain ⟨rfl, rfl⟩ := Phase.returned.inj (Option.some.inj here)
              cases claimed
          | true =>
              rw [free] at here
              cases read with
              | some stored => cases here
              | none =>
                  obtain ⟨rfl, rfl⟩ := Phase.returned.inj (Option.some.inj here)
                  refine ⟨?_, fun context member => by cases member⟩
                  exact (Expiring.get_setIfAbsent_ne (by simp)).trans closed
      | taken name stored =>
          obtain rfl : op = _ := allowed
          obtain ⟨rfl, rfl⟩ := Prod.mk.inj ((perform_delete state _).symm.trans performed)
          obtain ⟨rfl, rfl⟩ := Phase.returned.inj (Option.some.inj here)
          obtain ⟨context, rfl, latest⟩ := delivering.known who _ name stored bound ⟨rfl, rfl⟩
          refine ⟨?_, fun given member => ?_⟩
          · have closed := delivering.opened who _ name bound rfl
            exact (Expiring.get_delete_ne (by simp)).trans closed
          · have made := latest.attempt
            rw [claimOf, if_neg (by omega)] at member
            obtain rfl := Option.some.inj member
            exact latest.serial
      | retrying name delay collectionRunId attempt ttl =>
          obtain rfl : op = _ := allowed
          cases here
      | returned name claim => exact allowed.elim
      | retried name => exact allowed.elim
  | crash mover bound =>
      rcases phases_update answered with ⟨-, here⟩ | ⟨-, there⟩
      · cases here
      · exact absurd there before
  | start mover job free accepted =>
      rcases phases_update answered with ⟨-, here⟩ | ⟨-, there⟩
      · cases job with
        | claim => cases here
        | scheduleRetry => cases here
      · exact absurd there before
  | env elapsed acted => exact absurd answered before

end Steps

/-! ### Every run -/

def Job.provider : Job → String
  | .claim provider _ | .scheduleRetry provider _ _ _ => provider

/-- A call of the provider has returned this. -/
def Answered (world : World commands Returned State Job) (who : ℕ) (provider : String)
    (claim : Claim) : Prop :=
  ∃ task, world.tasks who = some task ∧ task.job.provider = provider ∧
    task.program = .done (.claim claim)

theorem next_provider (phase : Phase) (op : Op) (answer : Answer op) :
    (phase.next op answer).provider = phase.provider := by
  cases phase with
  | asking provider cadenceSeconds =>
      cases op with
      | «exists» key =>
          cases answer with
          | true => rfl
          | false => rfl
      | _ => rfl
  | informed provider cadenceSeconds read =>
      cases op with
      | setIfAbsent key ttl =>
          cases answer with
          | false => rfl
          | true =>
              cases read with
              | none => rfl
              | some stored => rfl
      | _ => rfl
  | _ =>
      cases op with
      | _ => rfl

/-- A call stays that of its provider. -/
theorem phase_provider (task : Task commands Returned Job) :
    ((discipline maxRetryDelay).phase task).provider = task.job.provider := by
  have kept : ∀ (log : List (Σ op : Op, Answer op)) (phase : Phase),
      (log.foldl (fun phase entry => phase.next entry.1 entry.2) phase).provider =
        phase.provider := by
    intro log
    induction log with
    | nil => exact fun _ => rfl
    | cons entry log ih => exact fun phase => (ih _).trans (next_provider phase entry.1 entry.2)
  refine (kept task.log (task.job.phase maxRetryDelay)).trans ?_
  cases task.job with
  | claim => rfl
  | scheduleRetry => rfl

/-- A call has returned what its phase says. -/
theorem answered_iff {world : World commands Returned State Job}
    (adherent : (discipline maxRetryDelay).Adherent world) {who : ℕ} {provider : String}
    {claim : Claim} : Answered world who provider claim ↔
      (discipline maxRetryDelay).phases world who = some (.returned provider claim) := by
  constructor
  · rintro ⟨task, found, named, done⟩
    have follows := adherent who task found
    rw [done] at follows
    obtain ⟨name, ended⟩ : ∃ name, (discipline maxRetryDelay).phase task = .returned name claim :=
      follows
    have owner := @phase_provider maxRetryDelay task
    rw [ended, named] at owner
    obtain rfl : name = provider := owner
    rw [Discipline.phases, found, Option.map_some, ended]
  · intro told
    obtain ⟨task, found, ended⟩ := Option.map_eq_some_iff.1 told
    have follows := adherent who task found
    have owner := @phase_provider maxRetryDelay task
    rw [ended] at follows owner
    refine ⟨task, found, owner.symm, ?_⟩
    cases left : task.program with
    | call op rest =>
        rw [left] at follows
        exact follows.1.elim
    | done value =>
        rw [left] at follows
        cases value with
        | delay seconds =>
            obtain ⟨name, same⟩ := follows
            cases same
        | claim other =>
            obtain ⟨name, same⟩ := follows
            obtain ⟨-, rfl⟩ := Phase.returned.inj same
            rfl

/-- **Retry contexts are delivered once and in time**, in every run of undisturbed calls: who is
given the cadence finds no gate and the last context if any, no two calls return one context, and
each that has been scheduled is superseded, kept or returned. -/
theorem contexts_delivered {world : World commands Returned State Job}
    (run : (discipline maxRetryDelay).Reaches (Undisturbed maxRetryDelay) (.initial fresh) world) :
    (∀ next event move who provider claim, world.move event = some move →
      Undisturbed maxRetryDelay world.state ((discipline maxRetryDelay).phases world) move →
      world.step (processes maxRetryDelay) event = some next →
      ¬ Answered world who provider claim → Answered next who provider claim →
      claim.status = .claimed →
        Expiring.get next.state.store next.state.now (.retry provider) = none ∧
          ∀ context ∈ claim.context, context.serial = next.state.scheduled provider) ∧
    (∀ who other provider claim claim' context context', Answered world who provider claim →
      Answered world other provider claim' → claim.context = some context →
      claim'.context = some context' → context.serial = context'.serial → who = other) ∧
    ∀ provider serial, 1 ≤ serial → serial ≤ world.state.scheduled provider →
      serial < world.state.scheduled provider ∨
        (∃ context expiresAt, context.serial = serial ∧
          world.state.store (.retryContext provider) = some ⟨.context context, expiresAt⟩) ∨
        ∃ who claim context, Answered world who provider claim ∧ claim.context = some context ∧
          context.serial = serial := by
  have start : (discipline maxRetryDelay).Adherent (.initial fresh) :=
    (discipline maxRetryDelay).adherent_initial fresh
  have adherent := run.adherent _ start
  have delivering : Delivering world.state ((discipline maxRetryDelay).phases world) :=
    run.invariant _ delivering_preserved start delivering_fresh
  refine ⟨fun next event move who provider claim asked undisturbed happened before answered
    claimed => ?_, fun who other provider claim claim' context context' first second given given'
      same => ?_, fun provider serial least most => ?_⟩
  · obtain ⟨stepped, adherent'⟩ :=
      (discipline maxRetryDelay).stepped_of_step adherent asked happened
    exact delivering.answers stepped undisturbed
      (fun told => before ((answered_iff adherent).2 told)) ((answered_iff adherent').1 answered)
      claimed
  · exact delivering.once who other _ _ provider context context' ((answered_iff adherent).1 first)
      ((answered_iff adherent).1 second) ⟨rfl, given⟩ ⟨rfl, given'⟩ same
  · rcases Nat.lt_or_eq_of_le most with superseded | rfl
    · exact .inl superseded
    · rcases delivering.kept provider least with held | ⟨who, phase, context, told, returns, same⟩
      · obtain ⟨⟨value, expiresAt⟩, found⟩ := Option.isSome_iff_exists.1 held
        obtain ⟨context, rfl, latest⟩ := delivering.stored provider _ found
        exact .inr (.inl ⟨context, expiresAt, latest.serial, found⟩)
      · cases phase with
        | returned name claim =>
            obtain ⟨rfl, given⟩ := returns
            exact .inr (.inr ⟨who, claim, context, (answered_iff adherent).2 told, given, same⟩)
        | _ => exact returns.elim

/-- A retry is scheduled while nothing else goes on, and a claim finds the context it has read. -/
def undisturbedStep (world : World commands Returned State Job) (event : Event Unit Job ℕ) : Bool :=
  match world.move event with
  | some (.work _ (.transaction _ _ _ attempt _) _) =>
      decide (1 ≤ attempt) && decide (world.count = 1) &&
        match (discipline 900).phases world 0 with
        | some (.retrying ..) => true
        | _ => false
  | some (.work who (.delete (.retryContext provider)) _) =>
      match (discipline 900).phases world who with
      | some (.taken _ stored) =>
          (world.state.store (.retryContext provider)).map Expiring.Entry.value = some stored
      | _ => true
  | some (.crash _) => false
  | _ => true

theorem undisturbedStep_undisturbed (world : World commands Returned State Job)
    (event : Event Unit Job ℕ) (move : Move commands Unit Job ℕ) (asked : world.move event = some move)
    (passed : undisturbedStep world event = true) :
    Undisturbed 900 world.state ((discipline 900).phases world) move := by
  unfold undisturbedStep at passed
  rw [asked] at passed
  unfold Undisturbed
  split
  · rename_i provider delay collectionRunId attempt ttl choice
    simp only [Bool.and_eq_true, decide_eq_true_eq] at passed
    obtain ⟨⟨least, single⟩, first⟩ := passed
    refine ⟨least, fun other phase told claiming => ?_⟩
    cases other with
    | zero =>
        rw [told] at first
        cases phase with
        | retrying => exact claiming
        | _ => exact absurd first Bool.false_ne_true
    | succ other =>
        have none : (discipline 900).phases world (other + 1) = none := by
          rw [Discipline.phases, world.unstarted _ (by omega)]
          rfl
        have impossible := none.symm.trans told
        cases impossible
  · intro stored told
    simp only [told, decide_eq_true_eq] at passed
    exact passed
  · exact absurd passed Bool.false_ne_true
  · trivial

/-- What a call has returned. -/
def answerOf (world : World commands Returned State Job) (who : ℕ) : Option (String × Claim) :=
  match world.tasks who with
  | some ⟨job, .done (.claim claim), _⟩ => some (job.provider, claim)
  | _ => none

theorem answered_iff_answerOf {world : World commands Returned State Job} {who : ℕ}
    {provider : String} {claim : Claim} :
    Answered world who provider claim ↔ answerOf world who = some (provider, claim) := by
  constructor
  · rintro ⟨⟨job, program, log⟩, found, rfl, rfl⟩
    rw [answerOf, found]
  · intro answered
    unfold answerOf at answered
    split at answered
    · next job held log found =>
      obtain ⟨rfl, rfl⟩ := Prod.mk.inj (Option.some.inj answered)
      exact ⟨_, found, rfl, rfl⟩
    · exact nomatch answered

/-- The first retry of a provider. -/
def first : RetryContext := ⟨1, 1, 1⟩

/-- A retry is scheduled, and the gate is gone when a claim asks for it. -/
def waits : List (Event Unit Job ℕ) :=
  [.start (.scheduleRetry "finnhub" 1 1 1), .work 0 (), .env 1000000, .start (.claim "finnhub" 60),
    .work 1 (), .work 1 ()]

/-- Two claims that have both read the context, and one when the cadence is due again. -/
def claims : List (Event Unit Job ℕ) :=
  waits ++ [.start (.claim "finnhub" 60), .work 2 (), .work 2 (), .work 1 (), .work 2 (), .work 1 (),
    .env 61000000, .start (.claim "finnhub" 60), .work 3 (), .work 3 (), .work 3 ()]

/-- The first of the claims after the retry has the context, and no other one. -/
theorem contexts_delivered_finnhub : ∃ world : World commands Returned State Job,
    Answered world 1 "finnhub" ⟨.claimed, some first⟩ ∧
      Answered world 2 "finnhub" ⟨.notDue, none⟩ ∧ Answered world 3 "finnhub" ⟨.claimed, none⟩ ∧
      ∀ other claim, Answered world other "finnhub" claim → claim.context = some first →
        1 = other := by
  have ran : ((World.initial fresh).checked (processes 900) undisturbedStep claims).map
      (fun world => [answerOf world 1, answerOf world 2, answerOf world 3]) =
        some [some ("finnhub", ⟨.claimed, some first⟩), some ("finnhub", ⟨.notDue, none⟩),
          some ("finnhub", ⟨.claimed, none⟩)] := by
    decide +kernel
  obtain ⟨world, reached, answered⟩ := Option.map_eq_some_iff.1 ran
  simp only [List.cons.injEq, and_true] at answered
  obtain ⟨given, early, late⟩ := answered
  have given := answered_iff_answerOf.2 given
  exact ⟨world, given, answered_iff_answerOf.2 early, answered_iff_answerOf.2 late,
    fun other claim answered' given' => (contexts_delivered (.of_checked _
      undisturbedStep_undisturbed (.refl _) reached)).2.1 1 other "finnhub" _ claim first first given
        answered' rfl given' rfl⟩

/-- **A claim that sleeps through a whole retry**: it is given the cadence while the gate is closed,
returns the context that another claim has returned, which is not the last one any more, and deletes
the last one, which nobody has returned. -/
theorem context_delivered_twice : ∃ world next : World commands Returned State Job,
    (discipline 900).Reaches (discipline 900).anyMove (.initial fresh) world ∧
      world.step (processes 900) (.work 1 ()) = some next ∧
      ¬ Answered world 1 "finnhub" ⟨.claimed, some first⟩ ∧
      Answered next 1 "finnhub" ⟨.claimed, some first⟩ ∧
      Answered next 2 "finnhub" ⟨.claimed, some first⟩ ∧
      (Expiring.get next.state.store next.state.now (.retry "finnhub")).isSome = true ∧
      first.serial < next.state.scheduled "finnhub" ∧
      (world.state.store (.retryContext "finnhub")).isSome = true ∧
      next.state.store (.retryContext "finnhub") = none ∧
      ∀ who claim context, Answered next who "finnhub" claim → claim.context = some context →
        context.serial ≠ next.state.scheduled "finnhub" := by
  have ran : (((World.initial fresh).run (processes 900)
      (waits ++ .start (.claim "finnhub" 60) :: List.replicate 4 (.work 2 ()) ++
        [.start (.scheduleRetry "finnhub" 1 2 2), .work 3 (), .work 1 ()])).bind fun world =>
      (world.step (processes 900) (.work 1 ())).map fun next => decide
        ((answerOf world 1 = none ∧ (world.state.store (.retryContext "finnhub")).isSome = true) ∧
          (answerOf next 0 = none ∧ answerOf next 3 = none ∧ next.count = 4) ∧
          (answerOf next 1 = some ("finnhub", ⟨.claimed, some first⟩) ∧
            answerOf next 2 = some ("finnhub", ⟨.claimed, some first⟩)) ∧
          (Expiring.get next.state.store next.state.now (.retry "finnhub")).isSome = true ∧
          next.state.scheduled "finnhub" = 2 ∧
          (next.state.store (.retryContext "finnhub")).isNone = true)) = some true := by
    decide +kernel
  obtain ⟨world, reached, ran⟩ := Option.bind_eq_some_iff.1 ran
  obtain ⟨next, stepped, seen⟩ := Option.map_eq_some_iff.1 ran
  obtain ⟨⟨unanswered, kept⟩, ⟨idle, retried, four⟩, ⟨one, two⟩, closed, twice, gone⟩ :=
    of_decide_eq_true seen
  refine ⟨world, next, .of_run _ (.refl _) reached, stepped, fun answered => ?_,
    answered_iff_answerOf.2 one, answered_iff_answerOf.2 two, closed, ?_, kept,
    Option.isNone_iff_eq_none.1 gone, ?_⟩
  · exact nomatch unanswered.symm.trans (answered_iff_answerOf.1 answered)
  · rw [twice]
    decide
  · intro who claim context answered given last
    have told := answered_iff_answerOf.1 answered
    match who with
    | 0 => exact nomatch idle.symm.trans told
    | 1 =>
        obtain ⟨-, rfl⟩ := Prod.mk.inj (Option.some.inj (one.symm.trans told))
        obtain rfl := Option.some.inj given
        exact absurd (last.trans twice) (by decide)
    | 2 =>
        obtain ⟨-, rfl⟩ := Prod.mk.inj (Option.some.inj (two.symm.trans told))
        obtain rfl := Option.some.inj given
        exact absurd (last.trans twice) (by decide)
    | 3 => exact nomatch retried.symm.trans told
    | who + 4 =>
        obtain ⟨task, found, -⟩ := answered
        exact nomatch (next.unstarted _ (by omega)).symm.trans found

end NewsCollect.Collection.Cadence
