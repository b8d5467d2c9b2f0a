/-
**Runs of a program among others.**

A program asks for its operations one after the other, over a state it shares. Before each of its
operations the others may have done whatever they may do. A run is one such course of events, and
its log has the state each operation was asked in and the reply to it.

* `Setting`: what the others may do, and how an operation may be answered.
* `Setting.Runs`: the runs of a program.
* `Setting.ensures_bind`, `Setting.ensuresE_bind`: what every run ensures is compositional.
-/

import NewsCollect.Library.Program

namespace NewsCollect.Interleaving

variable {S : Signature} {State α β : Type}

/-- What the others may do between two operations, and how an operation may be answered. -/
structure Setting (S : Signature) (State : Type) where
  others : State → State → Prop
  performs : State → (op : S.Op) → S.Reply op → State → Prop

/-- An entry of the log of a run: the operation, the state it was asked in, and the reply. -/
structure Entry (S : Signature) (State : Type) where
  before : State
  op : S.Op
  reply : S.Reply op

namespace Setting

variable {T : Setting S State}

/-- **A run**: what is asked and answered, up to the state and the value at the end. -/
inductive Runs (T : Setting S State) :
    State → Program S α → List (Entry S State) → State → α → Prop where
  | done {state : State} {value : α} : Runs T state (.done value) [] state value
  | call {state before after last : State} {op : S.Op} {reply : S.Reply op}
      {next : S.Reply op → Program S α} {log : List (Entry S State)} {value : α}
      (others : T.others state before) (performs : T.performs before op reply after)
      (rest : Runs T after (next reply) log last value) :
      Runs T state (.call op next) (⟨before, op, reply⟩ :: log) last value

/-- Every run of the program from this state has a log, ends in a state and has a value that satisfy
the postcondition. -/
def Ensures (T : Setting S State) (state : State) (program : Program S α)
    (post : List (Entry S State) → State → α → Prop) : Prop :=
  ∀ log last value, T.Runs state program log last value → post log last value

variable {state : State}

theorem ensures_done {value : α} {post : List (Entry S State) → State → α → Prop}
    (holds : post [] state value) : T.Ensures state (.done value) post := by
  intro log last result run
  cases run
  exact holds

theorem ensures_call {op : S.Op} {next : S.Reply op → Program S α}
    {post : List (Entry S State) → State → α → Prop}
    (holds : ∀ before reply after, T.others state before → T.performs before op reply after →
      T.Ensures after (next reply) fun log last value =>
        post (⟨before, op, reply⟩ :: log) last value) :
    T.Ensures state (.call op next) post := by
  intro log last result run
  cases run with
  | call others performs rest => exact holds _ _ _ others performs _ _ _ rest

/-- A run of two programs is a run of the first and a run of the second. -/
theorem runs_bind {program : Program S α} {next : α → Program S β} {log : List (Entry S State)}
    {last : State} {result : β} (run : T.Runs state (program >>= next) log last result) :
    ∃ first middle value second, T.Runs state program first middle value ∧
      T.Runs middle (next value) second last result ∧ log = first ++ second := by
  induction program generalizing state log with
  | done value => exact ⟨[], state, value, log, .done, run, rfl⟩
  | call op continuation ih =>
      cases run with
      | call others performs rest =>
          obtain ⟨first, middle, value, second, before, after, rfl⟩ := ih _ rest
          exact ⟨_, middle, value, second, .call others performs before, after, rfl⟩

theorem ensures_bind {program : Program S α} {next : α → Program S β}
    {post : List (Entry S State) → State → β → Prop}
    (holds : T.Ensures state program fun first middle value =>
      T.Ensures middle (next value) fun second last result => post (first ++ second) last result) :
    T.Ensures state (program >>= next) post := by
  intro log last result run
  obtain ⟨first, middle, value, second, before, after, rfl⟩ := runs_bind run
  exact holds first middle value before second last result after

theorem ensures_mono {program : Program S α} {post weaker : List (Entry S State) → State → α → Prop}
    (ensures : T.Ensures state program post)
    (implies : ∀ log last value, post log last value → weaker log last value) :
    T.Ensures state program weaker :=
  fun log last value run => implies log last value (ensures log last value run)

/-! ### Programs that may raise -/

section Raising

variable {ε : Type}

/-- What every run of a program that may raise ensures. -/
def EnsuresE (T : Setting S State) (state : State) (program : ExceptT ε (Program S) α)
    (post : List (Entry S State) → State → Except ε α → Prop) : Prop :=
  T.Ensures state program.run post

theorem ensuresE_pure {value : α} {post : List (Entry S State) → State → Except ε α → Prop}
    (holds : post [] state (.ok value)) : T.EnsuresE state (pure value) post :=
  ensures_done holds

theorem ensuresE_mono {program : ExceptT ε (Program S) α}
    {post weaker : List (Entry S State) → State → Except ε α → Prop}
    (ensures : T.EnsuresE state program post)
    (implies : ∀ log last result, post log last result → weaker log last result) :
    T.EnsuresE state program weaker :=
  ensures_mono ensures implies

/-- An exception of the first program ends both. -/
theorem ensuresE_bind {program : ExceptT ε (Program S) α} {next : α → ExceptT ε (Program S) β}
    {post : List (Entry S State) → State → Except ε β → Prop}
    (holds : T.EnsuresE state program fun first middle result =>
      match result with
      | .ok value => T.EnsuresE middle (next value) fun second last result =>
          post (first ++ second) last result
      | .error raised => post first middle (.error raised)) :
    T.EnsuresE state (program >>= next) post := by
  refine ensures_bind (ensures_mono holds ?_)
  rintro first middle (raised | value) held
  · exact ensures_done (by simpa using held)
  · exact held

theorem ensuresE_attempt {program : ExceptT ε (Program S) α}
    {post : List (Entry S State) → State → Except ε (Except ε α) → Prop}
    (holds : T.EnsuresE state program fun log last result => post log last (.ok result)) :
    T.EnsuresE state (attempt program) post := by
  refine ensures_bind (ensures_mono holds fun log last result held => ?_)
  exact ensures_done (by simpa using held)

end Raising

/-- One operation. -/
theorem ensuresE_request {Op ε : Type} {Answer : Op → Type} {T : Setting (.raising Answer ε) State}
    {op : Op}
    {post : List (Entry (.raising Answer ε) State) → State → Except ε (Answer op) → Prop}
    (holds : ∀ before reply after, T.others state before → T.performs before op reply after →
      post [⟨before, op, reply⟩] after reply) :
    T.EnsuresE state (request op) post :=
  ensures_call fun before reply after others performs =>
    ensures_done (holds before reply after others performs)

end Setting

end NewsCollect.Interleaving
