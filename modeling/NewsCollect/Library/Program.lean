/-
**Programs over atomic operations, and the protocol a program follows.**

An asynchronous procedure is a tree of atomic operations: it asks for one, waits, and continues
with the reply. Between two operations any other procedure may run, so what can be said of one
procedure alone is in which order it asks for what. A `Protocol` says which operations a phase
allows and which phase a reply leads to; `Protocol.Follows` says that a program never leaves it,
whatever the replies are.

* `Program.bind` and its laws: programs are a monad, so a procedure is written in `do` notation.
* `request`, `attempt`, `finallyDo`: programs that may raise.
* `Protocol.follows_bind`, `Protocol.follows_mono`: adherence is compositional.
* `Protocol.followsE_bind`, `Protocol.followsE_finallyDo`: the same for programs that may raise.
* `Protocol.Executes.of_follows`: what an execution of a program has done when it ends.
-/

import Mathlib.Logic.Function.Basic

namespace NewsCollect.Interleaving

/-- What a program may ask for: the operations, and the type of the reply to each. -/
structure Signature where
  Op : Type
  Reply : Op → Type

variable {S : Signature}

/-- A program: finished with a value, or asking for one operation and waiting for its reply. -/
inductive Program (S : Signature) (α : Type) where
  | done (value : α)
  | call (op : S.Op) (next : S.Reply op → Program S α)

namespace Program

variable {α β γ : Type}

/-- Run the first program, then the second one on its value. -/
def bind : Program S α → (α → Program S β) → Program S β
  | .done value, next => next value
  | .call op continuation, next => .call op fun reply => (continuation reply).bind next

instance : Monad (Program S) where
  pure := .done
  bind := bind

@[simp] theorem pure_eq (value : α) : (pure value : Program S α) = .done value := rfl

@[simp] theorem done_bind (value : α) (next : α → Program S β) :
    (Program.done value >>= next) = next value := rfl

@[simp] theorem call_bind (op : S.Op) (continuation : S.Reply op → Program S α)
    (next : α → Program S β) :
    (Program.call op continuation >>= next) = .call op fun reply => continuation reply >>= next :=
  rfl

theorem bind_assoc (program : Program S α) (first : α → Program S β) (second : β → Program S γ) :
    (program >>= first) >>= second = program >>= fun value => first value >>= second := by
  induction program with
  | done value => rfl
  | call op continuation ih => exact congrArg (Program.call op) (funext ih)

/-- Ask for one operation and return its reply. -/
def perform (op : S.Op) : Program S (S.Reply op) := .call op .done

@[simp] theorem perform_bind (op : S.Op) (next : S.Reply op → Program S β) :
    (perform op >>= next) = .call op next := rfl

end Program

/-! ### Programs that may raise -/

section Raising

variable {Op ε α β : Type} {Answer : Op → Type}

/-- Operations that are answered, or raise. -/
abbrev Signature.raising (Answer : Op → Type) (ε : Type) : Signature :=
  ⟨Op, fun op => Except ε (Answer op)⟩

/-- Ask for one operation; an exception ends the program. -/
def request (op : Op) : ExceptT ε (Program (.raising Answer ε)) (Answer op) :=
  ExceptT.mk (.call op .done)

/-- A computation that asks for nothing. -/
def compute (result : Except ε α) : ExceptT ε (Program S) α := ExceptT.mk (.done result)

/-- `try`: how a program ends, as a value. -/
def attempt (program : ExceptT ε (Program S) α) : ExceptT ε (Program S) (Except ε α) :=
  ExceptT.mk (program.run >>= fun outcome => .done (.ok outcome))

/-- `finally`: run the clean-up after the program, however it has ended. -/
def finallyDo (program : ExceptT ε (Program S) α) (cleanup : ExceptT ε (Program S) Unit) :
    ExceptT ε (Program S) α := do
  let outcome ← attempt program
  cleanup
  compute outcome

end Raising

/-- **A protocol.** The operations each phase allows, and the phase each reply leads to. -/
structure Protocol (S : Signature) (P : Type) where
  allowed : P → S.Op → Prop
  next : P → (op : S.Op) → S.Reply op → P

namespace Protocol

variable {P α β : Type} {R : Protocol S P}

/-- From this phase the program asks only for what the protocol allows, whatever it is answered,
and ends in a phase and with a value that satisfy the postcondition. -/
def Follows (R : Protocol S P) : P → Program S α → (P → α → Prop) → Prop
  | phase, .done value, post => post phase value
  | phase, .call op next, post =>
      R.allowed phase op ∧ ∀ reply, R.Follows (R.next phase op reply) (next reply) post

/-- **Adherence composes**: the second program continues from every phase the first may end in. -/
theorem follows_bind {phase : P} {program : Program S α} {next : α → Program S β}
    {post : P → β → Prop}
    (first : R.Follows phase program fun phase' value => R.Follows phase' (next value) post) :
    R.Follows phase (program >>= next) post := by
  induction program generalizing phase with
  | done value => exact first
  | call op continuation ih =>
      exact ⟨first.1, fun reply => ih reply (first.2 reply)⟩

theorem follows_mono {phase : P} {program : Program S α} {post weaker : P → α → Prop}
    (follows : R.Follows phase program post)
    (implies : ∀ phase' value, post phase' value → weaker phase' value) :
    R.Follows phase program weaker := by
  induction program generalizing phase with
  | done value => exact implies phase value follows
  | call op continuation ih =>
      exact ⟨follows.1, fun reply => ih reply (follows.2 reply)⟩

/-- The protocol that allows everything. -/
def anything (S : Signature) : Protocol S Unit := ⟨fun _ _ => True, fun _ _ _ => ()⟩

theorem follows_anything {program : Program S α} {phase : Unit} :
    (anything S).Follows phase program fun _ _ => True := by
  induction program with
  | done value => trivial
  | call op next ih => exact ⟨trivial, fun reply => ih reply⟩

/-! ### Adherence of programs that may raise -/

section Raising

variable {ε : Type}

/-- Adherence of a program that may raise. -/
def FollowsE (R : Protocol S P) (phase : P) (program : ExceptT ε (Program S) α)
    (post : P → Except ε α → Prop) : Prop :=
  R.Follows phase program.run post

theorem followsE_pure {phase : P} {value : α} {post : P → Except ε α → Prop}
    (holds : post phase (.ok value)) : R.FollowsE phase (pure value) post := holds

theorem followsE_throw {phase : P} {raised : ε} {post : P → Except ε α → Prop}
    (holds : post phase (.error raised)) : R.FollowsE phase (throw raised) post := holds

theorem followsE_compute {phase : P} {result : Except ε α} {post : P → Except ε α → Prop}
    (holds : post phase result) : R.FollowsE phase (compute result) post := holds

theorem followsE_mono {phase : P} {program : ExceptT ε (Program S) α}
    {post weaker : P → Except ε α → Prop} (follows : R.FollowsE phase program post)
    (implies : ∀ phase' outcome, post phase' outcome → weaker phase' outcome) :
    R.FollowsE phase program weaker :=
  follows_mono follows implies

/-- An exception of the first program ends both. -/
theorem followsE_bind {phase : P} {program : ExceptT ε (Program S) α}
    {next : α → ExceptT ε (Program S) β} {post : P → Except ε β → Prop}
    (first : R.FollowsE phase program fun phase' outcome =>
      match outcome with
      | .ok value => R.FollowsE phase' (next value) post
      | .error raised => post phase' (.error raised)) :
    R.FollowsE phase (program >>= next) post := by
  refine follows_bind (follows_mono first ?_)
  rintro phase' (raised | value) holds
  · exact holds
  · exact holds

theorem followsE_attempt {phase : P} {program : ExceptT ε (Program S) α}
    {post : P → Except ε (Except ε α) → Prop}
    (body : R.FollowsE phase program fun phase' outcome => post phase' (.ok outcome)) :
    R.FollowsE phase (attempt program) post :=
  follows_bind body

/-- The clean-up follows from every phase the body may end in. -/
theorem followsE_finallyDo {phase : P} {program : ExceptT ε (Program S) α}
    {cleanup : ExceptT ε (Program S) Unit} {post : P → Except ε α → Prop}
    (body : R.FollowsE phase program fun phase' outcome =>
      R.FollowsE phase' cleanup fun phase'' cleaned =>
        match cleaned with
        | .ok _ => post phase'' outcome
        | .error raised => post phase'' (.error raised)) :
    R.FollowsE phase (finallyDo program cleanup) post := by
  refine followsE_bind (followsE_attempt (followsE_mono body ?_))
  intro phase' outcome holds
  refine followsE_bind (followsE_mono holds ?_)
  rintro phase'' (raised | value) after
  · exact after
  · exact after

end Raising

section Request

variable {Op ε : Type} {Answer : Op → Type} {R : Protocol (.raising Answer ε) P}

theorem followsE_request {phase : P} {op : Op} {post : P → Except ε (Answer op) → Prop}
    (allowed : R.allowed phase op) (holds : ∀ reply, post (R.next phase op reply) reply) :
    R.FollowsE phase (request op) post :=
  ⟨allowed, holds⟩

/-- One operation, and what comes after its answer. -/
theorem followsE_request_bind {phase : P} {op : Op}
    {next : Answer op → ExceptT ε (Program (.raising Answer ε)) β} {post : P → Except ε β → Prop}
    (allowed : R.allowed phase op)
    (answered : ∀ value, R.FollowsE (R.next phase op (.ok value)) (next value) post)
    (raises : ∀ raised, post (R.next phase op (.error raised)) (.error raised)) :
    R.FollowsE phase (request op >>= next) post := by
  refine followsE_bind (followsE_request allowed ?_)
  rintro (raised | value)
  · exact raises raised
  · exact answered value

end Request

/-! ### Executions -/

/-- **An execution of a program among others**: its operations, each with the state before it and the
state after it. Between two of them the state may become any other. -/
inductive Executes {State Choice : Type}
    (exec : State → (op : S.Op) → Choice → Option (S.Reply op × State)) :
    Program S α → List (State × State) → α → Prop where
  | done (value : α) : Executes exec (.done value) [] value
  | call {op : S.Op} {next : S.Reply op → Program S α} {choice : Choice} {reply : S.Reply op}
      {before after : State} {steps : List (State × State)} {value : α}
      (executed : exec before op choice = some (reply, after))
      (rest : Executes exec (next reply) steps value) :
      Executes exec (.call op next) ((before, after) :: steps) value

/-- **The rule for executions**: what every allowed operation keeps of a phase and of the steps so far
holds of the phase and of the steps a program ends with. -/
theorem Executes.of_follows {State Choice : Type}
    {exec : State → (op : S.Op) → Choice → Option (S.Reply op × State)} {phase : P}
    {program : Program S α} {post : P → α → Prop} {steps earlier : List (State × State)} {value : α}
    {holds : P → List (State × State) → Prop} (executes : Executes exec program steps value)
    (follows : R.Follows phase program post) (initially : holds phase earlier)
    (kept : ∀ phase steps op choice reply before after, R.allowed phase op →
      exec before op choice = some (reply, after) → holds phase steps →
      holds (R.next phase op reply) (steps ++ [(before, after)])) :
    ∃ last, post last value ∧ holds last (earlier ++ steps) := by
  induction executes generalizing phase earlier with
  | done value => exact ⟨phase, follows, by simpa using initially⟩
  | call executed rest ih =>
      obtain ⟨last, ends, held⟩ :=
        ih (follows.2 _) (kept _ _ _ _ _ _ _ follows.1 executed initially)
      exact ⟨last, ends, by simpa using held⟩

end Protocol

end NewsCollect.Interleaving
