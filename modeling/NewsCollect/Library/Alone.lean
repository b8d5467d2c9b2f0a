/-
**Programs that run alone.**

A program that nothing interrupts has each of its operations performed on the state that the one
before it has left. What it asks for, how it ends and what it leaves is a function of the state it
starts in.

* `Course`, `Program.alone`: the course of a program.
* `alone_bind`, `alone_bindE`, `alone_attempt`: the course of two programs one after the other.
* `Achieves`: what a program does to what its states stand for, with a rule for each way of putting
  programs together.
-/

import NewsCollect.Library.Program

namespace NewsCollect.Interleaving

/-- What a program has asked for, with the replies, how it has ended, and the state it has left. -/
structure Course (S : Signature) (α State : Type) where
  log : List (Σ op : S.Op, S.Reply op)
  outcome : α
  state : State

variable {S : Signature} {α β State : Type}

/-- The course of a program that comes after some operations. -/
def Course.after (log : List (Σ op : S.Op, S.Reply op)) (course : Course S α State) :
    Course S α State :=
  { course with log := log ++ course.log }

@[simp] theorem Course.after_log (log : List (Σ op : S.Op, S.Reply op)) (course : Course S α State) :
    (course.after log).log = log ++ course.log := rfl

@[simp] theorem Course.after_outcome (log : List (Σ op : S.Op, S.Reply op))
    (course : Course S α State) : (course.after log).outcome = course.outcome := rfl

@[simp] theorem Course.after_state (log : List (Σ op : S.Op, S.Reply op))
    (course : Course S α State) : (course.after log).state = course.state := rfl

section Alone

variable (perform : State → (op : S.Op) → S.Reply op × State)

/-- **The course of a program that nothing interrupts.** -/
def Program.alone : Program S α → State → Course S α State
  | .done value, state => ⟨[], value, state⟩
  | .call op next, state =>
      ((next (perform state op).1).alone (perform state op).2).after [⟨op, (perform state op).1⟩]

theorem Program.alone_done (value : α) (state : State) :
    (Program.done value : Program S α).alone perform state = ⟨[], value, state⟩ := rfl

theorem Program.alone_call (op : S.Op) (next : S.Reply op → Program S α) (state : State) :
    (Program.call op next).alone perform state =
      ((next (perform state op).1).alone perform (perform state op).2).after
        [⟨op, (perform state op).1⟩] := rfl

/-- The second program starts in the state the first one has left. -/
theorem Program.alone_bind (program : Program S α) (next : α → Program S β) (state : State) :
    (program >>= next).alone perform state =
      ((next (program.alone perform state).outcome).alone perform
        (program.alone perform state).state).after (program.alone perform state).log := by
  induction program generalizing state with
  | done value => rfl
  | call op continuation ih =>
      rw [Program.call_bind, Program.alone_call, Program.alone_call, ih]
      rfl

variable {ε : Type} {program : ExceptT ε (Program S) α} {next : α → ExceptT ε (Program S) β}
  {state : State}

/-- The second program is run on the value of the first. -/
theorem alone_bindE {value : α} (ends : (program.run.alone perform state).outcome = .ok value) :
    (program >>= next).run.alone perform state =
      ((next value).run.alone perform (program.run.alone perform state).state).after
        (program.run.alone perform state).log := by
  change (program.run >>= ExceptT.bindCont next).alone perform state = _
  rw [Program.alone_bind, ends]
  rfl

/-- An exception of the first program ends both. -/
theorem alone_bind_error {raised : ε}
    (ends : (program.run.alone perform state).outcome = .error raised) :
    (program >>= next).run.alone perform state =
      ⟨(program.run.alone perform state).log, .error raised,
        (program.run.alone perform state).state⟩ := by
  change (program.run >>= ExceptT.bindCont next).alone perform state = _
  rw [Program.alone_bind, ends]
  change Course.after _ ⟨[], Except.error raised, _⟩ = _
  rw [Course.after, List.append_nil]

/-- How a program ends, as a value. -/
theorem alone_attempt :
    (attempt program).run.alone perform state =
      ⟨(program.run.alone perform state).log, .ok (program.run.alone perform state).outcome,
        (program.run.alone perform state).state⟩ := by
  change (program.run >>= fun outcome =>
    Program.done (.ok outcome : Except ε (Except ε α))).alone perform state = _
  rw [Program.alone_bind, Program.alone_done, Course.after, List.append_nil]

end Alone

/-! ### What a program achieves -/

section Achieves

variable {ε A : Type} {perform : State → (op : S.Op) → S.Reply op × State} {stands : State → A → Prop}

/-- **From any state that stands for this, the program ends in one that stands for something**, and
both that and how the program has ended satisfy the postcondition. -/
def Achieves (perform : State → (op : S.Op) → S.Reply op × State) (stands : State → A → Prop)
    (program : ExceptT ε (Program S) α) (before : A) (post : Except ε α → A → Prop) : Prop :=
  ∀ state, stands state before → ∃ after, stands (program.run.alone perform state).state after ∧
    post (program.run.alone perform state).outcome after

variable {program : ExceptT ε (Program S) α} {before : A}

theorem achieves_pure {value : α} {post : Except ε α → A → Prop} (holds : post (.ok value) before) :
    Achieves perform stands (pure value) before post :=
  fun _ standing => ⟨before, standing, holds⟩

theorem achieves_throw {raised : ε} {post : Except ε α → A → Prop}
    (holds : post (.error raised) before) : Achieves perform stands (throw raised) before post :=
  fun _ standing => ⟨before, standing, holds⟩

theorem achieves_compute {result : Except ε α} {post : Except ε α → A → Prop}
    (holds : post result before) : Achieves perform stands (compute result) before post :=
  fun _ standing => ⟨before, standing, holds⟩

theorem achieves_mono {post weaker : Except ε α → A → Prop}
    (achieves : Achieves perform stands program before post)
    (implies : ∀ outcome after, post outcome after → weaker outcome after) :
    Achieves perform stands program before weaker := by
  intro state standing
  obtain ⟨after, stood, holds⟩ := achieves state standing
  exact ⟨after, stood, implies _ _ holds⟩

/-- An exception of the first program ends both. -/
theorem achieves_bind {next : α → ExceptT ε (Program S) β} {post : Except ε β → A → Prop}
    (first : Achieves perform stands program before fun outcome after =>
      match outcome with
      | .ok value => Achieves perform stands (next value) after post
      | .error raised => post (.error raised) after) :
    Achieves perform stands (program >>= next) before post := by
  intro state standing
  obtain ⟨after, stood, holds⟩ := first state standing
  cases ends : (program.run.alone perform state).outcome with
  | error raised =>
      rw [ends] at holds
      rw [alone_bind_error perform ends]
      exact ⟨after, stood, holds⟩
  | ok value =>
      rw [ends] at holds
      rw [alone_bindE perform ends]
      exact holds _ stood

end Achieves

section Request

variable {Op ε A : Type} {Answer : Op → Type}
  {perform : State → (op : Op) → Except ε (Answer op) × State} {stands : State → A → Prop}
  {before : A}

/-- One operation, and what comes after its answer. -/
theorem achieves_request_bind {op : Op}
    {next : Answer op → ExceptT ε (Program (.raising Answer ε)) β} {post : Except ε β → A → Prop}
    (performs : ∀ state, stands state before → ∃ after, stands (perform state op).2 after ∧
      match (perform state op).1 with
      | .ok value => @Achieves (.raising Answer ε) _ _ _ _ perform stands (next value) after post
      | .error raised => post (.error raised) after) :
    @Achieves (.raising Answer ε) _ _ _ _ perform stands (request op >>= next) before post := by
  refine achieves_bind fun state standing => ?_
  obtain ⟨after, stood, holds⟩ := performs state standing
  have answered : ((request op : ExceptT ε (Program (.raising Answer ε)) (Answer op)).run.alone
      perform state).outcome = (perform state op).1 := rfl
  refine ⟨after, stood, ?_⟩
  rw [answered]
  cases told : (perform state op).1 with
  | ok value =>
      rw [told] at holds
      exact holds
  | error raised =>
      rw [told] at holds
      exact holds

end Request

end NewsCollect.Interleaving
