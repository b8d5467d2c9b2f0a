/-
**A pool of programs over one shared state.**

Any number of programs run against one state, one atomic operation at a time, in any order. A
program may stop for ever between two operations, a new one may be started at any moment, and the
environment may act on the state by itself. Nothing of a program is visible to a proof but the
replies it has had, so what a proof knows of a task is the phase its replies have led to.

* `World.step`, `World.run`: one event and a list of events, executable.
* `Discipline`: a protocol every program of the system follows.
* `Discipline.Reaches`: the states reached by runs all of whose moves satisfy a guard.
* `Discipline.Reaches.invariant`: an invariant of the state and of the phases that every guarded
  move preserves holds in every state reached.
-/

import Mathlib.Logic.Function.Basic
import Mathlib.Data.Nat.Notation
import Mathlib.Tactic.TypeStar
import NewsCollect.Library.Program

namespace NewsCollect.Interleaving

/-- **A system.** The programs that may be started, what one operation does to the shared state
under a choice of the environment, what the end of a task without its clean-up does, and what the
environment may do by itself. -/
structure System (S : Signature) (α State Choice Job Env : Type) where
  program : Job → Program S α
  accept : State → Job → Option State
  exec : State → ℕ → (op : S.Op) → Choice → Option (S.Reply op × State)
  crash : State → ℕ → State
  env : State → Env → Option State

variable {S : Signature} {α State Choice Job Env P : Type}

/-- A started program: what it was started for, what is left of it, and the replies it has had. -/
structure Task (S : Signature) (α Job : Type) where
  job : Job
  program : Program S α
  log : List (Σ op : S.Op, S.Reply op)

/-- **The shared state and the tasks.** Task numbers are given in the order of starting. -/
structure World (S : Signature) (α State Job : Type) where
  state : State
  tasks : ℕ → Option (Task S α Job)
  count : ℕ
  unstarted : ∀ who, count ≤ who → tasks who = none

/-- What may happen next. -/
inductive Event (Choice Job Env : Type) where
  | work (who : ℕ) (choice : Choice)
  | crash (who : ℕ)
  | start (job : Job)
  | env (action : Env)

/-- The same, with the operation a task asks for. -/
inductive Move (S : Signature) (Choice Job Env : Type) where
  | work (who : ℕ) (op : S.Op) (choice : Choice)
  | crash (who : ℕ)
  | start (job : Job)
  | env (action : Env)

namespace World

/-- Change one task that has been started. -/
def setTask (world : World S α State Job) (who : ℕ) (started : who < world.count)
    (state : State) (task : Option (Task S α Job)) : World S α State Job where
  state := state
  tasks := Function.update world.tasks who task
  count := world.count
  unstarted := fun other beyond => by
    rw [Function.update_of_ne (by omega)]
    exact world.unstarted other beyond

/-- Add a task. -/
def addTask (world : World S α State Job) (state : State) (task : Task S α Job) :
    World S α State Job where
  state := state
  tasks := Function.update world.tasks world.count (some task)
  count := world.count + 1
  unstarted := fun other beyond => by
    rw [Function.update_of_ne (by omega)]
    exact world.unstarted other (by omega)

/-- One event. -/
def step (M : System S α State Choice Job Env) (world : World S α State Job) :
    Event Choice Job Env → Option (World S α State Job)
  | .work who choice =>
      if started : who < world.count then
        match world.tasks who with
        | some ⟨job, .call op next, log⟩ =>
            match M.exec world.state who op choice with
            | some (reply, state) =>
                some (world.setTask who started state
                  (some ⟨job, next reply, log ++ [⟨op, reply⟩]⟩))
            | none => none
        | _ => none
      else none
  | .crash who =>
      if started : who < world.count then
        match world.tasks who with
        | some _ => some (world.setTask who started (M.crash world.state who) none)
        | none => none
      else none
  | .start job =>
      (M.accept world.state job).map fun state => world.addTask state ⟨job, M.program job, []⟩
  | .env action => (M.env world.state action).map fun state => { world with state := state }

/-- A list of events, in order. -/
def run (M : System S α State Choice Job Env) :
    World S α State Job → List (Event Choice Job Env) → Option (World S α State Job)
  | world, [] => some world
  | world, event :: events => (world.step M event).bind fun next => run M next events

/-- What an event does, with the operation its task asks for. -/
def move (world : World S α State Job) : Event Choice Job Env → Option (Move S Choice Job Env)
  | .work who choice =>
      match world.tasks who with
      | some ⟨_, .call op _, _⟩ => some (.work who op choice)
      | _ => none
  | .crash who => some (.crash who)
  | .start job => some (.start job)
  | .env action => some (.env action)

/-- A list of events, in order, as long as each passes a check before it. -/
def checked (M : System S α State Choice Job Env)
    (check : World S α State Job → Event Choice Job Env → Bool) :
    World S α State Job → List (Event Choice Job Env) → Option (World S α State Job)
  | world, [] => some world
  | world, event :: events =>
      if check world event then (world.step M event).bind fun next => checked M check next events
      else none

/-- Whatever happens has been asked for. -/
theorem move_of_step {M : System S α State Choice Job Env} {world next : World S α State Job}
    {event : Event Choice Job Env} (stepped : world.step M event = some next) :
    ∃ move, world.move event = some move := by
  cases event with
  | work who choice =>
      unfold World.step at stepped
      simp only at stepped
      split at stepped
      · split at stepped
        · next job op rest log found =>
          exact ⟨.work who op choice, by simp [World.move, found]⟩
        · simp at stepped
      · simp at stepped
  | crash who => exact ⟨.crash who, rfl⟩
  | start job => exact ⟨.start job, rfl⟩
  | env action => exact ⟨.env action, rfl⟩

/-- What a task has been told it had been told before, or the event has told it. -/
theorem log_of_step {M : System S α State Choice Job Env} {world next : World S α State Job}
    {event : Event Choice Job Env} (stepped : world.step M event = some next) {who : ℕ}
    {task : Task S α Job} (found : next.tasks who = some task) {entry : Σ op : S.Op, S.Reply op}
    (member : entry ∈ task.log) :
    (∃ before, world.tasks who = some before ∧ entry ∈ before.log) ∨
      ∃ choice state, event = .work who choice ∧
        M.exec world.state who entry.1 choice = some (entry.2, state) := by
  cases event with
  | work mover choice =>
      unfold World.step at stepped
      simp only at stepped
      split at stepped
      · split at stepped
        · next job op rest log held =>
          split at stepped
          · next reply state executed =>
            obtain rfl := Option.some.inj stepped
            by_cases same : who = mover
            · subst same
              obtain rfl : (⟨job, rest reply, log ++ [⟨op, reply⟩]⟩ : Task S α Job) = task := by
                simpa [World.setTask] using found
              rcases List.mem_append.1 member with old | new
              · exact .inl ⟨_, held, old⟩
              · obtain rfl := List.mem_singleton.1 new
                exact .inr ⟨choice, state, rfl, executed⟩
            · refine .inl ⟨task, ?_, member⟩
              simpa [World.setTask, Function.update_of_ne same] using found
          · simp at stepped
        · simp at stepped
      · simp at stepped
  | crash mover =>
      unfold World.step at stepped
      simp only at stepped
      split at stepped
      · split at stepped
        · obtain rfl := Option.some.inj stepped
          by_cases same : who = mover
          · subst same
            simp [World.setTask] at found
          · refine .inl ⟨task, ?_, member⟩
            simpa [World.setTask, Function.update_of_ne same] using found
        · simp at stepped
      · simp at stepped
  | start job =>
      obtain ⟨state, accepted, rfl⟩ := Option.map_eq_some_iff.1 stepped
      by_cases same : who = world.count
      · subst same
        obtain rfl : (⟨job, M.program job, []⟩ : Task S α Job) = task := by
          simpa [World.addTask] using found
        exact absurd member List.not_mem_nil
      · refine .inl ⟨task, ?_, member⟩
        simpa [World.addTask, Function.update_of_ne same] using found
  | env action =>
      obtain ⟨state, acted, rfl⟩ := Option.map_eq_some_iff.1 stepped
      exact .inl ⟨task, found, member⟩

/-- The world before anything has been started. -/
def initial (state : State) : World S α State Job := ⟨state, fun _ => none, 0, fun _ _ => rfl⟩

end World

/-- **A discipline**: a protocol that every program of the system follows from the phase its job
starts in. -/
structure Discipline (M : System S α State Choice Job Env) (P : Type) extends Protocol S P where
  initial : Job → P
  finished : P → α → Prop
  adheres : ∀ job, toProtocol.Follows (initial job) (M.program job) finished

namespace Discipline

variable {M : System S α State Choice Job Env} (D : Discipline M P)

/-- The phase a task's replies have led to. -/
def phase (task : Task S α Job) : P :=
  task.log.foldl (fun phase entry => D.next phase entry.1 entry.2) (D.initial task.job)

/-- The phase of each task. -/
def phases (world : World S α State Job) : ℕ → Option P :=
  fun who => (world.tasks who).map D.phase

/-- Every task still follows the protocol. -/
def Adherent (world : World S α State Job) : Prop :=
  ∀ who task, world.tasks who = some task → D.Follows (D.phase task) task.program D.finished

@[simp] theorem phase_append (job : Job) (program rest : Program S α)
    (log : List (Σ op : S.Op, S.Reply op)) (op : S.Op) (reply : S.Reply op) :
    D.phase ⟨job, rest, log ++ [⟨op, reply⟩]⟩ = D.next (D.phase ⟨job, program, log⟩) op reply := by
  simp [phase]

theorem phases_setTask (world : World S α State Job) (who : ℕ) (started : who < world.count)
    (state : State) (task : Option (Task S α Job)) :
    D.phases (world.setTask who started state task) =
      Function.update (D.phases world) who (task.map D.phase) := by
  funext other
  by_cases same : other = who
  · subst same
    simp [phases, World.setTask]
  · simp [phases, World.setTask, Function.update_of_ne same]

theorem phases_addTask (world : World S α State Job) (state : State) (task : Task S α Job) :
    D.phases (world.addTask state task) =
      Function.update (D.phases world) world.count (some (D.phase task)) := by
  funext other
  by_cases same : other = world.count
  · subst same
    simp [phases, World.addTask]
  · simp [phases, World.addTask, Function.update_of_ne same]

theorem phases_count (world : World S α State Job) : D.phases world world.count = none := by
  simp [phases, world.unstarted world.count (Nat.le_refl _)]

/-- Which moves a run may make, given the state and the phases before the move. -/
abbrev Guard (_ : Discipline M P) : Type :=
  State → (ℕ → Option P) → Move S Choice Job Env → Prop

/-- **Guarded runs.** -/
inductive Reaches (guard : D.Guard) : World S α State Job → World S α State Job → Prop where
  | refl (world) : Reaches guard world world
  | step {first world next} {event : Event Choice Job Env} {move : Move S Choice Job Env}
      (run : Reaches guard first world) (asked : world.move event = some move)
      (allowed : guard world.state (D.phases world) move)
      (stepped : world.step M event = some next) : Reaches guard first next

/-- **What one step can do**, in terms of the state and of the phases: a task has one allowed
operation performed, a task ends, a task starts in its job's phase, or the environment acts. -/
inductive Stepped : State → (ℕ → Option P) → Move S Choice Job Env → State → (ℕ → Option P) →
    Prop where
  | work {state phases} (who : ℕ) (op : S.Op) (choice : Choice) {phase reply state'}
      (bound : phases who = some phase) (allowed : D.allowed phase op)
      (executed : M.exec state who op choice = some (reply, state')) :
      Stepped state phases (.work who op choice) state'
        (Function.update phases who (some (D.next phase op reply)))
  | crash {state phases} (who : ℕ) {phase} (bound : phases who = some phase) :
      Stepped state phases (.crash who) (M.crash state who) (Function.update phases who none)
  | start {state phases} (who : ℕ) (job : Job) {state'} (free : phases who = none)
      (accepted : M.accept state job = some state') :
      Stepped state phases (.start job) state'
        (Function.update phases who (some (D.initial job)))
  | env {state phases} (action : Env) {state'} (acted : M.env state action = some state') :
      Stepped state phases (.env action) state' phases

/-- The inversion of a step: what it does to the state and the phases, and that every task still
follows the protocol. -/
theorem stepped_of_step {world next : World S α State Job} {event : Event Choice Job Env}
    {move : Move S Choice Job Env} (adherent : D.Adherent world)
    (asked : world.move event = some move) (stepped : world.step M event = some next) :
    D.Stepped world.state (D.phases world) move next.state (D.phases next) ∧ D.Adherent next := by
  cases event with
  | work who choice =>
      unfold World.step at stepped
      simp only at stepped
      split at stepped
      · next started =>
        split at stepped
        · next job op rest log found =>
          split at stepped
          · next reply state executed =>
            obtain rfl : world.setTask who started state
              (some ⟨job, rest reply, log ++ [⟨op, reply⟩]⟩) = next := by simpa using stepped
            obtain rfl : Move.work who op choice = move := by
              simpa [World.move, found] using asked
            have follows := adherent who _ found
            refine ⟨?_, ?_⟩
            · rw [phases_setTask]
              simp only [Option.map_some]
              rw [D.phase_append job (.call op rest)]
              exact .work who op choice (by simp [phases, found]) follows.1 executed
            · intro other task found'
              by_cases same : other = who
              · subst same
                have : task = ⟨job, rest reply, log ++ [⟨op, reply⟩]⟩ := by
                  simpa [World.setTask] using found'.symm
                subst this
                rw [D.phase_append job (.call op rest)]
                exact follows.2 reply
              · refine adherent other task ?_
                simpa [World.setTask, Function.update_of_ne same] using found'
          · simp at stepped
        · simp at stepped
      · simp at stepped
  | crash who =>
      unfold World.step at stepped
      simp only at stepped
      obtain rfl : Move.crash who = move := by simpa [World.move] using asked
      split at stepped
      · next started =>
        split at stepped
        · next task found =>
          obtain rfl : world.setTask who started (M.crash world.state who) none = next := by
            simpa using stepped
          refine ⟨?_, ?_⟩
          · rw [phases_setTask]
            have held : D.phases world who = some (D.phase task) := by simp [phases, found]
            exact .crash who held
          · intro other task' found'
            by_cases same : other = who
            · subst same
              simp [World.setTask] at found'
            · refine adherent other task' ?_
              simpa [World.setTask, Function.update_of_ne same] using found'
        · simp at stepped
      · simp at stepped
  | start job =>
      obtain rfl : Move.start job = move := by simpa [World.move] using asked
      obtain ⟨state, accepted, rfl⟩ := Option.map_eq_some_iff.1 stepped
      refine ⟨?_, ?_⟩
      · rw [phases_addTask]
        exact .start world.count job (D.phases_count world) accepted
      · intro other task found
        by_cases same : other = world.count
        · subst same
          obtain rfl : (⟨job, M.program job, []⟩ : Task S α Job) = task := by
            simpa [World.addTask] using found
          exact D.adheres job
        · refine adherent other task ?_
          simpa [World.addTask, Function.update_of_ne same] using found
  | env action =>
      obtain rfl : Move.env action = move := by simpa [World.move] using asked
      obtain ⟨state, acted, rfl⟩ := Option.map_eq_some_iff.1 stepped
      exact ⟨.env action acted, adherent⟩

/-- An invariant that every guarded step preserves. -/
def Preserves (guard : D.Guard) (holds : State → (ℕ → Option P) → Prop) : Prop :=
  ∀ state phases move state' phases', D.Stepped state phases move state' phases' →
    guard state phases move → holds state phases → holds state' phases'

theorem Reaches.adherent {guard : D.Guard} {first last : World S α State Job}
    (run : D.Reaches guard first last) (start : D.Adherent first) : D.Adherent last := by
  induction run with
  | refl => exact start
  | step _ asked _ stepped ih => exact (D.stepped_of_step ih asked stepped).2

/-- **The invariant rule**: what every guarded step preserves holds in every state reached. -/
theorem Reaches.invariant {guard : D.Guard} {holds : State → (ℕ → Option P) → Prop}
    {first last : World S α State Job} (preserves : D.Preserves guard holds)
    (run : D.Reaches guard first last) (start : D.Adherent first)
    (initially : holds first.state (D.phases first)) : holds last.state (D.phases last) := by
  induction run with
  | refl => exact initially
  | step before asked allowed stepped ih =>
      have adherent := before.adherent D start
      exact preserves _ _ _ _ _ (D.stepped_of_step adherent asked stepped).1 allowed ih

theorem Reaches.mono {guard stronger : D.Guard} {first last : World S α State Job}
    (run : D.Reaches stronger first last)
    (implies : ∀ state phases move, stronger state phases move → guard state phases move) :
    D.Reaches guard first last := by
  induction run with
  | refl => exact .refl _
  | step _ asked allowed stepped ih => exact .step ih asked (implies _ _ _ allowed) stepped

/-- What one step does to the tasks: a task has one allowed operation performed and remembers the
reply, or it is one that has been there, or one that has just been started. -/
theorem tasks_of_step {world next : World S α State Job} {event : Event Choice Job Env}
    (adherent : D.Adherent world) (stepped : world.step M event = some next) {who : ℕ}
    {task : Task S α Job} (found : next.tasks who = some task) :
    (∃ op reply rest, world.tasks who = some ⟨task.job, .call op rest, task.log.dropLast⟩ ∧
        D.allowed (D.phase ⟨task.job, .call op rest, task.log.dropLast⟩) op ∧
        task.log = task.log.dropLast ++ [⟨op, reply⟩]) ∨
      world.tasks who = some task ∨ task.log = [] := by
  cases event with
  | work mover choice =>
      unfold World.step at stepped
      simp only at stepped
      split at stepped
      · split at stepped
        · next job op rest log held =>
          split at stepped
          · next reply state executed =>
            obtain rfl := Option.some.inj stepped
            by_cases same : who = mover
            · subst same
              obtain rfl : (⟨job, rest reply, log ++ [⟨op, reply⟩]⟩ : Task S α Job) = task := by
                simpa [World.setTask] using found
              simp only [List.dropLast_concat]
              exact .inl ⟨op, reply, rest, held, (adherent who _ held).1, rfl⟩
            · refine .inr (.inl ?_)
              simpa [World.setTask, Function.update_of_ne same] using found
          · simp at stepped
        · simp at stepped
      · simp at stepped
  | crash mover =>
      unfold World.step at stepped
      simp only at stepped
      split at stepped
      · split at stepped
        · obtain rfl := Option.some.inj stepped
          by_cases same : who = mover
          · subst same
            simp [World.setTask] at found
          · refine .inr (.inl ?_)
            simpa [World.setTask, Function.update_of_ne same] using found
        · simp at stepped
      · simp at stepped
  | start job =>
      obtain ⟨state, accepted, rfl⟩ := Option.map_eq_some_iff.1 stepped
      by_cases same : who = world.count
      · subst same
        obtain rfl : (⟨job, M.program job, []⟩ : Task S α Job) = task := by
          simpa [World.addTask] using found
        exact .inr (.inr rfl)
      · refine .inr (.inl ?_)
        simpa [World.addTask, Function.update_of_ne same] using found
  | env action =>
      obtain ⟨state, acted, rfl⟩ := Option.map_eq_some_iff.1 stepped
      exact .inr (.inl found)

/-- **The rule for logs**: what holds of the empty log and is kept by every allowed reply holds of
the log and the phase of every task. -/
theorem Reaches.log_invariant {guard : D.Guard} {first last : World S α State Job}
    {holds : P → List (Σ op : S.Op, S.Reply op) → Prop} (run : D.Reaches guard first last)
    (start : D.Adherent first)
    (before : ∀ who task, first.tasks who = some task → holds (D.phase task) task.log)
    (initially : ∀ job, holds (D.initial job) [])
    (kept : ∀ phase log op reply, D.allowed phase op → holds phase log →
      holds (D.next phase op reply) (log ++ [⟨op, reply⟩])) :
    ∀ who task, last.tasks who = some task → holds (D.phase task) task.log := by
  induction run with
  | refl => exact before
  | step run _ _ stepped ih =>
      intro who task found
      obtain ⟨op, reply, rest, held, allowed, log⟩ | held | empty :=
        D.tasks_of_step (run.adherent D start) stepped found
      · have earlier := kept _ _ op reply allowed (ih who _ held)
        obtain ⟨job, program, whole⟩ := task
        simp only at log earlier ⊢
        rw [← D.phase_append job (.call op rest) program, ← log] at earlier
        exact earlier
      · exact ih who task held
      · obtain ⟨job, program, log⟩ := task
        obtain rfl : log = [] := empty
        exact initially job

/-- A list of events that have been checked is a guarded run, if the check implies the guard. -/
theorem Reaches.of_checked {guard : D.Guard}
    {check : World S α State Job → Event Choice Job Env → Bool}
    (implies : ∀ world event move, world.move event = some move → check world event = true →
      guard world.state (D.phases world) move)
    {events : List (Event Choice Job Env)} {first world last : World S α State Job}
    (before : D.Reaches guard first world) (ran : world.checked M check events = some last) :
    D.Reaches guard first last := by
  induction events generalizing world with
  | nil =>
      obtain rfl := Option.some.inj ran
      exact before
  | cons event events ih =>
      unfold World.checked at ran
      split at ran
      · next passed =>
        obtain ⟨next, stepped, rest⟩ := Option.bind_eq_some_iff.1 ran
        obtain ⟨move, asked⟩ := World.move_of_step stepped
        exact ih (.step before asked (implies _ _ _ asked passed) stepped) rest
      · simp at ran

theorem adherent_initial (state : State) : D.Adherent (.initial state) := by
  intro who task found
  simp [World.initial] at found

theorem phases_initial (state : State) :
    D.phases (.initial state) = fun _ => none := rfl

/-- The discipline that knows nothing of the programs. -/
def free (M : System S α State Choice Job Env) : Discipline M Unit where
  toProtocol := .anything S
  initial _ := ()
  finished _ _ := True
  adheres _ := Protocol.follows_anything

/-- Any run at all. -/
abbrev anyMove : D.Guard := fun _ _ _ => True

/-- A list of events is a run. -/
theorem Reaches.of_run {events : List (Event Choice Job Env)} {first world last : World S α State Job}
    (before : D.Reaches D.anyMove first world) (ran : world.run M events = some last) :
    D.Reaches D.anyMove first last := by
  induction events generalizing world with
  | nil =>
      obtain rfl := Option.some.inj ran
      exact before
  | cons event events ih =>
      obtain ⟨next, stepped, rest⟩ := Option.bind_eq_some_iff.1 ran
      obtain ⟨move, asked⟩ := World.move_of_step stepped
      exact ih (.step before asked trivial stepped) rest

end Discipline

end NewsCollect.Interleaving
