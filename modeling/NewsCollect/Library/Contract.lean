/-
**Contracts for records.**

A contract normalises a record field by field and checks it on the way. It is a list of steps: a
field is replaced by its normal form, or the values of some fields are checked. Where no field is
written after it has been read, everything that has been checked holds of the result, and the
contract leaves a result as it is as soon as every normal form is one.

* `Contract.run`: the steps, in order.
* `Contract.normal_of_run`, `Contract.holds_of_run`: what is known of a result.
* `Contract.run_result`: a result is left as it is.
* `Contract.forall_of_run`: what every normal form has, every value of a result has.
* `Contract.exists_run`: a record is accepted whose forms are known and pass the checks.
-/

import NewsCollect.Library.Json

namespace NewsCollect.Contract

variable {ε : Type}

/-- One step: a field is replaced by its normal form, or some fields are checked. -/
inductive Step (ε : Type) where
  | field (key : String) (normal : Json → Except ε Json)
  | check (reads : List String) (holds : List Json → Except ε Unit)

namespace Step

/-- The fields a step reads. -/
def reads : Step ε → List String
  | field key _ => [key]
  | check reads _ => reads

/-- The fields a step writes. -/
def writes : Step ε → List String
  | field key _ => [key]
  | check _ _ => []

def run (record : Object) : Step ε → Except ε Object
  | field key normal => (normal (record.get key)).map (record.set key)
  | check reads holds => (holds (reads.map record.get)).map fun _ => record

end Step

/-- The steps, in order. -/
def run : List (Step ε) → Object → Except ε Object
  | [], record => .ok record
  | step :: steps, record => (step.run record).bind (run steps)

/-- No field is written after it has been read. -/
def Ordered (steps : List (Step ε)) : Prop :=
  steps.Pairwise fun first later => ∀ key ∈ later.writes, key ∉ first.reads

section Run

variable {steps : List (Step ε)} {step : Step ε} {record next result : Object} {key : String}

theorem step_eq_ok (ran : step.run record = .ok next) :
    (∃ key normal value, step = .field key normal ∧ normal (record.get key) = .ok value ∧
        next = record.set key value) ∨
      ∃ reads holds, step = .check reads holds ∧ holds (reads.map record.get) = .ok () ∧
        next = record := by
  cases step with
  | field key normal =>
      cases done : normal (record.get key) with
      | error raised => simp [Step.run, done, Except.map] at ran
      | ok value =>
          simp only [Step.run, done, Except.map, Except.ok.injEq] at ran
          exact .inl ⟨key, normal, value, rfl, done, ran.symm⟩
  | check reads holds =>
      cases done : holds (reads.map record.get) with
      | error raised => simp [Step.run, done, Except.map] at ran
      | ok value =>
          simp only [Step.run, done, Except.map, Except.ok.injEq] at ran
          exact .inr ⟨reads, holds, rfl, done, ran.symm⟩

theorem run_cons_eq_ok :
    run (step :: steps) record = .ok result ↔
      ∃ next, step.run record = .ok next ∧ run steps next = .ok result := by
  cases done : step.run record with
  | error raised => simp [run, done, Except.bind]
  | ok next => simp [run, done, Except.bind]

/-- A step changes nothing but what it writes. -/
theorem get_of_step (ran : step.run record = .ok next) (other : key ∉ step.writes) :
    next.get key = record.get key := by
  obtain ⟨written, normal, value, rfl, -, rfl⟩ | ⟨-, -, -, -, rfl⟩ := step_eq_ok ran
  · exact Object.get_set_ne (by simpa [Step.writes] using other) record value
  · rfl

/-- The steps change nothing but what they write. -/
theorem get_of_run (ran : run steps record = .ok result)
    (other : ∀ step ∈ steps, key ∉ step.writes) : result.get key = record.get key := by
  induction steps generalizing record with
  | nil => exact congrArg (Object.get · key) (Except.ok.inj ran).symm
  | cons step steps ih =>
      obtain ⟨next, first, rest⟩ := run_cons_eq_ok.1 ran
      rw [ih rest fun later member => other later (List.mem_cons_of_mem _ member)]
      exact get_of_step first (other step (List.mem_cons_self ..))

/-- The keys stay, where the steps write to keys that are there. -/
theorem keys_of_run (ran : run steps record = .ok result)
    (inside : ∀ step ∈ steps, ∀ key ∈ step.writes, key ∈ record.keys) :
    result.keys = record.keys := by
  induction steps generalizing record with
  | nil => exact congrArg Object.keys (Except.ok.inj ran).symm
  | cons step steps ih =>
      obtain ⟨next, first, rest⟩ := run_cons_eq_ok.1 ran
      have same : next.keys = record.keys := by
        obtain ⟨written, normal, value, rfl, -, rfl⟩ | ⟨-, -, -, -, rfl⟩ := step_eq_ok first
        · exact Object.keys_set value (inside _ (List.mem_cons_self ..) written
            (by simp [Step.writes]))
        · rfl
      rw [← same]
      refine ih rest fun later member key written => ?_
      rw [same]
      exact inside later (List.mem_cons_of_mem _ member) key written

/-- **A value of the result is the normal form of the value in the record.** -/
theorem normal_of_run (ordered : Ordered steps) (ran : run steps record = .ok result)
    {normal : Json → Except ε Json} (member : .field key normal ∈ steps) :
    normal (record.get key) = .ok (result.get key) := by
  induction steps generalizing record with
  | nil => simp at member
  | cons step steps ih =>
      obtain ⟨next, first, rest⟩ := run_cons_eq_ok.1 ran
      obtain ⟨here, later⟩ := List.pairwise_cons.1 ordered
      rcases List.mem_cons.1 member with rfl | inside
      · obtain ⟨written, normal', value, same, done, rfl⟩ | ⟨_, _, same, _⟩ := step_eq_ok first
        · obtain ⟨rfl, rfl⟩ := Step.field.inj same
          rw [get_of_run rest fun other held written => here other held key written
            (by simp [Step.reads]), Object.get_set_same, done]
        · cases same
      · have other : key ∉ step.writes := fun written =>
          here _ inside key (by simp [Step.writes]) (by
            cases step with
            | field => exact written
            | check => simp [Step.writes] at written)
        rw [← get_of_step first other]
        exact ih later rest inside

/-- **What has been checked holds of the result.** -/
theorem holds_of_run (ordered : Ordered steps) (ran : run steps record = .ok result)
    {reads : List String} {holds : List Json → Except ε Unit}
    (member : .check reads holds ∈ steps) : holds (reads.map result.get) = .ok () := by
  induction steps generalizing record with
  | nil => simp at member
  | cons step steps ih =>
      obtain ⟨next, first, rest⟩ := run_cons_eq_ok.1 ran
      obtain ⟨here, later⟩ := List.pairwise_cons.1 ordered
      rcases List.mem_cons.1 member with rfl | inside
      · obtain ⟨_, _, _, same, _⟩ | ⟨reads', holds', same, done, rfl⟩ := step_eq_ok first
        · cases same
        · obtain ⟨rfl, rfl⟩ := Step.check.inj same
          rw [← done]
          refine congrArg holds (List.map_congr_left fun key read => ?_)
          exact get_of_run rest fun other held written => here other held key written read
      · exact ih later rest inside

/-- **A result is left as it is**, if its values are normal forms of themselves. -/
theorem run_result (ordered : Ordered steps) (ran : run steps record = .ok result)
    (stable : ∀ key normal, .field key normal ∈ steps →
      normal (result.get key) = .ok (result.get key) ∧
        result.lookup key = some (result.get key)) : run steps result = .ok result := by
  have every : ∀ some : List (Step ε), (∀ step ∈ some, step ∈ steps) →
      run some result = .ok result := by
    intro some inside
    induction some with
    | nil => rfl
    | cons step some ih =>
        refine run_cons_eq_ok.2 ⟨result, ?_, ih fun later member =>
          inside later (List.mem_cons_of_mem _ member)⟩
        have member := inside step (List.mem_cons_self ..)
        cases step with
        | field key normal =>
            obtain ⟨same, held⟩ := stable key normal member
            simp only [Step.run, same, Except.map, Object.set_self held]
        | check reads holds => simp only [Step.run, holds_of_run ordered ran member, Except.map]
  exact every steps fun step member => member

/-- **What every value of the record and every normal form has, every value of the result has.** -/
theorem forall_of_run (holds : Json → Prop) (ordered : Ordered steps)
    (ran : run steps record = .ok result)
    (normals : ∀ key normal, .field key normal ∈ steps → holds (result.get key))
    (before : ∀ entry ∈ record, holds entry.2) : ∀ entry ∈ result, holds entry.2 := by
  induction steps generalizing record with
  | nil => exact Except.ok.inj ran ▸ before
  | cons step steps ih =>
      obtain ⟨next, first, rest⟩ := run_cons_eq_ok.1 ran
      obtain ⟨here, later⟩ := List.pairwise_cons.1 ordered
      refine ih later rest
        (fun key normal member => normals key normal (List.mem_cons_of_mem _ member)) ?_
      obtain ⟨key, normal, form, rfl, done, rfl⟩ | ⟨-, -, -, -, rfl⟩ := step_eq_ok first
      · have same : result.get key = form := by
          rw [get_of_run rest fun other member written =>
            here other member key written (by simp [Step.reads]), Object.get_set_same]
        intro entry member
        rcases Object.mem_set member with rfl | old
        · exact same ▸ normals key normal (List.mem_cons_self ..)
        · exact before entry old
      · exact before

/-- **A record is accepted** whose forms are known, if they pass the checks. -/
theorem exists_run (ordered : Ordered steps) (forms : String → Json)
    (fields : ∀ key normal, .field key normal ∈ steps →
      normal (record.get key) = .ok (forms key))
    (others : ∀ key, (∀ step ∈ steps, key ∉ step.writes) → record.get key = forms key)
    (checks : ∀ reads holds, .check reads holds ∈ steps → holds (reads.map forms) = .ok ()) :
    ∃ result, run steps record = .ok result := by
  induction steps generalizing record with
  | nil => exact ⟨record, rfl⟩
  | cons step steps ih =>
      obtain ⟨here, later⟩ := List.pairwise_cons.1 ordered
      have checks' := fun reads holds member =>
        checks reads holds (List.mem_cons_of_mem _ member)
      cases step with
      | check reads holds =>
          have known : reads.map record.get = reads.map forms := by
            refine List.map_congr_left fun key read => others key fun step member written => ?_
            rcases List.mem_cons.1 member with rfl | inside
            · simp [Step.writes] at written
            · exact here step inside key written read
          obtain ⟨result, ran⟩ := ih later
            (fun key normal member => fields key normal (List.mem_cons_of_mem _ member))
            (fun key unwritten => others key (List.forall_mem_cons.2 ⟨by simp [Step.writes], unwritten⟩))
            checks'
          refine ⟨result, run_cons_eq_ok.2 ⟨record, ?_, ran⟩⟩
          simp only [Step.run, known, checks reads holds (List.mem_cons_self ..), Except.map]
      | field key normal =>
          have done := fields key normal (List.mem_cons_self ..)
          have fresh : ∀ step ∈ steps, key ∉ step.writes := fun step member written =>
            here step member key written (by simp [Step.reads])
          obtain ⟨result, ran⟩ := @ih (record.set key (forms key)) later
            (fun other normal' member => by
              have different : other ≠ key := fun same =>
                fresh _ member (by simp [Step.writes, same])
              rw [Object.get_set_ne different]
              exact fields other normal' (List.mem_cons_of_mem _ member))
            (fun other unwritten => by
              by_cases same : other = key
              · rw [same, Object.get_set_same]
              · rw [Object.get_set_ne same]
                exact others other (List.forall_mem_cons.2 ⟨by simpa [Step.writes] using same,
                  unwritten⟩))
            checks'
          exact ⟨result, run_cons_eq_ok.2 ⟨_, by simp only [Step.run, done, Except.map], ran⟩⟩

end Run

end NewsCollect.Contract
