/-
**The exceptions of the program.**

An exception is its class and its message, and an `except` clause catches a class with everything
derived from it. The classes are those the modelled functions raise or catch.

* `ExceptionClass.isA`: the class hierarchy.
* `PyError`, `Result`: exceptions, and functions that may raise.
-/

import NewsCollect.Library.Json

namespace NewsCollect

/-- The classes of exceptions. -/
inductive ExceptionClass where
  | exception
  | runtimeError
  | targetRepositoryError
  | targetLockLost
  | downstreamPersistenceError
  | credentialResolutionError
  | valueError
  | targetConfigError
  | cursorContractError
  | continuationContractError
  | projectionContractError
  | richEvidenceError
  | handoffConflict
  | typeError
  | lookupError
  | keyError
  | indexError
  | attributeError
  | arithmeticError
  | overflowError
  | assertionError
  | timeoutError
  | sqlAlchemyError
  | redisError
  | operationalError
deriving DecidableEq, Repr

namespace ExceptionClass

/-- The class a class is derived from. -/
def parent : ExceptionClass → Option ExceptionClass
  | exception => none
  | targetRepositoryError | targetLockLost | downstreamPersistenceError
  | credentialResolutionError => some runtimeError
  | targetConfigError | cursorContractError | continuationContractError
  | projectionContractError | richEvidenceError | handoffConflict => some valueError
  | keyError | indexError => some lookupError
  | overflowError => some arithmeticError
  | _ => some exception

/-- `issubclass`: no class here is more than two steps below `Exception`. -/
def isA (cls other : ExceptionClass) : Bool :=
  cls == other || cls.parent == some other || (cls.parent.bind parent) == some other

end ExceptionClass

/-- An exception. -/
structure PyError where
  cls : ExceptionClass
  message : String
deriving DecidableEq, Repr

/-- What a function that may raise returns. -/
abbrev Result (α : Type) : Type := Except PyError α

/-- `except (..., ...)`. -/
def PyError.isAny (error : PyError) (classes : List ExceptionClass) : Bool :=
  classes.any error.cls.isA

/-- Raise an exception. -/
def raise {α : Type} (cls : ExceptionClass) (message : String) : Result α := .error ⟨cls, message⟩

/-- Raise the exception unless the condition holds. -/
def require (condition : Bool) (cls : ExceptionClass) (message : String) : Result Unit :=
  if condition then .ok () else .error ⟨cls, message⟩

/-- The value that is there, or the exception. -/
def orRaise {α : Type} (value : Option α) (cls : ExceptionClass) (message : String) : Result α :=
  match value with
  | some value => .ok value
  | none => raise cls message

/-- A check that is made in one case only. -/
def onlyIf (condition : Bool) (check : Result Unit) : Result Unit :=
  if condition then check else .ok ()

@[simp] theorem require_true (cls : ExceptionClass) (message : String) :
    require true cls message = .ok () := rfl

@[simp] theorem require_false (cls : ExceptionClass) (message : String) :
    require false cls message = .error ⟨cls, message⟩ := rfl

@[simp] theorem require_eq_ok {condition : Bool} {cls : ExceptionClass} {message : String} {u : Unit} :
    require condition cls message = .ok u ↔ condition = true := by
  cases condition <;> simp [require]

@[simp] theorem orRaise_eq_ok {α : Type} {value : Option α} {cls : ExceptionClass} {message : String}
    {found : α} : orRaise value cls message = .ok found ↔ value = some found := by
  cases value <;> simp [orRaise, raise]

@[simp] theorem onlyIf_eq_ok {condition : Bool} {check : Result Unit} {u : Unit} :
    onlyIf condition check = .ok u ↔ (condition = true → check = .ok u) := by
  cases condition <;> simp [onlyIf]

/-- A computation that returned had every part return. -/
theorem bind_eq_ok {ε α β : Type} {first : Except ε α} {next : α → Except ε β} {value : β} :
    (first >>= next) = .ok value ↔ ∃ held, first = .ok held ∧ next held = .ok value := by
  cases first with
  | error raised => simp [Bind.bind, Except.bind]
  | ok held => simp [Bind.bind, Except.bind]

/-- The same for a check, which returns nothing. -/
theorem check_eq_ok {ε β : Type} {check : Except ε Unit} {next : Unit → Except ε β} {value : β} :
    (check >>= next) = .ok value ↔ check = .ok () ∧ next () = .ok value := by
  rw [bind_eq_ok]
  exact ⟨fun ⟨_, first, second⟩ => ⟨first, second⟩, fun both => ⟨(), both⟩⟩

@[simp] theorem pure_eq_ok {ε α : Type} {value other : α} :
    (pure value : Except ε α) = .ok other ↔ value = other := by
  simp [pure, Except.pure]

/-- A result that is passed on. -/
theorem map_eq_ok {ε α β : Type} {result : Except ε α} {next : α → β} {value : β} :
    result.map next = .ok value ↔ ∃ held, result = .ok held ∧ next held = value := by
  cases result with
  | error raised => simp [Except.map]
  | ok held => simp [Except.map]

/-- What every step of a loop preserves, the loop preserves. -/
theorem foldlM_preserves {ε α β : Type} {step : β → α → Except ε β} {holds : β → Prop}
    {items : List α}
    (preserves : ∀ state, ∀ item ∈ items, ∀ next, step state item = .ok next → holds state →
      holds next)
    {first last : β} (ran : items.foldlM step first = .ok last) (initially : holds first) :
    holds last := by
  induction items generalizing first with
  | nil => exact (pure_eq_ok.1 ran) ▸ initially
  | cons item items ih =>
      obtain ⟨next, stepped, rest⟩ := bind_eq_ok.1 ran
      exact ih (fun state other member => preserves state other (List.mem_cons_of_mem _ member)) rest
        (preserves first item (List.mem_cons_self ..) next stepped initially)

/-- `value[key]`. -/
def item (value : Json) (key : String) : Result Json :=
  match value with
  | .obj members =>
      match members.lookup key with
      | some value => .ok value
      | none => raise .keyError key
  | _ => raise .typeError "indices must be integers or slices, not str"

/-! ### Which class a function raises -/

/-- Every exception of the function is of this class. -/
def Raises {α : Type} (cls : ExceptionClass) (result : Result α) : Prop :=
  ∀ error, result = .error error → error.cls = cls

theorem raises_ok {α : Type} {cls : ExceptionClass} {value : α} :
    Raises cls (.ok value : Result α) := by
  simp [Raises]

theorem raises_raise {α : Type} {cls : ExceptionClass} {message : String} :
    Raises cls (raise cls message : Result α) := by
  rintro error raised
  simp only [raise, Except.error.injEq] at raised
  rw [← raised]

theorem raises_require {cls : ExceptionClass} {condition : Bool} {message : String} :
    Raises cls (require condition cls message) := by
  cases condition with
  | true => exact raises_ok
  | false => exact raises_raise

theorem raises_onlyIf {cls : ExceptionClass} {condition : Bool} {check : Result Unit}
    (raises : Raises cls check) : Raises cls (onlyIf condition check) := by
  cases condition with
  | true => exact raises
  | false => exact raises_ok

theorem raises_bind {α β : Type} {cls : ExceptionClass} {first : Result α} {next : α → Result β}
    (before : Raises cls first) (after : ∀ value, Raises cls (next value)) :
    Raises cls (first >>= next) := by
  cases first with
  | ok value => exact after value
  | error raised =>
      intro error same
      exact before error (by simpa [Bind.bind, Except.bind] using same)

/-! ### Which exception a function does not raise -/

/-- The function does not raise this exception. -/
def Never {α : Type} (error : PyError) (result : Result α) : Prop := result ≠ .error error

section Never

variable {α β : Type} {error : PyError}

theorem never_ok {value : α} : Never error (.ok value : Result α) := by simp [Never]

theorem never_raise {cls : ExceptionClass} {message : String} (different : ⟨cls, message⟩ ≠ error) :
    Never error (raise cls message : Result α) := by
  simpa [Never, raise] using different

theorem never_require {condition : Bool} {cls : ExceptionClass} {message : String}
    (different : ⟨cls, message⟩ ≠ error) : Never error (require condition cls message) := by
  cases condition with
  | true => exact never_ok
  | false => exact never_raise different

theorem never_bind {first : Result α} {next : α → Result β} (before : Never error first)
    (after : ∀ value, first = .ok value → Never error (next value)) :
    Never error (first >>= next) := by
  cases first with
  | ok value => exact after value rfl
  | error raised =>
      intro same
      exact before (by simpa [Bind.bind, Except.bind] using same)

theorem never_foldlM {step : β → α → Result β} {items : List α} {first : β}
    (steps : ∀ state, ∀ item ∈ items, Never error (step state item)) :
    Never error (items.foldlM step first) := by
  induction items generalizing first with
  | nil => exact never_ok
  | cons item items ih =>
      exact never_bind (steps first item (List.mem_cons_self ..)) fun next _ =>
        ih fun state other member => steps state other (List.mem_cons_of_mem _ member)

end Never

end NewsCollect
