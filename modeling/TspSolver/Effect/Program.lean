import Mathlib.Init

/-!
# Code that raises and that may be undefined

A program reads and changes a state and ends with a value or by raising; where
it runs into undefined behaviour it has no outcome at all. The rules compute the
outcome of a composed program from those of its parts.
-/

namespace Effect

universe u

/-- Exceptions over a state, over the possibility of having no outcome. -/
abbrev Program (Raised State : Type u) : Type u → Type u := ExceptT Raised (StateT State Option)

variable {Raised State Value Other : Type u}

/-- The outcome from a state, with the state it leaves. -/
def Program.execute (program : Program Raised State Value) (state : State) :
    Option (Except Raised Value × State) :=
  program.run.run state

/-- A call into code that never raises. -/
def native (operation : State → Option (Value × State)) : Program Raised State Value :=
  ExceptT.lift operation

/-- A computation that does not touch the state. -/
def check (computed : Except Raised Value) : Program Raised State Value :=
  ExceptT.mk (pure computed)

/-- `try: body finally: cleanup`, for a cleanup that never raises. -/
def ensure (body : Program Raised State Value) (cleanup : State → Option (PUnit × State)) :
    Program Raised State Value :=
  ExceptT.mk do
    let outcome ← body.run
    let _ ← (cleanup : StateT State Option PUnit)
    return outcome

namespace Program

variable {program : Program Raised State Value} {next : Value → Program Raised State Other}
  {state middle final : State} {value : Value} {raised : Raised}

@[simp]
theorem execute_pure (value : Value) (state : State) :
    (pure value : Program Raised State Value).execute state = some (.ok value, state) := rfl

@[simp]
theorem execute_throw (raised : Raised) (state : State) :
    (throw raised : Program Raised State Value).execute state = some (.error raised, state) := rfl

theorem execute_bind (program : Program Raised State Value)
    (next : Value → Program Raised State Other) (state : State) :
    (program >>= next).execute state =
      (program.execute state).bind fun reached =>
        match reached.1 with
        | .ok value => (next value).execute reached.2
        | .error raised => some (.error raised, reached.2) := by
  simp only [execute, ExceptT.run_bind, StateT.run_bind]
  rcases StateT.run (ExceptT.run program) state with - | ⟨outcome, reached⟩
  · rfl
  · cases outcome <;> rfl

theorem execute_bind_of_ok (ran : program.execute state = some (.ok value, middle)) :
    (program >>= next).execute state = (next value).execute middle := by
  rw [execute_bind, ran]
  rfl

theorem execute_bind_of_error (ran : program.execute state = some (.error raised, middle)) :
    (program >>= next).execute state = some (.error raised, middle) := by
  rw [execute_bind, ran]
  rfl

@[simp]
theorem execute_check (computed : Except Raised Value) (state : State) :
    (check computed : Program Raised State Value).execute state = some (computed, state) := rfl

theorem execute_check_ok {computed : Except Raised Value} (isOk : computed = .ok value)
    (next : Value → Program Raised State Other) (state : State) :
    (check computed >>= next).execute state = (next value).execute state := by
  apply execute_bind_of_ok
  rw [execute_check, isOk]

theorem execute_check_error {computed : Except Raised Value} (isError : computed = .error raised)
    (next : Value → Program Raised State Other) (state : State) :
    (check computed >>= next).execute state = some (.error raised, state) := by
  apply execute_bind_of_error
  rw [execute_check, isError]

theorem execute_native (operation : State → Option (Value × State)) (state : State) :
    (native operation : Program Raised State Value).execute state =
      (operation state).map fun reached => (.ok reached.1, reached.2) := by
  change (operation state).bind _ = _
  rcases operation state with - | ⟨value, reached⟩ <;> rfl

theorem execute_native_of_some {operation : State → Option (Value × State)}
    (ran : operation state = some (value, middle)) :
    (native operation : Program Raised State Value).execute state = some (.ok value, middle) := by
  rw [execute_native, ran]
  rfl

/-- The cleanup runs whatever the body's outcome, and the outcome survives it. -/
theorem execute_ensure {cleanup : State → Option (PUnit × State)} {outcome : Except Raised Value}
    (ran : program.execute state = some (outcome, middle))
    (cleaned : cleanup middle = some (⟨⟩, final)) :
    (ensure program cleanup).execute state = some (outcome, final) := by
  change (program.execute state).bind _ = _
  rw [ran]
  change (cleanup middle).bind _ = _
  rw [cleaned]
  rfl

end Program

end Effect
