import TspSolver.Effect.Program

/-!
# Reasoning about what a program ensures

A program ensures a condition from a state when it has an outcome there and the
outcome meets the condition: no undefined behaviour, and the right end. The
rules follow the way a program is put together.
-/

namespace Effect.Program

universe u

variable {Raised State Value Other : Type u}

/-- From the state the program is defined, and its outcome and final state are as described. -/
def Ensures (program : Program Raised State Value) (state : State)
    (post : Except Raised Value → State → Prop) : Prop :=
  ∃ outcome final, program.execute state = some (outcome, final) ∧ post outcome final

variable {program : Program Raised State Value} {next : Value → Program Raised State Other}
  {state : State} {post weaker : Except Raised Value → State → Prop}
  {conclusion : Except Raised Other → State → Prop}

theorem Ensures.mono (ensures : program.Ensures state post)
    (weakens : ∀ outcome final, post outcome final → weaker outcome final) :
    program.Ensures state weaker := by
  rcases ensures with ⟨outcome, final, ran, holds⟩
  exact ⟨outcome, final, ran, weakens outcome final holds⟩

theorem ensures_pure {value : Value} (holds : post (.ok value) state) :
    (pure value : Program Raised State Value).Ensures state post :=
  ⟨_, _, execute_pure value state, holds⟩

theorem ensures_throw {raised : Raised} (holds : post (.error raised) state) :
    (throw raised : Program Raised State Value).Ensures state post :=
  ⟨_, _, execute_throw raised state, holds⟩

/-- A composed program goes on where its first part ends well, and stops where it raises. -/
theorem Ensures.bind (ensures : program.Ensures state post)
    (goesOn : ∀ value middle, post (.ok value) middle → (next value).Ensures middle conclusion)
    (stops : ∀ raised middle, post (.error raised) middle → conclusion (.error raised) middle) :
    (program >>= next).Ensures state conclusion := by
  rcases ensures with ⟨outcome, middle, ran, holds⟩
  cases outcome with
  | ok value =>
      rcases goesOn value middle holds with ⟨final, last, ranNext, holdsNext⟩
      exact ⟨final, last, (execute_bind_of_ok ran).trans ranNext, holdsNext⟩
  | error raised =>
      exact ⟨.error raised, middle, execute_bind_of_error ran, stops raised middle holds⟩

/-- A call that cannot raise hands its value on. -/
theorem ensures_native_bind {operation : State → Option (Value × State)} {value : Value}
    {middle : State} (ran : operation state = some (value, middle))
    (goesOn : (next value).Ensures middle conclusion) :
    ((native operation : Program Raised State Value) >>= next).Ensures state conclusion := by
  rcases goesOn with ⟨outcome, final, ranNext, holds⟩
  exact ⟨outcome, final, (execute_bind_of_ok (execute_native_of_some ran)).trans ranNext, holds⟩

/-- What a loop leaves behind: its invariant where it ends, another condition where it raises. -/
def Either (ends : Value → State → Prop) (raises : Raised → State → Prop) :
    Except Raised Value → State → Prop
  | .ok value, final => ends value final
  | .error raised, final => raises raised final

/-- A loop over a list keeps an invariant over the part that is done, unless a turn raises. -/
theorem ensures_foldlM {Index : Type u} {turn : Value → Index → Program Raised State Value}
    (invariant : List Index → Value → State → Prop) (raises : Raised → State → Prop)
    {indices : List Index} {initial : Value} (base : invariant [] initial state)
    (keeps : ∀ front index, front ++ [index] <+: indices → ∀ value middle,
      invariant front value middle →
        (turn value index).Ensures middle (Either (invariant (front ++ [index])) raises)) :
    (indices.foldlM turn initial).Ensures state (Either (invariant indices) raises) := by
  have general (front back : List Index) (split : indices = front ++ back) :
      ∀ value middle, invariant front value middle →
        (back.foldlM turn value).Ensures middle (Either (invariant indices) raises) := by
    induction back generalizing front with
    | nil =>
        intro value middle holds
        apply ensures_pure
        rw [split, List.append_nil]
        exact holds
    | cons index rest ih =>
        intro value middle holds
        rw [List.foldlM_cons]
        have done : front ++ [index] <+: indices := ⟨rest, by simp [split]⟩
        apply (keeps front index done value middle holds).bind
        · intro reached later kept
          exact ih (front ++ [index]) (by simp [split]) reached later kept
        · intro raised later kept
          exact kept
  exact general [] indices rfl initial state base

end Effect.Program
