import TspSolver.Session.Invariants
import TspSolver.Solve.Coherence

/-!
# Results are values

Nothing that happens to a session changes a result it holds: the only request
that concerns a result without merely reading it is the one that closes it.
-/

namespace TspSolver

/--
What the fields of a result say together about the model and the options of the
solve it is of. The first node is known where node ids have room for all nodes.
-/
structure Result.Coherent (result : Result) (model : Model) (options : Options) : Prop
    extends Traces model options result where
  reachable : model.Reachable
  timedOut : options.timeLimitMs = 0 → result.objective = 0 ∧ result.tour = []
  length_eq : options.timeLimitMs ≠ 0 → result.tour.length = model.size
  inRange : ∀ node ∈ result.tour, node < model.size
  head_eq : options.timeLimitMs ≠ 0 → model.size ≠ 0 → model.size < 2 ^ 32 →
    result.tour.head? = some (options.randomSeed.toNat % model.size)
  objective_eq : result.objective = Int64.ofInt (model.toProblem.tourCost result.tour)
  recomputed : options.timeLimitMs ≠ 0 →
    computeTourCost model.toProblem { order := result.tour } = .ok result.objective

/-- The result behind a reference, and whether it has been closed. -/
def Objects.ResultAt (objects : Objects) (self : ℕ) (result : Result) (closed : Bool) : Prop :=
  objects[self]? = some { object := .result result, closed := closed }

/-- The request that ends the life of a result. -/
def Request.closesResult (request : Request) (self : ℕ) : Bool :=
  request = .close .result self

namespace Objects

variable {objects : Objects} {self : ℕ} {result : Result} {closed : Bool}

theorem ResultAt.inside (found : objects.ResultAt self result closed) : self < objects.length :=
  (List.getElem?_eq_some_iff.mp found).1

theorem ResultAt.append (found : objects.ResultAt self result closed) (later : Objects) :
    (objects ++ later).ResultAt self result closed :=
  (List.getElem?_append_left found.inside).trans found

theorem ResultAt.create (found : objects.ResultAt self result closed) (object : NativeObject)
    (fails : Bool) : (objects.create object fails).2.ResultAt self result closed := by
  cases fails with
  | true => exact found
  | false => exact found.append _

theorem ResultAt.solveWith (found : objects.ResultAt self result closed) (model : Model)
    (options : Options) (failure : Option SolveAllocation) :
    (objects.solveWith model options failure).2.ResultAt self result closed := by
  rw [Objects.solveWith]
  cases (model.solveUnder failure options).result with
  | none => exact found
  | some solved => exact found.append _

/-- A change goes to an object of another kind. -/
theorem ResultAt.change {Object : Type} {type : NativeType Object}
    (found : objects.ResultAt self result closed) (otherKind : type.kind ≠ .result) (place : ℕ)
    (call : Object → Answer × Object) :
    (Objects.change type objects place call).2.ResultAt self result closed := by
  rw [Objects.change]
  cases accessed : access type objects place with
  | error refusal => exact found
  | ok object =>
      have differs : place ≠ self := by
        rintro rfl
        rw [access, found] at accessed
        cases viewed : type.view (.result result) with
        | none => simp [viewed] at accessed
        | some _ =>
            apply otherKind
            exact ((type.isSome_view_iff _).mp (by rw [viewed]; rfl)).symm
      exact (List.getElem?_set_ne differs).trans found

theorem ResultAt.inspect {Object : Type} {type : NativeType Object}
    (found : objects.ResultAt self result closed) (place : ℕ) (answer : Object → Answer) :
    (Objects.inspect type objects place answer).2.ResultAt self result closed := by
  rw [Objects.inspect]
  cases access type objects place <;> exact found

theorem ResultAt.closeAt (found : objects.ResultAt self result closed) (kind : Kind)
    (place : ℕ) :
    (objects.closeAt kind place).2.ResultAt self result
      (closed || (Request.close kind place).closesResult self) := by
  rcases eq_or_ne place self with rfl | differs
  · rw [Objects.closeAt, found]
    cases kind with
    | result =>
        simp [Request.closesResult, ResultAt, NativeObject.kind, found.inside]
    | model => simpa [Request.closesResult, NativeObject.kind] using found
    | options => simpa [Request.closesResult, NativeObject.kind] using found
  · have untouched : (objects.closeAt kind place).2.ResultAt self result closed := by
      rw [Objects.closeAt]
      cases objects[place]? with
      | none => exact found
      | some slot =>
          dsimp only
          split_ifs
          · exact (List.getElem?_set_ne differs).trans found
          · exact found
    simpa [Request.closesResult, differs] using untouched

theorem ResultAt.unclosed {after : Objects} {request : Request}
    (unclosing : request.closesResult self = false) (kept : after.ResultAt self result closed) :
    after.ResultAt self result (closed || request.closesResult self) := by
  rwa [unclosing, Bool.or_false]

/-- One request leaves a result as it is, unless it closes it. -/
theorem ResultAt.serve (found : objects.ResultAt self result closed) (request : Request) :
    (objects.serve request).2.ResultAt self result (closed || request.closesResult self) := by
  cases request with
  | newModel fails | newOptions fails => exact .unclosed rfl (found.create _ fails)
  | addNode | setDistance | setTimeLimitMs | setRandomSeed | setAlgorithm =>
      apply ResultAt.unclosed rfl
      apply found.change
      nofun
  | validate self | status self | algorithm self | objective self | tourSize self | tour self =>
      exact .unclosed rfl (found.inspect self _)
  | solve model options failure =>
      apply ResultAt.unclosed rfl
      rw [Objects.serve]
      rcases objects.solveArguments model options with refusal | ⟨object, settings⟩
      · exact found
      · exact found.solveWith object settings failure
  | solveWithDefaults model failure =>
      apply ResultAt.unclosed rfl
      rw [Objects.serve]
      rcases access .model objects model with refusal | object
      · exact found
      · exact found.solveWith object {} failure
  | close kind place => exact found.closeAt kind place

theorem ResultAt.serve_of_unclosing (found : objects.ResultAt self result closed)
    {request : Request} (unclosing : request.closesResult self = false) :
    (objects.serve request).2.ResultAt self result closed := by
  have kept := found.serve request
  rwa [unclosing, Bool.or_false] at kept

/-- An answer with an object tells of a new one. -/
theorem created_of_step {before after : Objects} {request : Request}
    (step : Step before request (.done (.object self)) after) :
    self = before.length ∧
      ∃ object, after = before ++ [{ object := object }] ∧ Created before request object := by
  generalize answerEq : Answer.done (.object self) = answer at step
  cases step with
  | same answer unmade => exact absurd answerEq.symm (unmade self)
  | created object origin =>
      cases answerEq
      exact ⟨rfl, object, rfl, origin⟩
  | changed answer place old new unmade => exact absurd answerEq.symm (unmade self)
  | closed => cases answerEq

/-- A request that looks at a result sees the same in every session that holds it. -/
theorem ResultAt.inspect_eq (found : objects.ResultAt self result closed)
    (answer : Result → Answer) :
    (Objects.inspect .result objects self answer).1 =
      if closed then .closed .result else answer result := by
  rw [Objects.inspect, access, found]
  cases closed <;> rfl

/-- Whoever gets a value by looking at a result has it open. -/
theorem resultAt_of_inspect {answer : Result → Answer} {value : Value}
    (seen : (Objects.inspect .result objects self answer).1 = .done value) :
    ∃ result, objects.ResultAt self result false ∧ answer result = .done value := by
  rw [Objects.inspect] at seen
  cases accessed : access .result objects self with
  | error refusal =>
      rw [accessed] at seen
      exact absurd (accessed.trans (congrArg Except.error seen)) (access_ne_done value)
  | ok result =>
      rw [accessed] at seen
      exact ⟨result, access_eq_ok_iff.mp accessed, seen⟩

end Objects

end TspSolver
