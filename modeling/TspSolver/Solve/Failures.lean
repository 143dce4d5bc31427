import TspSolver.CApi.Memory
import TspSolver.Solve.Dispatch

/-!
# Solving when memory runs out

A failing allocation never changes a result that is handed over: the call ends
as it would with enough memory, or it answers an error. The one failure that
leaves an object behind is the copy of the tour.
-/

namespace TspSolver

namespace Model

variable {model : Model} {options : Options} {failure : Option SolveAllocation}

/-- With enough memory nothing is lost. -/
theorem solveUnder_none (model : Model) (options : Options) :
    model.solveUnder none options =
      { code := (model.solve options).1, result := (model.solve options).2 } := by
  simp only [solveUnder, solve, reduceCtorEq, false_and, if_false]
  split_ifs <;> try rfl
  all_goals
    rcases dispatch model.toProblem (model.seedStartNode options.randomSeed) options.randomSeed
      (resolveAlgorithm options.algorithm) with - | (_ | _) | tour <;> rfl

/-- How a call to `solve` can end, whichever allocation fails. -/
inductive SolveEnds (model : Model) (options : Options) (failure : Option SolveAllocation) :
    SolveAnswer → Prop where
  | returned (result : Result) (solved : model.solve options = (.ok, some result)) :
      SolveEnds model options failure { code := .ok, result := some result }
  | lost (result : Result) (solved : model.solve options = (.ok, some result))
      (copying : failure = some .tour) (hasTour : result.tour ≠ []) :
      SolveEnds model options failure
        { code := .allocationFailed, lost := some { result with tour := [] } }
  | refused (code : ErrorCode) (failing : code ≠ .ok) :
      SolveEnds model options failure { code := code }

theorem solve_ends (model : Model) (options : Options) (failure : Option SolveAllocation) :
    SolveEnds model options failure (model.solveUnder failure options) := by
  rw [solveUnder]
  cases complete : model.isComplete with
  | false => exact .refused _ (by simp)
  | true =>
      cases valid : isValidAlgorithm options.algorithm with
      | false => exact .refused _ (by simp)
      | true =>
          simp only [Bool.not_true, Bool.false_eq_true, if_false]
          by_cases noProblem : failure = some .problem ∧ model.size ≠ 0
          · rw [if_pos noProblem]
            exact .refused _ (by simp)
          rw [if_neg noProblem]
          by_cases noTime : options.timeLimitMs = 0
          · rw [if_pos noTime]
            split_ifs
            · exact .refused _ (by simp)
            · exact .returned _ (solve_of_no_time complete valid noTime)
          rw [if_neg noTime]
          by_cases noSearch : failure = some .search ∧ model.size ≠ 0
          · rw [if_pos noSearch]
            exact .refused _ (by simp)
          rw [if_neg noSearch]
          -- The algorithm has run; what is left is the result object and its tour.
          cases outcome : dispatch model.toProblem (model.seedStartNode options.randomSeed)
            options.randomSeed (resolveAlgorithm options.algorithm) with
          | none => exact .refused _ (by simp)
          | some ended =>
              rcases ended with (what | what) | tour
              · exact .refused _ (by simp)
              · exact .refused _ (by simp)
              · have solved := solve_of_tour complete valid noTime outcome
                dsimp only
                by_cases noResult : failure = some .result
                · rw [if_pos noResult]
                  exact .refused _ (by simp)
                rw [if_neg noResult]
                by_cases noCopy : failure = some .tour ∧ tour.order ≠ []
                · rw [if_pos noCopy]
                  exact .lost _ solved noCopy.1 noCopy.2
                · rw [if_neg noCopy]
                  exact .returned _ solved

/-- A result that is handed over is the one of a call with enough memory. -/
theorem solve_of_returned {result : Result}
    (returned : (model.solveUnder failure options).result = some result) :
    model.solve options = (.ok, some result) ∧
      model.solveUnder failure options = { code := .ok, result := some result } := by
  have ends := solve_ends model options failure
  generalize model.solveUnder failure options = answer at returned ends
  cases ends with
  | returned result solved =>
      cases returned
      exact ⟨solved, rfl⟩
  | lost | refused => cases returned

theorem limited_of_hasTour {result : Result} (solved : model.solve options = (.ok, some result))
    (hasTour : result.tour ≠ []) : options.timeLimitMs ≠ 0 := by
  intro noTime
  apply hasTour
  rw [result_of_no_time noTime solved]

/--
A solve loses an object exactly when it has a tour and cannot copy it: the result
without the tour.
-/
theorem mem_lostBy_iff {object : NativeObject} :
    object ∈ model.lostBy options failure ↔
      failure = some .tour ∧ ∃ result, model.solve options = (.ok, some result) ∧
        result.tour ≠ [] ∧ object = .result { result with tour := [] } := by
  constructor
  · intro member
    have ends := solve_ends model options failure
    rw [lostBy] at member
    generalize model.solveUnder failure options = answer at ends member
    cases ends with
    | lost result solved copying hasTour =>
        exact ⟨copying, result, solved, hasTour, List.mem_singleton.mp member⟩
    | returned | refused => cases member
  · rintro ⟨rfl, result, solved, hasTour, rfl⟩
    have limited := limited_of_hasTour solved hasTour
    rcases dispatch_of_solve limited solved with ⟨complete, valid, tour, outcome, rfl⟩
    have tourNonempty : tour.order ≠ [] := hasTour
    simp [lostBy, solveUnder, complete, valid, limited, outcome, tourNonempty, resultOf]

/-- Where there are nodes and time, every failure is felt. -/
theorem solveUnder_eq_ok_iff {result : Result} (nonempty : model.size ≠ 0)
    (limited : options.timeLimitMs ≠ 0) (hasTour : result.tour ≠ [])
    (solved : model.solve options = (.ok, some result)) :
    (model.solveUnder failure options).code = .ok ↔ failure = none := by
  rcases dispatch_of_solve limited solved with ⟨complete, valid, tour, outcome, rfl⟩
  have tourNonempty : tour.order ≠ [] := hasTour
  constructor
  · intro success
    rcases failure with - | ⟨- | - | - | -⟩
    · rfl
    all_goals
      simp [solveUnder, complete, valid, nonempty, limited, outcome, tourNonempty] at success
  · rintro rfl
    rw [solveUnder_none, solved]

end Model

end TspSolver
