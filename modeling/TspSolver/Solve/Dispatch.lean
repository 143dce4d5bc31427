import TspSolver.CApi
import TspSolver.Store.LastWrites
import TspSolver.LocalSearch.TwoOpt
import TspSolver.HeldKarp.Optimality

/-!
# From a model to a solver run

What `solve` hands to the solvers and what it makes of their outcomes. For a
complete model the problem is square with a zero diagonal, and the start node is
the seed modulo the node count. Every heuristic ends with a rearrangement of one
of the two seed orders.
-/

namespace TspSolver

theorem resolveAlgorithm_eq_heldKarp_iff (algorithm : Algorithm) :
    resolveAlgorithm algorithm = .heldKarp ↔ algorithm = .heldKarp := by
  rw [resolveAlgorithm]
  split_ifs with isDefault <;> simp [isDefault]

namespace Model

/-! ## The problem behind a model -/

@[simp]
theorem size_toProblem (model : Model) : model.toProblem.size = model.size := by
  simp [Problem.size, toProblem]

theorem isSquare_toProblem (model : Model) : model.toProblem.isSquare = true := by
  simp [Problem.isSquare, toProblem, Problem.size]

theorem distance_toProblem {model : Model} {source target : ℕ} (sourceLt : source < model.size)
    (targetLt : target < model.size) :
    model.toProblem.distance source target = (model.entry source target).getD 0 := by
  simp [Problem.distance, toProblem, List.getD_eq_getElem?_getD, sourceLt, targetLt]

theorem entry_eq_some_distance {model : Model} (complete : model.isComplete = true)
    {source target : ℕ} (sourceLt : source < model.size) (targetLt : target < model.size) :
    model.entry source target = some (model.toProblem.distance source target) := by
  have present := ((isComplete_iff model).mp complete).2 source sourceLt target targetLt
  rcases Option.isSome_iff_exists.mp present with ⟨distance, present⟩
  rw [distance_toProblem sourceLt targetLt, present, Option.getD_some]

/-- Entries below the sentinel are distances below it. -/
theorem distance_lt_of_entries {model : Model} (complete : model.isComplete = true)
    (below : ∀ source < model.size, ∀ target < model.size, source ≠ target →
      ∀ distance, model.entry source target = some distance → distance < Int64.maxValue) :
    ∀ source < model.toProblem.size, ∀ target < model.toProblem.size, source ≠ target →
      model.toProblem.distance source target < Int64.maxValue := by
  rw [size_toProblem]
  intro source sourceLt target targetLt distinct
  exact below source sourceLt target targetLt distinct _
    (entry_eq_some_distance complete sourceLt targetLt)

theorem distance_toProblem_outside {model : Model} {source target : ℕ}
    (outside : ¬(source < model.size ∧ target < model.size)) :
    model.toProblem.distance source target = 0 := by
  apply Problem.distance_outside model.isSquare_toProblem
  rwa [size_toProblem]

theorem distance_toProblem_self {model : Model} (wellFormed : model.WellFormed) (node : ℕ) :
    model.toProblem.distance node node = 0 := by
  by_cases nodeLt : node < model.size
  · rw [distance_toProblem nodeLt nodeLt, wellFormed.diagonal node nodeLt]
    rfl
  · exact distance_toProblem_outside fun inside => nodeLt inside.1

/-- Both layers derive the same start node: the seed modulo the node count. -/
theorem normalizeStartNode_seedStartNode {model : Model} (sizeLe : model.size ≤ 2 ^ 32)
    (nonempty : model.size ≠ 0) (seed : UInt64) :
    normalizeStartNode model.toProblem (model.seedStartNode seed) =
      seed.toNat % model.size := by
  have below := Nat.mod_lt seed.toNat (Nat.pos_of_ne_zero nonempty)
  rw [normalizeStartNode_eq (by simpa using nonempty) (by simpa using sizeLe), seedStartNode,
    if_neg nonempty, size_toProblem, toNodeId_of_lt (by omega), Nat.mod_mod]

/-! ## Outcomes -/

/-- The result that `solve` builds from a tour. -/
def resultOf (resolved : Algorithm) (tour : Tour) : Result where
  status := if resolved = .heldKarp then .optimal else .feasible
  algorithm := resolved
  objective := tour.totalCost
  tour := tour.order

theorem solve_of_incomplete {model : Model} (incomplete : model.isComplete = false)
    (options : Options) : model.solve options = (.invalidModel, none) := by
  simp [solve, incomplete]

theorem solve_of_invalid {model : Model} {options : Options} (complete : model.isComplete = true)
    (invalid : isValidAlgorithm options.algorithm = false) :
    model.solve options = (.invalidArgument, none) := by
  simp [solve, complete, invalid]

theorem solve_of_no_time {model : Model} {options : Options} (complete : model.isComplete = true)
    (valid : isValidAlgorithm options.algorithm = true) (noTime : options.timeLimitMs = 0) :
    model.solve options =
      (.ok, some { status := .timeLimit, algorithm := resolveAlgorithm options.algorithm }) := by
  simp [solve, complete, valid, noTime]

/-- Only a complete model and a listed algorithm get a result. -/
theorem accepted_of_solve {model : Model} {options : Options} {code : ErrorCode} {result : Result}
    (solved : model.solve options = (code, some result)) :
    model.isComplete = true ∧ isValidAlgorithm options.algorithm = true := by
  cases complete : model.isComplete with
  | false =>
      rw [solve_of_incomplete complete] at solved
      cases solved
  | true =>
      cases valid : isValidAlgorithm options.algorithm with
      | false =>
          rw [solve_of_invalid complete valid] at solved
          cases solved
      | true => exact ⟨rfl, rfl⟩

/-- A result under a zero time limit has no tour and costs nothing. -/
theorem result_of_no_time {model : Model} {options : Options} {code : ErrorCode} {result : Result}
    (noTime : options.timeLimitMs = 0) (solved : model.solve options = (code, some result)) :
    result = { status := .timeLimit, algorithm := resolveAlgorithm options.algorithm } := by
  rcases accepted_of_solve solved with ⟨complete, valid⟩
  rw [solve_of_no_time complete valid noTime] at solved
  cases solved
  rfl

/-- The result of a run is made from the tour of the algorithm that the model is handed to. -/
theorem dispatch_of_solve {model : Model} {options : Options} {code : ErrorCode} {result : Result}
    (limited : options.timeLimitMs ≠ 0) (solved : model.solve options = (code, some result)) :
    model.isComplete = true ∧ isValidAlgorithm options.algorithm = true ∧
      ∃ tour, dispatch model.toProblem (model.seedStartNode options.randomSeed)
          options.randomSeed (resolveAlgorithm options.algorithm) = some (.ok tour) ∧
        result = resultOf (resolveAlgorithm options.algorithm) tour := by
  rcases accepted_of_solve solved with ⟨complete, valid⟩
  simp only [solve, complete, valid, limited, Bool.not_true, Bool.false_eq_true, if_false] at solved
  split at solved <;> cases solved
  exact ⟨complete, valid, _, by assumption, rfl⟩

section Runs

variable {model : Model} {options : Options} (complete : model.isComplete = true)
  (valid : isValidAlgorithm options.algorithm = true) (limited : options.timeLimitMs ≠ 0)

include complete valid limited

theorem solve_of_tour {tour : Tour}
    (outcome : dispatch model.toProblem (model.seedStartNode options.randomSeed)
      options.randomSeed (resolveAlgorithm options.algorithm) = some (.ok tour)) :
    model.solve options =
      (.ok, some (resultOf (resolveAlgorithm options.algorithm) tour)) := by
  simp [solve, complete, valid, limited, outcome, resultOf]

theorem solve_of_outOfRange {what : String}
    (outcome : dispatch model.toProblem (model.seedStartNode options.randomSeed)
      options.randomSeed (resolveAlgorithm options.algorithm) =
        some (.error (.outOfRange what))) :
    model.solve options = (.outOfRange, none) := by
  simp [solve, complete, valid, limited, outcome]

end Runs

/-- Without nodes every solver returns the empty tour. -/
theorem solve_of_empty {model : Model} {options : Options} (complete : model.isComplete = true)
    (empty : model.size = 0) (valid : isValidAlgorithm options.algorithm = true)
    (limited : options.timeLimitMs ≠ 0) :
    model.solve options = (.ok, some (resultOf (resolveAlgorithm options.algorithm) {})) := by
  apply solve_of_tour complete valid limited
  have square := model.isSquare_toProblem
  have noNodes : model.toProblem.size = 0 := by simpa using empty
  have returned (tour : Tour) : guarded model.toProblem tour = .ok {} := by
    simp [guarded, square, noNodes]
  rcases options with ⟨timeLimitMs, randomSeed, algorithm⟩
  cases algorithm with
  | default => exact congrArg some (returned _)
  | localSearch2Opt => exact congrArg some (returned _)
  | greedyNearestNeighbor => exact congrArg some (returned _)
  | greedyCheapestInsertion => exact congrArg some (returned _)
  | heldKarp => exact congrArg some (heldKarpTour_of_empty square noNodes _)
  | metaheuristicIteratedLocalSearch => exact congrArg some (returned _)
  | unlisted value => simp [isValidAlgorithm] at valid

/-! ## Heuristics -/

/-- The order that a heuristic starts from. -/
def seedOrder (problem : Problem) (startNode : ℕ) (algorithm : Algorithm) : List ℕ :=
  if algorithm = .greedyCheapestInsertion then buildCheapestInsertionSeed problem startNode
  else buildNearestNeighborSeed problem startNode

theorem rearranges_seed (problem : Problem) (order : List ℕ) :
    Rearranges problem order { order := order, totalCost := routeCost problem order } :=
  ⟨List.Perm.refl _, rfl, rfl⟩

/-- The selectable algorithms other than Held-Karp end with a rearrangement of their seed. -/
theorem dispatch_heuristic {problem : Problem} (square : problem.isSquare = true)
    (nonempty : problem.size ≠ 0) (startNode : ℕ) (seed : UInt64) {algorithm : Algorithm}
    (valid : isValidAlgorithm algorithm = true) (heuristic : algorithm ≠ .heldKarp) :
    ∃ tour, dispatch problem startNode seed (resolveAlgorithm algorithm) = some (.ok tour) ∧
      Rearranges problem (seedOrder problem startNode algorithm) tour := by
  have twoOpt : ∃ tour, dispatch problem startNode seed .localSearch2Opt = some (.ok tour) ∧
      Rearranges problem (buildNearestNeighborSeed problem startNode) tour :=
    ⟨_, by rw [dispatch, twoOptLocalSearchSolve, guarded_of_nonempty square nonempty],
      twoOptRefine_rearranges problem _⟩
  cases algorithm with
  | default => exact twoOpt
  | localSearch2Opt => exact twoOpt
  | greedyNearestNeighbor =>
      refine ⟨_, ?_, rearranges_seed problem _⟩
      exact congrArg some (guarded_of_nonempty square nonempty _)
  | greedyCheapestInsertion =>
      refine ⟨_, ?_, rearranges_seed problem _⟩
      exact congrArg some (guarded_of_nonempty square nonempty _)
  | heldKarp => exact absurd rfl heuristic
  | metaheuristicIteratedLocalSearch =>
      have outcome := (iteratedLocalSearchTour_eq problem startNode seed).trans
        (guarded_of_nonempty square nonempty _)
      refine ⟨_, congrArg some outcome, ?_⟩
      exact (incumbent_iteratedLocalSearchBest problem _ _).rearranges
  | unlisted value => simp [isValidAlgorithm] at valid

/-- A heuristic run on a complete model returns a rearrangement of its seed. -/
theorem solve_heuristic {model : Model} {options : Options} (complete : model.isComplete = true)
    (nonempty : model.size ≠ 0) (valid : isValidAlgorithm options.algorithm = true)
    (limited : options.timeLimitMs ≠ 0) (heuristic : options.algorithm ≠ .heldKarp) :
    ∃ tour, model.solve options =
        (.ok, some (resultOf (resolveAlgorithm options.algorithm) tour)) ∧
      Rearranges model.toProblem
        (seedOrder model.toProblem (model.seedStartNode options.randomSeed) options.algorithm)
        tour := by
  rcases dispatch_heuristic model.isSquare_toProblem (by simpa using nonempty)
    (model.seedStartNode options.randomSeed) options.randomSeed valid heuristic with
    ⟨tour, outcome, rearranges⟩
  exact ⟨tour, solve_of_tour complete valid limited outcome, rearranges⟩

/-- A Held-Karp run passes the outcome of the search on. -/
theorem solve_heldKarp {model : Model} {options : Options} (complete : model.isComplete = true)
    (limited : options.timeLimitMs ≠ 0) (algorithmEq : options.algorithm = .heldKarp) :
    (∃ tour, heldKarpTour model.toProblem (model.seedStartNode options.randomSeed) = .ok tour ∧
      model.solve options = (.ok, some (resultOf .heldKarp tour))) ∨
    ∃ what, heldKarpTour model.toProblem (model.seedStartNode options.randomSeed) =
        .error (.outOfRange what) ∧ model.solve options = (.outOfRange, none) := by
  have valid : isValidAlgorithm options.algorithm = true := by rw [algorithmEq]; rfl
  have resolved : resolveAlgorithm options.algorithm = .heldKarp := by rw [algorithmEq]; rfl
  have dispatched : dispatch model.toProblem (model.seedStartNode options.randomSeed)
      options.randomSeed (resolveAlgorithm options.algorithm) =
        some (heldKarpTour model.toProblem (model.seedStartNode options.randomSeed)) := by
    rw [resolved]
    rfl
  rcases heldKarpTour_ok_or_outOfRange model.isSquare_toProblem
    (model.seedStartNode options.randomSeed) with ⟨tour, returned⟩ | ⟨what, failed⟩
  · left
    rw [returned] at dispatched
    have solved := solve_of_tour complete valid limited dispatched
    rw [resolved] at solved
    exact ⟨tour, returned, solved⟩
  · right
    rw [failed] at dispatched
    exact ⟨what, failed, solve_of_outOfRange complete valid limited dispatched⟩

end Model

end TspSolver
