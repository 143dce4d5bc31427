import TspSolver.Solve.Coherence

/-!
# The improvement chain

2-opt and iterated local search start from the same nearest-neighbor order, and
each of them only ever replaces its tour by a cheaper one. So their objectives
form a chain, on every complete model and for every seed.
-/

namespace TspSolver

namespace Model

section Runs

variable {model : Model} {options : Options} (complete : model.isComplete = true)
  (nonempty : model.size ≠ 0) (limited : options.timeLimitMs ≠ 0)

include complete nonempty limited

theorem solve_nearestNeighbor (greedy : options.algorithm = .greedyNearestNeighbor) :
    model.solve options = (.ok, some (resultOf .greedyNearestNeighbor
      { order := buildNearestNeighborSeed model.toProblem (model.seedStartNode options.randomSeed)
        totalCost := routeCost model.toProblem
          (buildNearestNeighborSeed model.toProblem
            (model.seedStartNode options.randomSeed)) })) := by
  have outcome := guarded_of_nonempty model.isSquare_toProblem (by simpa using nonempty)
  rcases options with ⟨timeLimitMs, randomSeed, algorithm⟩
  cases greedy
  exact solve_of_tour complete rfl limited (congrArg some (outcome _))

theorem solve_twoOpt
    (twoOpt : options.algorithm = .localSearch2Opt ∨ options.algorithm = .default) :
    model.solve options = (.ok, some (resultOf .localSearch2Opt
      (twoOptRefine model.toProblem
        (buildNearestNeighborSeed model.toProblem
          (model.seedStartNode options.randomSeed))))) := by
  have outcome := guarded_of_nonempty model.isSquare_toProblem (by simpa using nonempty)
  rcases options with ⟨timeLimitMs, randomSeed, algorithm⟩
  rcases twoOpt with named | defaulted
  · cases named
    exact solve_of_tour complete rfl limited (congrArg some (outcome _))
  · cases defaulted
    exact solve_of_tour complete rfl limited (congrArg some (outcome _))

theorem solve_iteratedLocalSearch
    (iterated : options.algorithm = .metaheuristicIteratedLocalSearch) :
    model.solve options = (.ok, some (resultOf .metaheuristicIteratedLocalSearch
      (iteratedLocalSearchBest model.toProblem (model.seedStartNode options.randomSeed)
        options.randomSeed))) := by
  rcases options with ⟨timeLimitMs, randomSeed, algorithm⟩
  cases iterated
  have outcome := (iteratedLocalSearchTour_eq model.toProblem (model.seedStartNode randomSeed)
    randomSeed).trans (guarded_of_nonempty model.isSquare_toProblem (by simpa using nonempty) _)
  exact solve_of_tour complete rfl limited (congrArg some outcome)

end Runs

/-- Iterated local search is at most 2-opt, which is the default and at most greedy. -/
theorem solve_improvement_chain {model : Model} (complete : model.isComplete = true)
    {timeLimitMs : UInt64} (limited : timeLimitMs ≠ 0) (randomSeed : UInt64) :
    ∃ iterated twoOpt defaulted greedy : Result,
      model.solve ⟨timeLimitMs, randomSeed, .metaheuristicIteratedLocalSearch⟩ =
        (.ok, some iterated) ∧
      model.solve ⟨timeLimitMs, randomSeed, .localSearch2Opt⟩ = (.ok, some twoOpt) ∧
      model.solve ⟨timeLimitMs, randomSeed, .default⟩ = (.ok, some defaulted) ∧
      model.solve ⟨timeLimitMs, randomSeed, .greedyNearestNeighbor⟩ = (.ok, some greedy) ∧
      iterated.objective ≤ twoOpt.objective ∧ twoOpt.objective = defaulted.objective ∧
      defaulted.objective ≤ greedy.objective := by
  by_cases empty : model.size = 0
  · exact ⟨_, _, _, _, solve_of_empty complete empty rfl limited,
      solve_of_empty complete empty rfl limited, solve_of_empty complete empty rfl limited,
      solve_of_empty complete empty rfl limited, le_rfl, rfl, le_rfl⟩
  · refine ⟨_, _, _, _, solve_iteratedLocalSearch complete empty limited rfl,
      solve_twoOpt complete empty limited (Or.inl rfl),
      solve_twoOpt complete empty limited (Or.inr rfl),
      solve_nearestNeighbor complete empty limited rfl, ?_, rfl, ?_⟩
    · exact (incumbent_iteratedLocalSearchBest model.toProblem _ _).cost_le
    · exact twoOptRefine_totalCost_le model.toProblem _

/-- Five nodes with an asymmetric matrix and a seed that wraps around. -/
theorem solve_improvement_chain_five :
    let model := ofMatrix (fun source target => if source < target then 3 else -4) 5
    ∃ iterated twoOpt defaulted greedy : Result,
      model.solve ⟨1, 7, .metaheuristicIteratedLocalSearch⟩ = (.ok, some iterated) ∧
      model.solve ⟨1, 7, .localSearch2Opt⟩ = (.ok, some twoOpt) ∧
      model.solve ⟨1, 7, .default⟩ = (.ok, some defaulted) ∧
      model.solve ⟨1, 7, .greedyNearestNeighbor⟩ = (.ok, some greedy) ∧
      iterated.objective ≤ twoOpt.objective ∧ twoOpt.objective = defaulted.objective ∧
      defaulted.objective ≤ greedy.objective := by
  intro model
  exact solve_improvement_chain (isComplete_ofMatrix (by decide)) (by decide) 7

end Model

end TspSolver
