import TspSolver.Solve.Failures
import TspSolver.Store.Writes
import TspSolver.LocalSearch.NearestNeighbor
import TspSolver.LocalSearch.CheapestInsertion

/-!
# What a result says about its tour

A result is coherent when its tour lists `n` valid nodes from the seeded start
and its objective is the cost of that tour. Every algorithm keeps this for fewer
than 2^32 nodes; the 2^64 cells of 2^32 nodes have no room in memory. A coherent
tour may still repeat a node.
-/

namespace TspSolver

namespace Model

theorem length_seedOrder {problem : Problem} (nonempty : problem.size ≠ 0) (startNode : ℕ)
    (algorithm : Algorithm) :
    (seedOrder problem startNode algorithm).length = problem.size := by
  unfold seedOrder
  split
  · exact (buildCheapestInsertionSeed_spec nonempty startNode).1
  · exact length_buildNearestNeighborSeed nonempty startNode

theorem lt_of_mem_seedOrder {problem : Problem} (nonempty : problem.size ≠ 0) (startNode : ℕ)
    (algorithm : Algorithm) :
    ∀ node ∈ seedOrder problem startNode algorithm, node < problem.size := by
  unfold seedOrder
  split
  · exact (buildCheapestInsertionSeed_spec nonempty startNode).2
  · exact fun _ => lt_of_mem_buildNearestNeighborSeed nonempty

/-- The seed of a heuristic begins at the start node. -/
theorem head?_seedOrder {problem : Problem} (nonempty : problem.size ≠ 0)
    (small : problem.size < 2 ^ 32) (startNode : ℕ) (algorithm : Algorithm) :
    (seedOrder problem startNode algorithm).head? =
      some (normalizeStartNode problem startNode) := by
  unfold seedOrder
  split_ifs
  · exact head?_buildCheapestInsertionSeed nonempty small startNode
  · exact head?_buildNearestNeighborSeed nonempty startNode

/-- Where the result of a run comes from. -/
theorem solve_eq_ok {model : Model} {options : Options} {result : Result}
    (complete : model.isComplete = true) (nonempty : model.size ≠ 0)
    (valid : isValidAlgorithm options.algorithm = true) (limited : options.timeLimitMs ≠ 0)
    (solved : model.solve options = (.ok, some result)) :
    (options.algorithm ≠ .heldKarp ∧
      ∃ tour, result = resultOf (resolveAlgorithm options.algorithm) tour ∧
        Rearranges model.toProblem
          (seedOrder model.toProblem (model.seedStartNode options.randomSeed) options.algorithm)
          tour) ∨
    (options.algorithm = .heldKarp ∧ ∃ tour, result = resultOf .heldKarp tour ∧
      heldKarpTour model.toProblem (model.seedStartNode options.randomSeed) = .ok tour) := by
  by_cases searching : options.algorithm = .heldKarp
  · right
    refine ⟨searching, ?_⟩
    rcases solve_heldKarp complete limited searching with ⟨tour, returned, answer⟩ | ⟨_, _, answer⟩
    · rw [answer] at solved
      cases solved
      exact ⟨tour, rfl, returned⟩
    · rw [answer] at solved
      cases solved
  · left
    refine ⟨searching, ?_⟩
    rcases solve_heuristic complete nonempty valid limited searching with ⟨tour, answer, rearranges⟩
    rw [answer] at solved
    cases solved
    exact ⟨tour, rfl, rearranges⟩

/--
The tour has one valid node per row and begins at the seed modulo `n`; the
objective is its cost.
-/
structure Coherent (model : Model) (randomSeed : UInt64) (result : Result) : Prop where
  length_eq : result.tour.length = model.size
  inRange : ∀ node ∈ result.tour, node < model.size
  head_eq : result.tour.head? = some (randomSeed.toNat % model.size)
  objective_eq : result.objective = Int64.ofInt (model.toProblem.tourCost result.tour)
  recomputed : computeTourCost model.toProblem { order := result.tour } = .ok result.objective

/-- One valid node per row, and the cost of visiting them, at any number of nodes. -/
theorem tour_of_solve {model : Model} {options : Options} {result : Result}
    (nonempty : model.size ≠ 0) (limited : options.timeLimitMs ≠ 0)
    (solved : model.solve options = (.ok, some result)) :
    result.tour.length = model.size ∧ (∀ node ∈ result.tour, node < model.size) ∧
      result.objective = routeCost model.toProblem result.tour := by
  have problemNonempty : model.toProblem.size ≠ 0 := by simpa using nonempty
  rcases accepted_of_solve solved with ⟨complete, valid⟩
  rcases solve_eq_ok complete nonempty valid limited solved with
    ⟨_, tour, rfl, rearranges⟩ | ⟨_, tour, rfl, returned⟩
  · refine ⟨?_, ?_, rearranges.cost_eq⟩
    · exact rearranges.perm.length_eq.trans
        ((length_seedOrder problemNonempty _ _).trans model.size_toProblem)
    · intro node nodeMem
      have seedMem := rearranges.perm.mem_iff.mp nodeMem
      have nodeLt := lt_of_mem_seedOrder problemNonempty _ _ node seedMem
      rwa [size_toProblem] at nodeLt
  · rcases heldKarpTour_tourFrom model.isSquare_toProblem problemNonempty returned with
      ⟨tourFrom, cost⟩
    refine ⟨tourFrom.isTour.length_eq.trans model.size_toProblem, ?_, cost⟩
    intro node nodeMem
    have nodeLt := (tourFrom.isTour.mem_iff node).mp nodeMem
    rwa [size_toProblem] at nodeLt

/-- Whatever a complete model answers, the objective is the route cost of at most `n` nodes. -/
theorem objective_eq_routeCost {model : Model} {options : Options} {result : Result}
    (complete : model.isComplete = true) (solved : model.solve options = (.ok, some result)) :
    result.objective = routeCost model.toProblem result.tour ∧
      result.tour.length ≤ model.size := by
  by_cases noTime : options.timeLimitMs = 0
  · rw [result_of_no_time noTime solved]
    exact ⟨rfl, Nat.zero_le _⟩
  by_cases empty : model.size = 0
  · rw [solve_of_empty complete empty (accepted_of_solve solved).2 noTime] at solved
    cases solved
    exact ⟨rfl, Nat.zero_le _⟩
  · rcases tour_of_solve empty noTime solved with ⟨lengthEq, -, cost⟩
    exact ⟨cost, lengthEq.le⟩

theorem head?_of_solve {model : Model} {options : Options} {result : Result}
    (nonempty : model.size ≠ 0) (small : model.size < 2 ^ 32) (limited : options.timeLimitMs ≠ 0)
    (solved : model.solve options = (.ok, some result)) :
    result.tour.head? = some (options.randomSeed.toNat % model.size) := by
  have problemNonempty : model.toProblem.size ≠ 0 := by simpa using nonempty
  have startEq := normalizeStartNode_seedStartNode small.le nonempty options.randomSeed
  rcases accepted_of_solve solved with ⟨complete, valid⟩
  rcases solve_eq_ok complete nonempty valid limited solved with
    ⟨_, tour, rfl, rearranges⟩ | ⟨_, tour, rfl, returned⟩
  · have first := head?_seedOrder problemNonempty (by simpa using small)
      (model.seedStartNode options.randomSeed) options.algorithm
    rw [startEq] at first
    exact rearranges.head_eq.trans first
  · have tourFrom :=
      (heldKarpTour_tourFrom model.isSquare_toProblem problemNonempty returned).1
    rw [startEq] at tourFrom
    exact tourFrom.head_eq

/-- Every result on a model that fits into memory is coherent. -/
theorem solve_coherent {model : Model} {options : Options} (nonempty : model.size ≠ 0)
    (small : model.size < 2 ^ 32) (limited : options.timeLimitMs ≠ 0) :
    ∀ result, model.solve options = (.ok, some result) →
      model.Coherent options.randomSeed result := by
  intro result solved
  rcases tour_of_solve nonempty limited solved with ⟨lengthEq, inRange, cost⟩
  refine ⟨lengthEq, inRange, head?_of_solve nonempty small limited solved, ?_, ?_⟩
  · exact cost.trans (routeCost_eq_ofInt _ _)
  · simp [computeTourCost, isSquare_toProblem, lengthEq, cost]

/-- Two nodes and a seed that wraps around. -/
theorem solve_coherent_two :
    let model := ofMatrix (fun source target => if source < target then 5 else 7) 2
    ∀ result, model.solve { algorithm := .metaheuristicIteratedLocalSearch, randomSeed := 3 } =
      (.ok, some result) → model.Coherent 3 result := by
  intro model
  exact solve_coherent (by decide) (by decide) (by decide)

end Model

end TspSolver
