import TspSolver.Solve.Permutation

/-!
# The optimum

What the exact search is for is a property of the problem alone: the least cost
of all closed tours. Where all sums stay in the range of its sentinel the search
reports that cost, whatever the seed, and every other algorithm reports the cost
of some tour, so none reports less.
-/

namespace TspSolver

/-- The least cost of all tours. -/
def Problem.IsOptimum (problem : Problem) (cost : ℤ) : Prop :=
  IsLeast {total | ∃ order, problem.IsTour order ∧ problem.tourCost order = total} cost

/-- Every path and every tour costs strictly between `-kInf` and `kInf`. -/
def Problem.InRange (problem : Problem) : Prop := ∀ start, problem.SumsIn start InsideInf

section InRange

variable {problem : Problem} (inRange : problem.InRange)

include inRange

theorem Problem.InRange.tour {order : List ℕ} (tour : problem.IsTour order) :
    InsideInf (problem.tourCost order) := (inRange 0).tours order tour

theorem Problem.InRange.edge {source target : ℕ} (sourceLt : source < problem.size)
    (targetLt : target < problem.size) (distinct : source ≠ target) :
    InsideInf (problem.edge source target) := by
  have path : problem.IsPath source [source, target] :=
    ⟨rfl, by simp [distinct], by simp [sourceLt, targetLt]⟩
  simpa using (inRange source).paths _ path

theorem Problem.InRange.distance_lt {source target : ℕ} (sourceLt : source < problem.size)
    (targetLt : target < problem.size) (distinct : source ≠ target) :
    problem.distance source target < Int64.maxValue := by
  have upper := (inRange.edge sourceLt targetLt distinct).2
  have infEq : kInf.toInt = 2 ^ 61 - 1 := by decide
  have maxEq : Int64.maxValue.toInt = 2 ^ 63 - 1 := by decide
  rw [Problem.edge] at upper
  rw [Int64.lt_iff_toInt_lt]
  omega

/-- No cycle of two edges reaches the sentinel of the second node. -/
theorem Problem.InRange.cycleCost_ne {first node : ℕ} (firstLt : first < problem.size)
    (nodeLt : node < problem.size) (distinct : node ≠ first) :
    cycleCost problem first node ≠ Int64.maxValue := by
  rcases inRange.edge firstLt nodeLt distinct.symm with ⟨thereLower, thereUpper⟩
  rcases inRange.edge nodeLt firstLt distinct with ⟨backLower, backUpper⟩
  have infEq : kInf.toInt = 2 ^ 61 - 1 := by decide
  have maxEq : Int64.maxValue.toInt = 2 ^ 63 - 1 := by decide
  rw [Problem.edge] at thereLower thereUpper backLower backUpper
  have exact : (cycleCost problem first node).toInt =
      (problem.distance first node).toInt + (problem.distance node first).toInt := by
    apply Int64.toInt_add_of_fits
    constructor <;> omega
  intro same
  rw [same] at exact
  omega

end InRange

/-! ## The exact search -/

/-- A model on which the search has room for all its sums. -/
structure Model.Searchable (model : Model) : Prop where
  reachable : model.Reachable
  complete : model.isComplete = true
  nonempty : model.size ≠ 0
  small : model.size ≤ 18
  inRange : model.toProblem.InRange

/-- The options ask for the search and give it time. -/
structure Options.Searches (options : Options) : Prop where
  searching : options.algorithm = .heldKarp
  limited : options.timeLimitMs ≠ 0

namespace Model

variable {model : Model} {options : Options}

/-- The search returns the tour from the seeded start that no other is before. -/
theorem Searchable.exists_least (searchable : model.Searchable) (searches : options.Searches) :
    ∃ tour, model.solve options = (.ok, some (resultOf .heldKarp tour)) ∧
      model.toProblem.TourFrom (options.randomSeed.toNat % model.size) tour.order ∧
      tour.totalCost.toInt = model.toProblem.tourCost tour.order ∧
      ∀ other, model.toProblem.TourFrom (options.randomSeed.toNat % model.size) other →
        model.toProblem.tourCost tour.order < model.toProblem.tourCost other ∨
          model.toProblem.tourCost tour.order = model.toProblem.tourCost other ∧
            tour.order.reverse ≤ other.reverse := by
  have square := model.isSquare_toProblem
  have startEq := normalizeStartNode_seedStartNode searchable.reachable.wellFormed.size_le
    searchable.nonempty options.randomSeed
  have found : ∃ tour, heldKarpTour model.toProblem (model.seedStartNode options.randomSeed) =
      .ok tour ∧
      model.toProblem.TourFrom (options.randomSeed.toNat % model.size) tour.order ∧
      tour.totalCost.toInt = model.toProblem.tourCost tour.order ∧
      ∀ other, model.toProblem.TourFrom (options.randomSeed.toNat % model.size) other →
        model.toProblem.tourCost tour.order < model.toProblem.tourCost other ∨
          model.toProblem.tourCost tour.order = model.toProblem.tourCost other ∧
            tour.order.reverse ≤ other.reverse := by
    by_cases single : model.toProblem.size = 1
    · have returned := heldKarpTour_of_single square single
        (model.seedStartNode options.randomSeed)
      rcases heldKarpTour_tourFrom square (by omega) returned with ⟨tourFrom, -⟩
      rw [startEq] at tourFrom
      refine ⟨_, returned, tourFrom, by simp [Problem.tourCost, Walk.closedCost, Problem.edge], ?_⟩
      intro other otherFrom
      right
      rw [otherFrom.isTour.eq_range single.le, single]
      exact ⟨rfl, le_rfl⟩
    · have several : 2 ≤ model.toProblem.size := by
        have nonempty := searchable.nonempty
        rw [size_toProblem] at single ⊢
        omega
      have small : model.toProblem.size ≤ kHeldKarpCutoff := by
        rw [size_toProblem]
        exact searchable.small
      have least := exists_least_tour square several small
        (model.seedStartNode options.randomSeed) (searchable.inRange _)
      rwa [startEq] at least
  rcases found with ⟨tour, returned, least⟩
  rcases solve_heldKarp searchable.complete searches.limited searches.searching with
    ⟨same, sameReturned, answer⟩ | ⟨_, failed, _⟩
  · rw [returned] at sameReturned
    cases sameReturned
    exact ⟨tour, answer, least⟩
  · rw [returned] at failed
    cases failed

/-- The objective of the search is the optimum of the problem. -/
theorem Searchable.exists_optimum (searchable : model.Searchable) (searches : options.Searches) :
    ∃ best, model.solve options = (.ok, some best) ∧
      model.toProblem.IsOptimum best.objective.toInt := by
  rcases searchable.exists_least searches with ⟨tour, answer, tourFrom, costEq, least⟩
  refine ⟨_, answer, ⟨tour.order, tourFrom.isTour, costEq.symm⟩, ?_⟩
  rintro _ ⟨order, orderTour, rfl⟩
  have startLt : options.randomSeed.toNat % model.size < model.toProblem.size := by
    rw [size_toProblem]
    exact Nat.mod_lt _ (Nat.pos_of_ne_zero searchable.nonempty)
  rcases orderTour.exists_tourFrom startLt with ⟨turned, turnedFrom, sameCost⟩
  rw [resultOf, costEq, ← sameCost]
  rcases least turned turnedFrom with cheaper | ⟨tied, -⟩
  · exact cheaper.le
  · exact tied.le

/-- No construction meets a dead end. -/
theorem Searchable.seedCompletes (searchable : model.Searchable) (options : Options) :
    model.SeedCompletes options := by
  have startLt : options.randomSeed.toNat % model.size < model.toProblem.size := by
    rw [size_toProblem]
    exact Nat.mod_lt _ (Nat.pos_of_ne_zero searchable.nonempty)
  have inRange := searchable.inRange
  unfold SeedCompletes
  split
  · intro several dead
    rw [← size_toProblem] at several
    -- Some node other than the start closes a cycle below the sentinel.
    have other : ∃ node < model.toProblem.size, node ≠ options.randomSeed.toNat % model.size := by
      rcases eq_or_ne (options.randomSeed.toNat % model.size) 0 with atZero | notZero
      · exact ⟨1, by omega, by omega⟩
      · exact ⟨0, by omega, notZero.symm⟩
    rcases other with ⟨node, nodeLt, distinct⟩
    exact inRange.cycleCost_ne startLt nodeLt distinct (dead.unreachable node nodeLt distinct)
  · exact greedyWalkCompletes_of_lt startLt
      fun _ sourceLt _ targetLt distinct => inRange.distance_lt sourceLt targetLt distinct

/-- Every algorithm reports the exact cost of some tour. -/
theorem Searchable.exists_tour (searchable : model.Searchable)
    (valid : isValidAlgorithm options.algorithm = true) (limited : options.timeLimitMs ≠ 0) :
    ∃ result, model.solve options = (.ok, some result) ∧
      model.toProblem.IsTour result.tour ∧
      result.objective.toInt = model.toProblem.tourCost result.tour := by
  by_cases searching : options.algorithm = .heldKarp
  · rcases searchable.exists_least ⟨searching, limited⟩ with ⟨tour, answer, tourFrom, costEq, -⟩
    exact ⟨_, answer, tourFrom.isTour, costEq⟩
  · have few := searchable.small
    have seedTour := (isTour_seedOrder_iff options searchable.reachable searchable.nonempty).mpr
      ⟨by omega, searchable.seedCompletes options⟩
    rcases solve_heuristic searchable.complete searchable.nonempty valid limited searching with
      ⟨tour, answer, rearranges⟩
    have isTour : model.toProblem.IsTour tour.order := rearranges.perm.trans seedTour
    refine ⟨_, answer, isTour, ?_⟩
    rw [resultOf, rearranges.cost_eq]
    exact toInt_routeCost (searchable.inRange.tour isTour).fits

/-- Distances of absolute value up to 2^56 leave the search room for all its sums. -/
theorem searchable_of_bounded (reachable : model.Reachable) (complete : model.isComplete = true)
    (nonempty : model.size ≠ 0) (small : model.size ≤ 18)
    (bounded : ∀ source < model.toProblem.size, ∀ target < model.toProblem.size,
      |model.toProblem.edge source target| ≤ 2 ^ 56) : model.Searchable := by
  refine ⟨reachable, complete, nonempty, small, fun start => ?_⟩
  apply Problem.SumsIn.of_bounded start (by decide) bounded
  intro sum sumLe
  apply insideInf_of_abs_le _ sumLe
  rw [size_toProblem]
  omega

/--
No algorithm, under any seed, reports less than the search does under any other;
the search itself reports the optimum of the problem under every seed.
-/
theorem solve_heldKarp_le {exact : Options} (searchable : model.Searchable)
    (searches : exact.Searches) (valid : isValidAlgorithm options.algorithm = true)
    (limited : options.timeLimitMs ≠ 0) :
    ∃ best result, model.solve exact = (.ok, some best) ∧
      model.solve options = (.ok, some result) ∧ best.status = .optimal ∧
      model.toProblem.IsOptimum best.objective.toInt ∧ best.objective ≤ result.objective ∧
      (result.objective = best.objective ↔
        model.toProblem.IsOptimum (model.toProblem.tourCost result.tour)) ∧
      (options.algorithm = .heldKarp → result.objective = best.objective) := by
  rcases searchable.exists_least searches with ⟨tour, answer, -⟩
  rcases searchable.exists_optimum searches with ⟨best, solved, optimum⟩
  rcases searchable.exists_tour valid limited with ⟨result, other, isTour, costEq⟩
  have least : best.objective.toInt ≤ result.objective.toInt :=
    optimum.2 ⟨result.tour, isTour, costEq.symm⟩
  refine ⟨best, result, solved, other, ?_, optimum, Int64.le_iff_toInt_le.mpr least, ?_, ?_⟩
  · rw [answer] at solved
    cases solved
    rfl
  · rw [← costEq, ← Int64.toInt_inj]
    constructor
    · intro same
      rwa [same]
    · intro otherOptimum
      exact otherOptimum.unique optimum
  · intro searching
    rcases searchable.exists_optimum ⟨searching, limited⟩ with ⟨same, sameSolved, sameOptimum⟩
    rw [other] at sameSolved
    cases sameSolved
    exact Int64.toInt_inj.mp (sameOptimum.unique optimum)

/-- Four nodes with an asymmetric distance, searched from node 3 and insertion from node 1. -/
theorem solve_heldKarp_le_four :
    let model := ofMatrix (fun source target => if source < target then 9 else -2) 4
    ∃ best result, model.solve { algorithm := .heldKarp, randomSeed := 7 } = (.ok, some best) ∧
      model.solve { algorithm := .greedyCheapestInsertion, randomSeed := 5 } =
        (.ok, some result) ∧ best.objective ≤ result.objective := by
  intro model
  have searchable : model.Searchable := searchable_of_bounded (reachable_ofMatrix _ 4) (by decide)
    (by decide) (by decide) (by decide)
  have searches : Options.Searches { algorithm := .heldKarp, randomSeed := 7 } :=
    ⟨rfl, by decide⟩
  rcases @solve_heldKarp_le model { algorithm := .greedyCheapestInsertion, randomSeed := 5 } _
    searchable searches rfl (by decide) with ⟨best, result, solved, other, -, -, least, -⟩
  exact ⟨best, result, solved, other, least⟩

end Model

end TspSolver
