import TspSolver.Solve.Overflow
import TspSolver.LocalSearch.NearestNeighbor

/-!
# 2-opt ends in local optima

The refinement loop only ends on a pass without a hit, and the rounds of
iterated local search only keep refined tours. On machine costs no reversal
behind position 0 improves such a tour; where the sums are exact and the matrix
is symmetric no exchange of two edges does, wherever the cycle is cut open.
-/

namespace TspSolver

/-- No reversal behind the first position lowers the route cost, so a refinement changes nothing. -/
structure LocalOptimum (problem : Problem) (tour : Tour) : Prop where
  cost_eq : tour.totalCost = routeCost problem tour.order
  reversal : ∀ i k, 1 ≤ i → i < k → k < tour.order.length →
    routeCost problem tour.order ≤ routeCost problem (reverseSegment tour.order i k)
  refined : twoOptRefine problem tour.order = tour

/--
No exchange of two edges of the cycle lowers its cost: neither by the four edges
at any two positions, the last one wrapping around, nor for the cycle cut open
anywhere with one part turned around.
-/
structure ExchangeOptimum (problem : Problem) (order : List ℕ) : Prop where
  exchange : ∀ first second, first < second → second < order.length →
    problem.edge (order.getD first 0) (order.getD ((first + 1) % order.length) 0) +
        problem.edge (order.getD second 0) (order.getD ((second + 1) % order.length) 0) ≤
      problem.edge (order.getD first 0) (order.getD second 0) +
        problem.edge (order.getD ((first + 1) % order.length) 0)
          (order.getD ((second + 1) % order.length) 0)
  reversal : ∀ front back, (front ++ back).IsRotated order →
    problem.tourCost order ≤ problem.tourCost (front.reverse ++ back)

/-- Every distance equals the one in the other direction. -/
def Problem.Symmetric (problem : Problem) : Prop :=
  ∀ source < problem.size, ∀ target < problem.size,
    problem.edge source target = problem.edge target source

instance (problem : Problem) : Decidable problem.Symmetric :=
  inferInstanceAs (Decidable (∀ source < problem.size, ∀ target < problem.size, _ = _))

variable {problem : Problem}

/-- A tour with its own route cost on which no pass has a hit. -/
theorem localOptimum_of_settled {tour : Tour} (cost : tour.totalCost = routeCost problem tour.order)
    (settled : twoOptPass problem tour = none) : LocalOptimum problem tour where
  cost_eq := cost
  reversal i k behind ordered inside := by
    rw [← cost]
    exact twoOptPass_eq_none settled behind ordered inside
  refined := by
    rw [twoOptRefine, ← cost]
    exact twoOptLoop_of_none settled

theorem exchangeOptimum_of_settled (square : problem.isSquare = true)
    (symmetric : problem.Symmetric) {tour : Tour} (exactPass : ExactPass problem tour)
    (cost : tour.totalCost = routeCost problem tour.order)
    (settled : twoOptPass problem tour = none) : ExchangeOptimum problem tour.order where
  exchange _ _ before inside :=
    exchange_of_settled (Problem.edge_comm square symmetric) exactPass cost settled before inside
  reversal _ _ rotated :=
    Walk.closedCost_le_reverse_front (Problem.edge_comm square symmetric)
      (fun _ _ _ nonempty orderEq =>
        tourCost_le_of_settled exactPass cost settled nonempty orderEq) rotated

/-- What the refinement of a tour promises. -/
structure RefinedTour (problem : Problem) (order : List ℕ) (tour : Tour) : Prop where
  perm : tour.order.Perm order
  head_eq : tour.order.head? = order.head?
  cost_le : tour.totalCost ≤ routeCost problem order
  localOptimum : LocalOptimum problem tour
  exchangeOptimum : problem.Symmetric →
    (∀ sum ∈ twoOptRefineSums problem order, Int64.Fits sum) → ExchangeOptimum problem tour.order

theorem refinedTour_twoOptRefine (square : problem.isSquare = true) (order : List ℕ) :
    RefinedTour problem order (twoOptRefine problem order) := by
  have rearranges := twoOptRefine_rearranges problem order
  have settled := twoOptPass_twoOptRefine problem order
  exact
    { perm := rearranges.perm
      head_eq := rearranges.head_eq
      cost_le := twoOptRefine_totalCost_le problem order
      localOptimum := localOptimum_of_settled rearranges.cost_eq settled
      exchangeOptimum := fun symmetric fit =>
        exchangeOptimum_of_settled square symmetric (exactPass_twoOptRefine fit)
          rearranges.cost_eq settled }

/-- What iterated local search promises. -/
structure SearchedTour (problem : Problem) (startNode : ℕ) (randomSeed : UInt64) (tour : Tour) :
    Prop where
  isTour : problem.IsTour tour.order
  localOptimum : LocalOptimum problem tour
  exchangeOptimum : problem.Symmetric →
    (∀ sum ∈ iteratedLocalSearchSums problem startNode randomSeed, Int64.Fits sum) →
    ExchangeOptimum problem tour.order

theorem exists_searchedTour (square : problem.isSquare = true) (small : problem.size < 2 ^ 32)
    (below : ∀ source < problem.size, ∀ target < problem.size, source ≠ target →
      problem.distance source target < Int64.maxValue) (startNode : ℕ) (randomSeed : UInt64) :
    ∃ tour, iteratedLocalSearchTour problem startNode randomSeed = .ok tour ∧
      SearchedTour problem startNode randomSeed tour := by
  by_cases empty : problem.size = 0
  · refine ⟨{}, by simp [iteratedLocalSearchTour, guarded, square, empty], ?_, ?_, ?_⟩
    · rw [Problem.IsTour, empty]
      exact List.Perm.refl _
    · exact localOptimum_of_settled rfl rfl
    · intro _ _
      refine ⟨by simp, ?_⟩
      intro front back rotated
      have nothing := List.append_eq_nil_iff.mp (List.isRotated_nil_iff.mp rotated)
      rw [nothing.1, nothing.2]
      exact le_rfl
  · have incumbent := incumbent_iteratedLocalSearchBest problem startNode randomSeed
    refine ⟨_, (iteratedLocalSearchTour_eq problem startNode randomSeed).trans
      (guarded_of_nonempty square empty _), ?_, ?_, ?_⟩
    · exact incumbent.rearranges.perm.trans
        (isTour_buildNearestNeighborSeed_of_lt empty small below startNode)
    · exact localOptimum_of_settled incumbent.rearranges.cost_eq incumbent.settled
    · intro symmetric fit
      exact exchangeOptimum_of_settled square symmetric (exactPass_iteratedLocalSearchBest fit)
        incumbent.rearranges.cost_eq incumbent.settled

/-- Refinements of tours and the tours of iterated local search are local optima in both senses. -/
theorem twoOpt_localOptimum {problem : Problem} (square : problem.isSquare = true) :
    (∀ order, problem.IsTour order →
      RefinedTour problem order (twoOptRefine problem order)) ∧
    (problem.size < 2 ^ 32 →
      (∀ source < problem.size, ∀ target < problem.size, source ≠ target →
        problem.distance source target < Int64.maxValue) →
      ∀ startNode randomSeed, ∃ tour,
        iteratedLocalSearchTour problem startNode randomSeed = .ok tour ∧
          SearchedTour problem startNode randomSeed tour) :=
  ⟨fun order _ => refinedTour_twoOptRefine square order, exists_searchedTour square⟩

theorem twoOpt_localOptimum_four :
    let problem : Problem :=
      { distances := [[0, 1, 4, 2], [1, 0, 1, 5], [4, 1, 0, 2], [2, 5, 2, 0]] }
    ExchangeOptimum problem (twoOptRefine problem [0, 2, 1, 3]).order ∧
    ∃ tour, iteratedLocalSearchTour problem 2 9 = .ok tour ∧ LocalOptimum problem tour ∧
      ExchangeOptimum problem tour.order := by
  intro problem
  have bounded : problem.Bounded 5 := Problem.bounded_of_rows (by decide) (by decide)
  have symmetric : problem.Symmetric := by decide
  rcases twoOpt_localOptimum (show problem.isSquare = true by decide) with ⟨refined, searched⟩
  rcases searched (by decide) (by decide) 2 9 with ⟨tour, returned, promises⟩
  refine ⟨?_, tour, returned, promises.localOptimum, ?_⟩
  · apply (refined [0, 2, 1, 3] (by decide)).exchangeOptimum symmetric
    exact twoOptRefineSums_fit bounded (by decide) rfl
  · apply promises.exchangeOptimum symmetric
    exact iteratedLocalSearchSums_fit bounded (by decide) (by decide) 2 9

end TspSolver
