import TspSolver.LocalSearch.TwoOpt
import TspSolver.Walk.Exchange

/-!
# Local optima of 2-opt

The scan over `1 ≤ i < k < n` covers every pair of edges of the tour, the ones
at the fixed start and the closing edge included: reversing `i..k` exchanges the
edges behind `i - 1` and behind `k`. A tour that no pass improves therefore
satisfies all exchange inequalities, and costs at most the average tour.
-/

namespace TspSolver

variable {problem : Problem}

/-- The exchange that a segment reversal performs. -/
theorem tourCost_reverseSegment
    (symmetric : ∀ source target, problem.edge source target = problem.edge target source)
    {order : List ℕ} {i k : ℕ} (behind : 1 ≤ i) (ordered : i < k) (inside : k < order.length) :
    problem.tourCost (reverseSegment order i k) +
        (problem.edge (order.getD (i - 1) 0) (order.getD i 0) +
          problem.edge (order.getD k 0) (order.getD ((k + 1) % order.length) 0)) =
      problem.tourCost order +
        (problem.edge (order.getD (i - 1) 0) (order.getD k 0) +
          problem.edge (order.getD i 0) (order.getD ((k + 1) % order.length) 0)) := by
  have front : order.take i = order.take (i - 1) ++ [order.getD (i - 1) 0] := by
    have previousLt : i - 1 < order.length := by omega
    have step : i - 1 + 1 = i := by omega
    rw [List.getD_eq_getElem _ _ previousLt, List.take_append_getElem, step]
  have segmentLength : ((order.drop i).take (k + 1 - i)).length = k + 1 - i := by
    simp
    omega
  have nonempty : (order.drop i).take (k + 1 - i) ≠ [] := by
    intro empty
    rw [empty, List.length_nil] at segmentLength
    omega
  have whole : order = order.take (i - 1) ++ order.getD (i - 1) 0 ::
      ((order.drop i).take (k + 1 - i) ++ order.drop (k + 1)) := by
    have parts := eq_take_append_segment ordered.le order
    rw [front, List.append_assoc, List.singleton_append] at parts
    exact parts
  have headEq : ((order.drop i).take (k + 1 - i)).head nonempty = order.getD i 0 := by
    rw [List.head_take, List.head_drop, List.getD_eq_getElem]
  have lastEq : ((order.drop i).take (k + 1 - i)).getLast nonempty = order.getD k 0 := by
    have lastAt : i + (k + 1 - i - 1) = k := by omega
    rw [List.getLast_eq_getElem, List.getElem_take, List.getElem_drop,
      List.getD_eq_getElem _ _ inside]
    simp only [segmentLength, lastAt]
  rcases Walk.exists_next inside behind 0 with ⟨tail, next⟩
  rw [front, ← List.append_assoc] at next
  have exchanged := Walk.closedCost_reverse_segment symmetric (order.take (i - 1))
    (order.drop (k + 1)) (order.getD (i - 1) 0) (order.getD ((k + 1) % order.length) 0) nonempty
    next
  rw [headEq, lastEq, ← whole] at exchanged
  have reversed : reverseSegment order i k = order.take (i - 1) ++ order.getD (i - 1) 0 ::
      (((order.drop i).take (k + 1 - i)).reverse ++ order.drop (k + 1)) := by
    rw [reverseSegment, front]
    simp
  rw [reversed]
  exact exchanged

/-- A sum over the positions of a tour is a sum over its nodes. -/
theorem sum_positions_eq_sum_nodes {order : List ℕ} (tour : problem.IsTour order) (term : ℕ → ℤ) :
    ∑ position ∈ Finset.range order.length, term (order.getD position 0) =
      ∑ node ∈ Finset.range problem.size, term node := by
  have listed := Walk.sum_range_getD (List.range problem.size) 0 term
  rw [List.length_range] at listed
  rw [Walk.sum_range_getD, (List.Perm.map term tour).sum_eq, ← listed]
  apply Finset.sum_congr rfl
  intro node nodeMem
  rw [List.getD_eq_getElem _ _ (by simpa using nodeMem), List.getElem_range]

/-- The route costs that a pass over a tour compares are exact. -/
structure ExactPass (problem : Problem) (tour : Tour) : Prop where
  tour_eq : (routeCost problem tour.order).toInt = problem.tourCost tour.order
  reversal_eq : ∀ i k, 1 ≤ i → i < k → k < tour.order.length →
    (routeCost problem (reverseSegment tour.order i k)).toInt =
      problem.tourCost (reverseSegment tour.order i k)

/-- No exchange of two edges lowers the cost of a tour on which no pass has a hit. -/
theorem exchange_of_settled
    (symmetric : ∀ source target, problem.edge source target = problem.edge target source)
    {tour : Tour} (exactPass : ExactPass problem tour)
    (cost : tour.totalCost = routeCost problem tour.order)
    (settled : twoOptPass problem tour = none) {first second : ℕ} (before : first < second)
    (inside : second < tour.order.length) :
    problem.edge (tour.order.getD first 0)
          (tour.order.getD ((first + 1) % tour.order.length) 0) +
        problem.edge (tour.order.getD second 0)
          (tour.order.getD ((second + 1) % tour.order.length) 0) ≤
      problem.edge (tour.order.getD first 0) (tour.order.getD second 0) +
        problem.edge (tour.order.getD ((first + 1) % tour.order.length) 0)
          (tour.order.getD ((second + 1) % tour.order.length) 0) := by
  have costEq := exactPass.tour_eq
  have nextEq : (first + 1) % tour.order.length = first + 1 := Nat.mod_eq_of_lt (by omega)
  rw [nextEq]
  rcases Nat.lt_or_eq_of_le (show first + 1 ≤ second from before) with apart | adjacent
  · have notBetter := twoOptPass_eq_none settled (show 1 ≤ first + 1 by omega) apart inside
    have reversedEq := exactPass.reversal_eq _ _ (by omega) apart inside
    have exchange := tourCost_reverseSegment symmetric (show 1 ≤ first + 1 by omega) apart inside
    rw [cost, Int64.le_iff_toInt_le, costEq, reversedEq] at notBetter
    rw [Nat.add_sub_cancel] at exchange
    omega
  · -- Neighboring edges exchange for themselves.
    rw [adjacent]

/-- Turning a segment behind the first node never lowers the cost of such a tour. -/
theorem tourCost_le_of_settled {tour : Tour} (exactPass : ExactPass problem tour)
    (cost : tour.totalCost = routeCost problem tour.order)
    (settled : twoOptPass problem tour = none) {before segment after : List ℕ}
    (nonempty : before ≠ []) (orderEq : tour.order = before ++ (segment ++ after)) :
    problem.tourCost tour.order ≤ problem.tourCost (before ++ (segment.reverse ++ after)) := by
  have beforePos := List.length_pos_of_ne_nil nonempty
  by_cases short : segment.length ≤ 1
  · have same : segment.reverse = segment := by
      rcases segment with _ | ⟨node, _ | ⟨_, _⟩⟩
      · rfl
      · rfl
      · simp at short
    rw [same, ← orderEq]
  · have lengthEq := congrArg List.length orderEq
    simp only [List.length_append] at lengthEq
    have ordered : before.length < before.length + segment.length - 1 := by omega
    have inside : before.length + segment.length - 1 < tour.order.length := by omega
    have notBetter := twoOptPass_eq_none settled beforePos ordered inside
    rw [cost, Int64.le_iff_toInt_le, exactPass.tour_eq,
      exactPass.reversal_eq _ _ beforePos ordered inside] at notBetter
    have count : before.length + segment.length - 1 + 1 - before.length = segment.length := by
      omega
    have rest : before.length + segment.length - 1 + 1 = before.length + segment.length := by
      omega
    have reversed : reverseSegment tour.order before.length
        (before.length + segment.length - 1) = before ++ (segment.reverse ++ after) := by
      rw [reverseSegment, count, rest, orderEq, List.take_left, List.drop_left, List.take_left,
        ← List.append_assoc before segment after, ← List.length_append, List.drop_left,
        List.append_assoc]
    rwa [reversed] at notBetter

/-- A tour on which no pass has a hit costs at most the average tour. -/
theorem settled_le_average
    (symmetric : ∀ source target, problem.edge source target = problem.edge target source)
    (loopless : ∀ node, problem.edge node node = 0) {tour : Tour}
    (exactPass : ExactPass problem tour) (isTour : problem.IsTour tour.order)
    (cost : tour.totalCost = routeCost problem tour.order)
    (settled : twoOptPass problem tour = none) :
    ((problem.size : ℤ) - 1) * tour.totalCost.toInt ≤
      ∑ source ∈ Finset.range problem.size, ∑ target ∈ Finset.range problem.size,
        problem.edge source target := by
  have costEq := exactPass.tour_eq
  have average := Walk.closedCost_le_average symmetric loopless tour.order 0
    fun _ _ before inside => exchange_of_settled symmetric exactPass cost settled before inside
  rw [isTour.length_eq] at average
  have rows : ∑ first ∈ Finset.range problem.size, ∑ second ∈ Finset.range problem.size,
      problem.edge (tour.order.getD first 0) (tour.order.getD second 0) =
        ∑ source ∈ Finset.range problem.size, ∑ target ∈ Finset.range problem.size,
          problem.edge source target := by
    have inner := sum_positions_eq_sum_nodes isTour
    rw [isTour.length_eq] at inner
    simp only [inner]
    exact inner fun source => ∑ target ∈ Finset.range problem.size, problem.edge source target
  rw [cost, costEq, ← rows]
  exact average

end TspSolver
