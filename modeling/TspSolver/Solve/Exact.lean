import TspSolver.Solve.Sums
import TspSolver.LocalSearch.LocalOptimum

/-!
# What exact sums say about a run

A route whose additions all fit has its integer cost as its route cost. In a run
of 2-opt without overflow this covers the returned order and all its segment
reversals, since the last pass has added up each of them.
-/

namespace TspSolver

/-- Additions that all fit leave the exact sum in the running total. -/
theorem toInt_total_of_sums_fit (term : ℕ → Cost) (count : ℕ)
    (fit : ∀ sum ∈ Loop.entries (fun total index => [total.toInt + (term index).toInt])
      (fun total index => total + term index) (0 : Cost) (List.range count), Int64.Fits sum) :
    ((List.range count).foldl (fun total index => total + term index) 0).toInt =
      ∑ index ∈ Finset.range count, (term index).toInt := by
  induction count with
  | zero => rfl
  | succ count ih =>
      rw [List.range_succ, Loop.entries_append] at fit
      have earlier := ih fun sum sumMem => fit sum (List.mem_append_left _ sumMem)
      have now := fit _ (List.mem_append_right _ List.mem_cons_self)
      rw [List.range_succ, List.foldl_append, List.foldl_cons, List.foldl_nil,
        Int64.toInt_add_of_fits now, earlier, Finset.sum_range_succ]

theorem toInt_routeCost_of_routeSums_fit {problem : Problem} {order : List ℕ}
    (fit : ∀ sum ∈ routeSums problem order, Int64.Fits sum) :
    (routeCost problem order).toInt = problem.tourCost order := by
  rcases order with _ | ⟨first, rest⟩
  · rfl
  · rw [routeCost, List.isEmpty_cons, if_neg Bool.false_ne_true, toInt_total_of_sums_fit _ _ fit,
      Problem.tourCost, Walk.closedCost_eq_sum _ _ 0]
    rfl

/-! ## 2-opt -/

theorem findSome?_flatMap {Outer Inner Found : Type*} (find : Inner → Option Found)
    (inner : Outer → List Inner) (outer : List Outer) :
    (outer.flatMap inner).findSome? find =
      outer.findSome? fun element => (inner element).findSome? find := by
  induction outer with
  | nil => rfl
  | cons element rest ih =>
      rw [List.flatMap_cons, List.findSome?_append, ih, List.findSome?_cons]
      cases (inner element).findSome? find with
      | none => rfl
      | some found => rfl

/-- The two nested scans of a pass as one scan over the position pairs. -/
theorem twoOptPass_eq_findSome? (problem : Problem) (best : Tour) :
    twoOptPass problem best =
      (twoOptPairs best.order.length).findSome? fun pair =>
        twoOptMove problem best pair.1 pair.2 := by
  simp only [twoOptPairs, findSome?_flatMap, List.findSome?_map]
  rfl

theorem mem_twoOptPairs {length i k : ℕ} (iPos : 1 ≤ i) (ordered : i < k) (kLt : k < length) :
    (i, k) ∈ twoOptPairs length := by
  apply List.mem_flatMap.mpr
  refine ⟨i, List.mem_range'_1.mpr (by omega), ?_⟩
  exact List.mem_map.mpr ⟨k, List.mem_range'_1.mpr (by omega), rfl⟩

/-- A scan without a hit adds up every candidate. -/
theorem routeSums_subset_of_none {problem : Problem} {best : Tour} {pairs : List (ℕ × ℕ)}
    (exhausted : (pairs.findSome? fun pair => twoOptMove problem best pair.1 pair.2) = none)
    {pair : ℕ × ℕ} (pairMem : pair ∈ pairs) :
    routeSums problem (reverseSegment best.order pair.1 pair.2) ⊆
      twoOptPassSums problem best pairs := by
  induction pairs with
  | nil => simp at pairMem
  | cons head rest ih =>
      rw [List.findSome?_eq_none_iff] at exhausted
      have noMove := exhausted head (by simp)
      rw [twoOptPassSums, noMove]
      rcases List.mem_cons.mp pairMem with rfl | later
      · exact List.subset_append_left _ _
      · apply List.subset_append_of_subset_right
        apply ih _ later
        rw [List.findSome?_eq_none_iff]
        exact fun other otherMem => exhausted other (by simp [otherMem])

/-- A scan with a hit has added up the tour it returns. -/
theorem routeSums_subset_of_some {problem : Problem} {best better : Tour}
    {pairs : List (ℕ × ℕ)}
    (hit : (pairs.findSome? fun pair => twoOptMove problem best pair.1 pair.2) = some better) :
    routeSums problem better.order ⊆ twoOptPassSums problem best pairs := by
  induction pairs with
  | nil => simp at hit
  | cons head rest ih =>
      rw [List.findSome?_cons] at hit
      rw [twoOptPassSums]
      cases move : twoOptMove problem best head.1 head.2 with
      | some found =>
          rw [move] at hit
          cases hit
          rw [(twoOptMove_eq_some move).1]
          exact List.subset_append_left _ _
      | none =>
          rw [move] at hit
          exact List.subset_append_of_subset_right _ (ih hit)

theorem twoOptLoopSums_of_some {problem : Problem} {best better : Tour}
    (pass : twoOptPass problem best = some better) :
    twoOptLoopSums problem best =
      twoOptPassSums problem best (twoOptPairs best.order.length) ++
        twoOptLoopSums problem better := by
  conv_lhs => rw [twoOptLoopSums]
  congr 1
  split
  · next exhausted => simp [pass] at exhausted
  · next other same =>
      rw [pass] at same
      cases same
      rfl

theorem twoOptPassSums_subset (problem : Problem) (best : Tour) :
    twoOptPassSums problem best (twoOptPairs best.order.length) ⊆ twoOptLoopSums problem best := by
  rw [twoOptLoopSums]
  exact List.subset_append_left _ _

theorem exactPass_twoOptLoop {problem : Problem} {best : Tour}
    (current : ∀ sum ∈ routeSums problem best.order, Int64.Fits sum)
    (fit : ∀ sum ∈ twoOptLoopSums problem best, Int64.Fits sum) :
    ExactPass problem (twoOptLoop problem best) := by
  have passFit := fun sum sumMem => fit sum (twoOptPassSums_subset problem best sumMem)
  cases pass : twoOptPass problem best with
  | none =>
      rw [twoOptLoop_of_none pass]
      rw [twoOptPass_eq_findSome?] at pass
      refine ⟨toInt_routeCost_of_routeSums_fit current, ?_⟩
      intro i k iPos ordered kLt
      apply toInt_routeCost_of_routeSums_fit
      intro sum sumMem
      exact passFit sum (routeSums_subset_of_none pass (mem_twoOptPairs iPos ordered kLt) sumMem)
  | some better =>
      rw [twoOptLoop_of_some pass]
      have lower := Tour.slack_lt (twoOptPass_lt pass)
      rw [twoOptLoopSums_of_some pass, List.forall_mem_append] at fit
      apply exactPass_twoOptLoop _ fit.2
      rw [twoOptPass_eq_findSome?] at pass
      exact fun sum sumMem => passFit sum (routeSums_subset_of_some pass sumMem)
termination_by best.slack
decreasing_by exact lower

theorem exactPass_twoOptRefine {problem : Problem} {order : List ℕ}
    (fit : ∀ sum ∈ twoOptRefineSums problem order, Int64.Fits sum) :
    ExactPass problem (twoOptRefine problem order) := by
  rw [twoOptRefineSums, List.forall_mem_append] at fit
  exact exactPass_twoOptLoop fit.1 fit.2

/-! ## Iterated local search -/

theorem exactPass_iteratedLocalSearchBest {problem : Problem} {startNode : ℕ}
    {randomSeed : UInt64}
    (fit : ∀ sum ∈ iteratedLocalSearchSums problem startNode randomSeed, Int64.Fits sum) :
    ExactPass problem (iteratedLocalSearchBest problem startNode randomSeed) := by
  rw [iteratedLocalSearchSums, List.forall_mem_append] at fit
  refine Loop.iterate_induction_of_entries
    (fun state : Tour × UInt64 => ExactPass problem state.1) Int64.Fits _ ?_ ?_ fit.2
  · exact exactPass_twoOptRefine fit.1
  · intro state exactPass refinedFit
    unfold iteratedLocalSearchStep
    dsimp only
    split
    · exact exactPass_twoOptRefine refinedFit
    · exact exactPass

/-! ## Runs of `solve` -/

namespace Model

theorem solveSums_eq {model : Model} {options : Options} (complete : model.isComplete = true)
    (nonempty : model.size ≠ 0) (valid : isValidAlgorithm options.algorithm = true)
    (limited : options.timeLimitMs ≠ 0) :
    model.solveSums options =
      dispatchSums model.toProblem (model.seedStartNode options.randomSeed) options.randomSeed
        (resolveAlgorithm options.algorithm) := by
  simp [solveSums, complete, nonempty, valid, limited]

end Model

end TspSolver
