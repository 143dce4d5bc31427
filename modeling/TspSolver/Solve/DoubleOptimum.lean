import TspSolver.Solve.GreedyInsertion
import TspSolver.Walk.Cuts
import TspSolver.Walk.Metric

/-!
# Cheapest insertion within twice the optimum

In a metric the insertion next to a placed node costs at most twice the edge to
it, so no edge that leaves the cycle undercuts half of the cheapest increase.
The increases are then gains across growing cuts, and any tour pays for half of
each of them.
-/

namespace TspSolver

open Walk (IsMetric Arrivals)

variable {problem : Problem}

/-- The twofold edge cost, which bounds what an insertion next to its source adds. -/
def Problem.doubledEdge (problem : Problem) (source target : ℕ) : ℤ :=
  2 * problem.edge source target

/-- The cheapest increase is at most twice any edge from the cycle to an unplaced node. -/
theorem IsCheapestInsertion.increase_le (metric : IsMetric problem.edge (· < problem.size))
    {order : List ℕ} {node position : ℕ}
    (cheapest : IsCheapestInsertion problem order node position)
    (inRange : ∀ placed ∈ order, placed < problem.size) {source target : ℕ}
    (sourceMem : source ∈ order) (targetLt : target < problem.size) (unplaced : target ∉ order) :
    problem.insertionIncrease order node position ≤ problem.doubledEdge source target := by
  rcases List.getElem_of_mem sourceMem with ⟨place, placeLt, sourceEq⟩
  rw [← List.getD_eq_getElem order 0 placeLt] at sourceEq
  have nextMem := Walk.getD_next_mem (List.ne_nil_of_mem sourceMem) place 0
  have least := Prod.Lex.monotone_fst _ _ (cheapest.least target targetLt unplaced place placeLt)
  have beside : problem.insertionIncrease order node position ≤
      problem.insertionIncrease order target place := least
  rw [insertionIncrease_eq placeLt target, sourceEq] at beside
  have detour := metric.triangle target source _ targetLt (inRange source sourceMem)
    (inRange _ nextMem)
  have back := metric.symmetric target source targetLt (inRange source sourceMem)
  rw [Problem.doubledEdge]
  linarith

/-- What a tour visits besides the placed nodes is unplaced. -/
theorem Problem.IsTour.unplaced {placed arrivals final : List ℕ} (tour : problem.IsTour final)
    (perm : (placed ++ arrivals).Perm final) {target : ℕ} (targetMem : target ∈ arrivals) :
    target < problem.size ∧ target ∉ placed := by
  have apart := (List.nodup_append.mp (perm.nodup_iff.mpr tour.nodup)).2.2
  constructor
  · exact (tour.mem_iff target).mp (perm.subset (List.mem_append_right _ targetMem))
  · exact fun targetPlaced => apart target targetPlaced target targetMem rfl

/-- The inserted nodes arrive with increases that no doubled edge across their cuts undercuts. -/
theorem InsertionSteps.exists_arrivals (metric : IsMetric problem.edge (· < problem.size))
    {order final : List ℕ} {increases : List ℤ}
    (steps : InsertionSteps problem order increases final) (nodup : order.Nodup)
    (inRange : ∀ node ∈ order, node < problem.size) :
    ∃ arrivals, Arrivals problem.doubledEdge order arrivals increases ∧
      (order ++ arrivals).Perm final := by
  induction steps with
  | done complete => exact ⟨[], Walk.arrivals_nil nodup, by simp⟩
  | @insert order final increases node position cheapest later ih =>
      have placed := insertAt_perm order (position + 1) node
      rcases insertAt_spec nodup inRange cheapest.node_lt cheapest.node_notMem _ with
        ⟨placedNodup, placedLt⟩
      rcases ih placedNodup placedLt with ⟨arrivals, arriving, perm⟩
      have moved : (order ++ node :: arrivals).Perm final :=
        (List.perm_middle.trans (placed.append_right arrivals).symm).trans perm
      refine ⟨node :: arrivals, arriving.cons placed ?_, moved⟩
      intro source sourceMem target targetMem
      rcases (later.isTour placedNodup placedLt).unplaced moved targetMem with
        ⟨targetLt, unplaced⟩
      exact cheapest.increase_le metric inRange sourceMem targetLt unplaced

/-- The cheapest second node arrives with the cost of its cycle. -/
theorem IsCheapestSecond.exists_arrivals (metric : IsMetric problem.edge (· < problem.size))
    {first second : ℕ} (cheapest : IsCheapestSecond problem first second)
    (firstLt : first < problem.size) {increases : List ℤ} {final : List ℕ}
    (steps : InsertionSteps problem [first, second] increases final) :
    ∃ arrivals, Arrivals problem.doubledEdge [first] arrivals
        ((problem.edge first second + problem.edge second first) :: increases) ∧
      (first :: arrivals).Perm final := by
  rcases cheapest.pair_spec firstLt with ⟨pairNodup, pairLt⟩
  rcases steps.exists_arrivals metric pairNodup pairLt with ⟨arrivals, arriving, perm⟩
  refine ⟨second :: arrivals, arriving.cons (List.Perm.swap second first []) ?_, perm⟩
  intro source sourceMem target targetMem
  rw [List.mem_singleton.mp sourceMem]
  have isTour := cheapest.isTour firstLt steps
  rcases isTour.unplaced (show ([first] ++ second :: arrivals).Perm final from perm) targetMem with
    ⟨targetLt, unplaced⟩
  have least := Prod.Lex.monotone_fst _ _
    (cheapest.least target targetLt (fun same => unplaced (List.mem_singleton.mpr same)))
  have cycle : problem.edge first second + problem.edge second first ≤
      problem.edge first target + problem.edge target first := least
  rw [metric.symmetric target first targetLt firstLt, ← two_mul] at cycle
  exact cycle

/-- The first cycle and all increases together cost at most twice any tour. -/
theorem IsCheapestSecond.sum_le (metric : IsMetric problem.edge (· < problem.size))
    {first second : ℕ} (cheapest : IsCheapestSecond problem first second)
    (firstLt : first < problem.size) {increases : List ℤ} {final : List ℕ}
    (steps : InsertionSteps problem [first, second] increases final) {order : List ℕ}
    (tour : problem.IsTour order) :
    problem.tourCost final ≤ 2 * problem.tourCost order := by
  rcases cheapest.exists_arrivals metric firstLt steps with ⟨arrivals, arriving, perm⟩
  have finalTour := cheapest.isTour firstLt steps
  have visited : order.Perm (first :: arrivals) := (tour.trans finalTour.symm).trans perm.symm
  have inRange : ∀ node ∈ first :: arrivals, node < problem.size := fun node nodeMem =>
    (tour.mem_iff node).mp (visited.mem_iff.mpr nodeMem)
  have gains := arriving.sum_le
    (fun source sourceMem target targetMem => congrArg (2 * ·)
      (metric.symmetric source target (inRange source sourceMem) (inRange target targetMem)))
    (fun source sourceMem target targetMem => mul_nonneg zero_le_two
      (metric.nonneg (inRange source sourceMem) (inRange target targetMem)))
    visited
  have opened := metric.cost_le_closedCost fun node nodeMem => (tour.mem_iff node).mp nodeMem
  have cycle : problem.tourCost [first, second] =
      problem.edge first second + problem.edge second first := by
    simp [Problem.tourCost, Walk.closedCost]
  calc
    problem.tourCost final
        = ((problem.edge first second + problem.edge second first) :: increases).sum := by
      rw [steps.tourCost_eq, cycle, List.sum_cons]
    _ ≤ Walk.cost problem.doubledEdge order := gains
    _ = 2 * Walk.cost problem.edge order := Walk.cost_mul_left 2 order
    _ ≤ 2 * problem.tourCost order := mul_le_mul_of_nonneg_left opened zero_le_two

/-- Twice a distance is even, so where it fits it stays below the sentinel. -/
theorem cycle_lt_maxValue (metric : IsMetric problem.edge (· < problem.size))
    (several : 2 ≤ problem.size) (small : problem.size < 2 ^ 32) {startNode first : ℕ}
    (firstEq : normalizeStartNode problem startNode = first)
    (fit : ∀ sum ∈ cheapestInsertionSums problem startNode, Int64.Fits sum) {node : ℕ}
    (nodeLt : node < problem.size) (distinct : node ≠ first) :
    problem.edge first node + problem.edge node first < Int64.maxValue.toInt := by
  have firstLt := normalizeStartNode_lt (show problem.size ≠ 0 by omega) startNode
  rw [firstEq] at firstLt
  have notSingle : problem.size ≠ 1 := by omega
  rw [cheapestInsertionSums, if_neg notSingle, firstEq, List.forall_mem_append,
    List.forall_mem_append] at fit
  have cycleFits := fits_cycle (marks_start firstLt) small fit.1.1 nodeLt distinct
  have maximum : Int64.maxValue.toInt = 2 ^ 63 - 1 := rfl
  rw [metric.symmetric node first nodeLt firstLt] at cycleFits ⊢
  have below := cycleFits.2
  omega

theorem tourCost_buildCheapestInsertionSeed_le (nonempty : 1 ≤ problem.size)
    (small : problem.size < 2 ^ 32) (metric : IsMetric problem.edge (· < problem.size))
    {startNode : ℕ} (fit : ∀ sum ∈ cheapestInsertionSums problem startNode, Int64.Fits sum)
    {order : List ℕ} (tour : problem.IsTour order) :
    problem.IsTour (buildCheapestInsertionSeed problem startNode) ∧
      problem.tourCost (buildCheapestInsertionSeed problem startNode) ≤
        2 * problem.tourCost order := by
  rcases nonempty.eq_or_lt with single | several
  · -- The only order of one node pays its loop, which is free.
    have built := (isTour_buildCheapestInsertionSeed_iff (by omega) small.le startNode).mpr
      ⟨small, fun several => absurd several (by omega)⟩
    have optimal := metric.closedCost_nonneg fun node nodeMem => (tour.mem_iff node).mp nodeMem
    have same := (built.eq_range (by omega)).trans (tour.eq_range (by omega)).symm
    rw [same]
    refine ⟨tour, ?_⟩
    rw [Problem.tourCost]
    linarith
  · have firstLt := normalizeStartNode_lt (show problem.size ≠ 0 by omega) startNode
    rcases insertionSteps_buildCheapestInsertionSeed several small rfl fit
      (fun _ nodeLt distinct => cycle_lt_maxValue metric several small rfl fit nodeLt distinct) with
      ⟨second, increases, cheapest, steps⟩
    exact ⟨cheapest.isTour firstLt steps, cheapest.sum_le metric firstLt steps tour⟩

/--
In a metric the tour of cheapest insertion costs at most twice as much as any
other tour, whatever the start.
-/
theorem cheapestInsertionTour_le_double {problem : Problem} (square : problem.isSquare = true)
    (nonempty : 1 ≤ problem.size) (small : problem.size < 2 ^ 32)
    (metric : IsMetric problem.edge (· < problem.size)) (startNode : ℕ)
    (fit : ∀ sum ∈ cheapestInsertionSums problem startNode, Int64.Fits sum) :
    ∃ tour, cheapestInsertionTour problem startNode = .ok tour ∧ problem.IsTour tour.order ∧
      ∀ order, problem.IsTour order → tour.totalCost.toInt ≤ 2 * problem.tourCost order := by
  refine ⟨_, guarded_of_nonempty square (by omega) _, ?_, ?_⟩
  · exact (tourCost_buildCheapestInsertionSeed_le nonempty small metric fit
      problem.isTour_range).1
  · intro order tour
    rw [toInt_routeCost_buildCheapestInsertionSeed fit]
    exact (tourCost_buildCheapestInsertionSeed_le nonempty small metric fit tour).2

theorem cheapestInsertionTour_le_double_four :
    let problem : Problem :=
      { distances := [[0, 2, 3, 4], [2, 0, 3, 4], [3, 3, 0, 5], [4, 4, 5, 0]] }
    (problem.isSquare = true ∧ 1 ≤ problem.size ∧ problem.size < 2 ^ 32 ∧
      IsMetric problem.edge (· < problem.size) ∧
      ∀ sum ∈ cheapestInsertionSums problem 6, Int64.Fits sum) ∧
    ∃ tour, cheapestInsertionTour problem 6 = .ok tour ∧ problem.IsTour tour.order ∧
      ∀ order, problem.IsTour order → tour.totalCost.toInt ≤ 2 * problem.tourCost order := by
  intro problem
  have bounded : problem.Bounded 5 := Problem.bounded_of_rows (by decide) (by decide)
  have fit := cheapestInsertionSums_fit bounded (by decide) (by decide) 6
  have metric : IsMetric problem.edge (· < problem.size) := by decide
  exact ⟨⟨by decide, by decide, by decide, metric, fit⟩,
    cheapestInsertionTour_le_double (by decide) (by decide) (by decide) metric 6 fit⟩

end TspSolver
