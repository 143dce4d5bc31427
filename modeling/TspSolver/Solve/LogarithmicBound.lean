import TspSolver.LocalSearch.GreedyOrder
import TspSolver.Solve.Average
import TspSolver.Walk.Metric

/-!
# The logarithmic guarantee of the nearest-neighbor family

Every node of a greedy order weighs the edge to its successor. Of two nodes the
earlier one could have gone to the later one, so no edge is shorter than both
weights at its ends, and in a metric the weights add up to at most a logarithmic
multiple of any tour. Refinement and perturbation only lower the cost.
-/

namespace TspSolver

open Walk (IsMetric Separates)

/-- The edge from a node to its successor in the closed order. -/
def Problem.departure (problem : Problem) (order : List ℕ) (node : ℕ) : ℤ :=
  problem.edge node (order.getD ((order.idxOf node + 1) % order.length) 0)

variable {problem : Problem} {start : ℕ} {order : List ℕ}

/-- A closed order costs what its nodes weigh together. -/
theorem tourCost_eq_sum_departure (nodup : order.Nodup) :
    problem.tourCost order = (order.map (problem.departure order)).sum := by
  rw [Problem.tourCost, Walk.closedCost_eq_sum problem.edge order 0, ← Walk.sum_range_getD order 0]
  apply Finset.sum_congr rfl
  intro position positionMem
  have inside := Finset.mem_range.mp positionMem
  rw [Problem.departure, List.getD_eq_getElem _ _ inside, nodup.idxOf_getElem position inside]

/-- Going on to the successor was no longer than going to a later node. -/
theorem GreedyOrder.departure_le (greedy : GreedyOrder problem start order) {source target : ℕ}
    (sourceMem : source ∈ order) (targetMem : target ∈ order)
    (before : order.idxOf source < order.idxOf target) :
    problem.departure order source ≤ problem.edge source target := by
  have targetLt := List.idxOf_lt_length_of_mem targetMem
  have sourceLt := List.idxOf_lt_length_of_mem sourceMem
  have nearest := greedy.nearest (order.idxOf source) (by omega)
  rw [List.getD_eq_getElem _ _ sourceLt, List.getElem_idxOf] at nearest
  have unplaced : target ∉ order.take (order.idxOf source + 1) := by
    intro placed
    have early := (List.mem_take_iff_idxOf_lt targetMem).mp placed
    omega
  have least := nearest.least target ((greedy.isTour.mem_iff target).mp targetMem) unplaced
  have distanceLe := Int64.le_iff_toInt_le.mp (Prod.Lex.monotone_fst _ _ least)
  rw [Problem.departure, Nat.mod_eq_of_lt (by omega)]
  exact distanceLe

/-- In a metric the departures of a greedy order separate the nodes of every tour. -/
theorem GreedyOrder.separates (greedy : GreedyOrder problem start order)
    (metric : IsMetric problem.edge (· < problem.size)) {other : List ℕ}
    (tour : problem.IsTour other) :
    Separates problem.edge (problem.departure order) (problem.tourCost other) other where
  lighter_le source sourceMem target targetMem distinct := by
    have sourceLt := (tour.mem_iff source).mp sourceMem
    have targetLt := (tour.mem_iff target).mp targetMem
    have sourceIn := (greedy.isTour.mem_iff source).mpr sourceLt
    have targetIn := (greedy.isTour.mem_iff target).mpr targetLt
    have apart : order.idxOf source ≠ order.idxOf target :=
      fun same => distinct ((List.idxOf_inj sourceIn).mp same)
    rcases Nat.lt_or_gt_of_ne apart with before | after
    · exact (min_le_left _ _).trans (greedy.departure_le sourceIn targetIn before)
    · rw [metric.symmetric source target sourceLt targetLt]
      exact (min_le_right _ _).trans (greedy.departure_le targetIn sourceIn after)
  twice_le node nodeMem := by
    have nodeLt := (tour.mem_iff node).mp nodeMem
    have nonempty := List.ne_nil_of_mem ((greedy.isTour.mem_iff node).mpr nodeLt)
    have nextMem := Walk.getD_next_mem nonempty (order.idxOf node) 0
    have nextIn := (tour.mem_iff _).mpr ((greedy.isTour.mem_iff _).mp nextMem)
    exact metric.edge_le (fun vertex vertexMem => (tour.mem_iff vertex).mp vertexMem) nodeMem nextIn

/-- A greedy order costs at most a logarithmic multiple of every tour. -/
theorem GreedyOrder.tourCost_le (greedy : GreedyOrder problem start order)
    (metric : IsMetric problem.edge (· < problem.size)) (nonempty : problem.size ≠ 0)
    {other : List ℕ} (tour : problem.IsTour other) :
    2 * problem.tourCost order ≤ (Nat.clog 2 problem.size + 1) * problem.tourCost other := by
  have lengthEq := tour.length_eq
  have inRange : ∀ node ∈ other, node < problem.size := fun node nodeMem =>
    (tour.mem_iff node).mp nodeMem
  have bound := metric.sum_weights_le (List.ne_nil_of_length_pos (by omega)) tour.nodup inRange
    le_rfl (greedy.separates metric tour)
  have visited : other.Perm order := tour.trans greedy.isTour.symm
  rw [(visited.map _).sum_eq, lengthEq] at bound
  rw [tourCost_eq_sum_departure greedy.isTour.nodup]
  exact bound

namespace Model

/-- Nearest neighbor and the algorithms that refine its order. -/
def NearestNeighborFamily (algorithm : Algorithm) : Prop :=
  algorithm = .greedyNearestNeighbor ∨ Refined algorithm

theorem NearestNeighborFamily.valid {algorithm : Algorithm}
    (family : NearestNeighborFamily algorithm) : isValidAlgorithm algorithm = true := by
  rcases family with greedy | refined
  · rw [greedy]
    rfl
  · cases algorithm with
    | unlisted value => exact refined.elim
    | _ => rfl

theorem toInt_le_tourCost {order : List ℕ} {cost : Cost}
    (fit : ∀ sum ∈ routeSums problem order, Int64.Fits sum)
    (costLe : cost ≤ routeCost problem order) : cost.toInt ≤ problem.tourCost order := by
  rw [← toInt_routeCost_of_routeSums_fit fit]
  exact Int64.le_iff_toInt_le.mp costLe

/-- A run of the family costs at most its nearest-neighbor order, whose cost it has added up. -/
theorem solve_family {model : Model} {options : Options} (complete : model.isComplete = true)
    (nonempty : model.size ≠ 0) (limited : options.timeLimitMs ≠ 0)
    (sums : ∀ sum ∈ model.solveSums options, Int64.Fits sum)
    (family : NearestNeighborFamily options.algorithm) :
    ∃ result, model.solve options = (.ok, some result) ∧
      result.objective.toInt ≤ model.toProblem.tourCost
        (buildNearestNeighborSeed model.toProblem (model.seedStartNode options.randomSeed)) := by
  have sameSums := solveSums_eq complete nonempty family.valid limited
  rcases family with greedy | refined
  · refine ⟨_, solve_nearestNeighbor complete nonempty limited greedy, ?_⟩
    rw [sameSums, greedy] at sums
    exact toInt_le_tourCost sums le_rfl
  · rcases solve_refined complete nonempty limited sums refined with
      ⟨tour, answer, incumbent, _⟩
    have costLe := incumbent.cost_le.trans (twoOptRefine_totalCost_le model.toProblem _)
    refine ⟨_, answer, toInt_le_tourCost ?_ costLe⟩
    intro sum sumMem
    apply sums
    rw [sameSums]
    rcases options with ⟨timeLimitMs, randomSeed, algorithm⟩
    cases algorithm with
    | default => exact List.mem_append_left _ sumMem
    | localSearch2Opt => exact List.mem_append_left _ sumMem
    | metaheuristicIteratedLocalSearch =>
        exact List.mem_append_left _ (List.mem_append_left _ sumMem)
    | greedyNearestNeighbor => exact refined.elim
    | greedyCheapestInsertion => exact refined.elim
    | heldKarp => exact refined.elim
    | unlisted value => exact refined.elim

/--
In a metric, twice the objective of a run of the family is at most `⌈log₂ n⌉ + 1`
times the cost of any tour. Without time the objective is 0, which no tour undercuts.
-/
theorem solve_le_logarithmic {model : Model} {options : Options}
    (complete : model.isComplete = true) (several : 2 ≤ model.size)
    (small : model.size < 2 ^ 32)
    (below : ∀ source < model.size, ∀ target < model.size, source ≠ target →
      ∀ distance, model.entry source target = some distance → distance < Int64.maxValue)
    (metric : IsMetric model.toProblem.edge (· < model.size))
    (sums : ∀ sum ∈ model.solveSums options, Int64.Fits sum)
    (family : NearestNeighborFamily options.algorithm) :
    ∃ result, model.solve options = (.ok, some result) ∧
      ∀ order, model.toProblem.IsTour order →
        2 * result.objective.toInt ≤
          (Nat.clog 2 model.size + 1) * model.toProblem.tourCost order := by
  have nonempty : model.size ≠ 0 := by omega
  have problemNonempty : model.toProblem.size ≠ 0 := by simpa using nonempty
  by_cases noTime : options.timeLimitMs = 0
  · refine ⟨_, solve_of_no_time complete family.valid noTime, ?_⟩
    intro order tour
    have optimal : 0 ≤ model.toProblem.tourCost order := by
      apply metric.closedCost_nonneg
      intro node nodeMem
      simpa using (tour.mem_iff node).mp nodeMem
    exact mul_nonneg (by positivity) optimal
  · rcases solve_family complete nonempty noTime sums family with ⟨result, answer, objectiveLe⟩
    refine ⟨result, answer, ?_⟩
    intro order tour
    have problemSmall : model.toProblem.size < 2 ^ 32 := by rwa [size_toProblem]
    have completes := greedyWalkCompletes_of_lt
      (normalizeStartNode_lt problemNonempty (model.seedStartNode options.randomSeed))
      (distance_lt_of_entries complete below)
    have greedy := greedyOrder_buildNearestNeighborSeed problemNonempty problemSmall completes
    have bound := greedy.tourCost_le (by rwa [size_toProblem]) problemNonempty tour
    rw [size_toProblem] at bound
    linarith

/-- Four nodes on a line. -/
theorem solve_le_logarithmic_four :
    let model : Model :=
      { distances := [[some 0, some 2, some 3, some 7], [some 2, some 0, some 1, some 5],
          [some 3, some 1, some 0, some 4], [some 7, some 5, some 4, some 0]] }
    ∃ result, model.solve { algorithm := .metaheuristicIteratedLocalSearch, randomSeed := 7 } =
        (.ok, some result) ∧
      ∀ order, model.toProblem.IsTour order →
        2 * result.objective.toInt ≤
          (Nat.clog 2 model.size + 1) * model.toProblem.tourCost order := by
  intro model
  refine solve_le_logarithmic (by decide) (by decide) (by decide) ?_ (by decide) ?_
    (Or.inr trivial)
  · intro source sourceLt target targetLt _ distance present
    have cells : ∀ source < model.size, ∀ target < model.size,
        (model.entry source target).getD 0 < Int64.maxValue := by decide
    have cell := cells source sourceLt target targetLt
    rwa [present] at cell
  · have bounded : model.toProblem.Bounded 7 := Problem.bounded_of_rows (by decide) (by decide)
    rw [solveSums_eq (by decide) (by decide) rfl (by decide)]
    exact iteratedLocalSearchSums_fit bounded (by decide) (by decide) _ 7

end Model

end TspSolver
