import TspSolver.HeldKarp.Optimality
import TspSolver.LocalSearch.GreedyOrder
import TspSolver.Solve.GreedyInsertion

/-!
# Positive affine re-costing

Two problems on the same nodes are re-costings of each other when one positive
affine map turns all distances between distinct nodes of the first into those of
the second. Every comparison of the constructions and of the exact search is
between sums of equally many such distances, so both problems answer it alike.
-/

namespace TspSolver

/-- The distances between distinct nodes of the second problem are `factor * d + shift`. -/
structure Recosted (problem recosted : Problem) (factor shift : ℤ) : Prop where
  size_eq : recosted.size = problem.size
  factor_pos : 0 < factor
  edge_eq : ∀ source < problem.size, ∀ target < problem.size, source ≠ target →
    recosted.edge source target = factor * problem.edge source target + shift

variable {problem recosted : Problem} {factor shift : ℤ}

/-! ## Comparisons -/

theorem affine_lt_iff (positive : 0 < factor) (left right shift : ℤ) :
    factor * left + shift < factor * right + shift ↔ left < right := by
  rw [add_lt_add_iff_right, mul_lt_mul_iff_right₀ positive]

theorem affine_inj (positive : 0 < factor) (left right shift : ℤ) :
    factor * left + shift = factor * right + shift ↔ left = right := by
  rw [add_left_inj, mul_right_inj' positive.ne']

/-- Pairs that begin with affine images are ordered as the original pairs. -/
theorem toLex_affine_le_iff {Rank : Type*} [LinearOrder Rank] (positive : 0 < factor)
    {left right shift : ℤ} {leftRank rightRank : Rank} :
    (toLex (factor * left + shift, leftRank) : ℤ ×ₗ Rank) ≤
        toLex (factor * right + shift, rightRank) ↔
      (toLex (left, leftRank) : ℤ ×ₗ Rank) ≤ toLex (right, rightRank) := by
  rw [Prod.Lex.toLex_le_toLex, Prod.Lex.toLex_le_toLex]
  simp only [affine_lt_iff positive, affine_inj positive]

namespace Recosted

variable (recosts : Recosted problem recosted factor shift)

include recosts

theorem isTour_iff (order : List ℕ) : recosted.IsTour order ↔ problem.IsTour order := by
  rw [Problem.IsTour, Problem.IsTour, recosts.size_eq]

theorem normalizeStartNode_eq (startNode : ℕ) :
    normalizeStartNode recosted startNode = normalizeStartNode problem startNode := by
  rw [normalizeStartNode, normalizeStartNode, recosts.size_eq]

/-- Every step of a closed order goes to another node and pays the shift once. -/
theorem closed_eq {order : List ℕ} (nodup : order.Nodup)
    (inRange : ∀ node ∈ order, node < problem.size) (several : 2 ≤ order.length) :
    recosted.tourCost order = factor * problem.tourCost order + order.length * shift :=
  Walk.closedCost_affine nodup several fun source sourceMem target targetMem =>
    recosts.edge_eq source (inRange source sourceMem) target (inRange target targetMem)

theorem tourCost_eq (several : 2 ≤ problem.size) {order : List ℕ} (tour : problem.IsTour order) :
    recosted.tourCost order = factor * problem.tourCost order + problem.size * shift := by
  have lengthEq := tour.length_eq
  rw [recosts.closed_eq tour.nodup (fun node nodeMem => (tour.mem_iff node).mp nodeMem) (by omega),
    lengthEq]

/-! ## Nearest neighbor -/

theorem isNearest {placed : List ℕ} {current next : ℕ} (currentLt : current < problem.size)
    (currentMem : current ∈ placed) (nearest : IsNearest problem placed current next) :
    IsNearest recosted placed current next where
  next_lt := by
    rw [recosts.size_eq]
    exact nearest.next_lt
  next_notMem := nearest.next_notMem
  least node nodeLt notPlaced := by
    rw [recosts.size_eq] at nodeLt
    have apart {other : ℕ} (otherNotMem : other ∉ placed) : current ≠ other := by
      rintro rfl
      exact otherNotMem currentMem
    have least := Int64.toLex_toInt_le_iff.mpr (nearest.least node nodeLt notPlaced)
    apply Int64.toLex_toInt_le_iff.mp
    have nextEdge := recosts.edge_eq current currentLt next nearest.next_lt
      (apart nearest.next_notMem)
    have nodeEdge := recosts.edge_eq current currentLt node nodeLt (apart notPlaced)
    rw [Problem.edge] at nextEdge nodeEdge
    rw [nextEdge, nodeEdge]
    exact (toLex_affine_le_iff recosts.factor_pos).mpr least

theorem greedyOrder {start : ℕ} {order : List ℕ} (greedy : GreedyOrder problem start order) :
    GreedyOrder recosted start order where
  isTour := (recosts.isTour_iff order).mpr greedy.isTour
  head_eq := greedy.head_eq
  nearest index further := by
    have inside : index < order.length := by omega
    rw [List.getD_eq_getElem _ _ inside]
    have currentMem := List.getElem_mem inside
    apply recosts.isNearest ((greedy.isTour.mem_iff _).mp currentMem)
    · rw [List.mem_take_iff_getElem]
      exact ⟨index, by omega, rfl⟩
    · have nearest := greedy.nearest index further
      rwa [List.getD_eq_getElem _ _ inside] at nearest

/-- Below the sentinel both problems have the same nearest-neighbor order. -/
theorem buildNearestNeighborSeed_eq (nonempty : problem.size ≠ 0) (small : problem.size < 2 ^ 32)
    (below : ∀ source < problem.size, ∀ target < problem.size, source ≠ target →
      problem.distance source target < Int64.maxValue)
    (recostedBelow : ∀ source < problem.size, ∀ target < problem.size, source ≠ target →
      recosted.distance source target < Int64.maxValue) (startNode : ℕ) :
    problem.IsTour (buildNearestNeighborSeed problem startNode) ∧
      buildNearestNeighborSeed recosted startNode =
        buildNearestNeighborSeed problem startNode := by
  have completes := greedyWalkCompletes_of_lt (normalizeStartNode_lt nonempty startNode) below
  have greedy := recosts.greedyOrder
    (greedyOrder_buildNearestNeighborSeed nonempty small completes)
  refine ⟨isTour_buildNearestNeighborSeed_of_completes nonempty small completes, ?_⟩
  rw [← recosts.normalizeStartNode_eq] at greedy
  rw [← recosts.size_eq] at nonempty small recostedBelow
  apply (greedy.eq_buildNearestNeighborSeed nonempty small _).symm
  exact isTour_buildNearestNeighborSeed_of_lt nonempty small recostedBelow startNode

/-! ## Cheapest insertion -/

theorem isCheapestSecond {first second : ℕ} (firstLt : first < problem.size)
    (cheapest : IsCheapestSecond problem first second) :
    IsCheapestSecond recosted first second where
  second_lt := by
    rw [recosts.size_eq]
    exact cheapest.second_lt
  second_ne := cheapest.second_ne
  least node nodeLt distinct := by
    rw [recosts.size_eq] at nodeLt
    have cycle {other : ℕ} (otherLt : other < problem.size) (otherNe : other ≠ first) :
        recosted.edge first other + recosted.edge other first =
          factor * (problem.edge first other + problem.edge other first) + 2 * shift := by
      rw [recosts.edge_eq first firstLt other otherLt otherNe.symm,
        recosts.edge_eq other otherLt first firstLt otherNe]
      ring
    rw [cycle cheapest.second_lt cheapest.second_ne, cycle nodeLt distinct]
    exact (toLex_affine_le_iff recosts.factor_pos).mpr (cheapest.least node nodeLt distinct)

/-- An insertion adds one step, so its increase contains one shift. -/
theorem insertionIncrease_eq {order : List ℕ} (nodup : order.Nodup)
    (inRange : ∀ node ∈ order, node < problem.size) (several : 2 ≤ order.length) {node : ℕ}
    (nodeLt : node < problem.size) (unplaced : node ∉ order) (position : ℕ) :
    recosted.insertionIncrease order node position =
      factor * problem.insertionIncrease order node position + shift := by
  rcases insertAt_spec nodup inRange nodeLt unplaced (position + 1) with ⟨placedNodup, placedLt⟩
  have longer := length_insertAt order (position + 1) node
  rw [Problem.insertionIncrease, Problem.insertionIncrease,
    recosts.closed_eq placedNodup placedLt (by omega), recosts.closed_eq nodup inRange several,
    longer]
  push_cast
  ring

theorem isCheapestInsertion {order : List ℕ} (nodup : order.Nodup)
    (inRange : ∀ node ∈ order, node < problem.size) (several : 2 ≤ order.length)
    {node position : ℕ} (cheapest : IsCheapestInsertion problem order node position) :
    IsCheapestInsertion recosted order node position where
  node_lt := by
    rw [recosts.size_eq]
    exact cheapest.node_lt
  node_notMem := cheapest.node_notMem
  position_lt := cheapest.position_lt
  least other otherLt unplaced place placeLt := by
    rw [recosts.size_eq] at otherLt
    rw [Problem.insertionPreference, Problem.insertionPreference,
      recosts.insertionIncrease_eq nodup inRange several cheapest.node_lt cheapest.node_notMem,
      recosts.insertionIncrease_eq nodup inRange several otherLt unplaced]
    apply (toLex_affine_le_iff recosts.factor_pos).mpr
    exact cheapest.least other otherLt unplaced place placeLt

theorem insertionSteps {order final : List ℕ} {increases : List ℤ}
    (steps : InsertionSteps problem order increases final) (nodup : order.Nodup)
    (inRange : ∀ node ∈ order, node < problem.size) (several : 2 ≤ order.length) :
    InsertionSteps recosted order (increases.map fun increase => factor * increase + shift)
      final := by
  induction steps with
  | done complete => exact InsertionSteps.done (complete.trans recosts.size_eq.symm)
  | @insert order final increases node position cheapest later ih =>
      rcases insertAt_spec nodup inRange cheapest.node_lt cheapest.node_notMem (position + 1) with
        ⟨placedNodup, placedLt⟩
      have longer := length_insertAt order (position + 1) node
      rw [List.map_cons, ← recosts.insertionIncrease_eq nodup inRange several cheapest.node_lt
        cheapest.node_notMem]
      apply InsertionSteps.insert
      · exact recosts.isCheapestInsertion nodup inRange several cheapest
      · exact ih placedNodup placedLt (by omega)

/-- Where its sums are exact both problems have the same insertion order. -/
theorem buildCheapestInsertionSeed_eq (several : 2 ≤ problem.size) (small : problem.size < 2 ^ 32)
    {startNode first : ℕ} (firstEq : normalizeStartNode problem startNode = first)
    (fit : ∀ sum ∈ cheapestInsertionSums problem startNode, Int64.Fits sum)
    (below : ∀ node < problem.size, node ≠ first →
      problem.edge first node + problem.edge node first < Int64.maxValue.toInt)
    (recostedFit : ∀ sum ∈ cheapestInsertionSums recosted startNode, Int64.Fits sum)
    (recostedBelow : ∀ node < problem.size, node ≠ first →
      recosted.edge first node + recosted.edge node first < Int64.maxValue.toInt) :
    problem.IsTour (buildCheapestInsertionSeed problem startNode) ∧
      buildCheapestInsertionSeed recosted startNode =
        buildCheapestInsertionSeed problem startNode := by
  have firstLt := normalizeStartNode_lt (show problem.size ≠ 0 by omega) startNode
  rw [firstEq] at firstLt
  have recostedFirst := (recosts.normalizeStartNode_eq startNode).trans firstEq
  have sizeEq := recosts.size_eq
  rcases insertionSteps_buildCheapestInsertionSeed several small firstEq fit below with
    ⟨second, increases, cheapest, steps⟩
  rcases insertionSteps_buildCheapestInsertionSeed (by omega) (by omega) recostedFirst recostedFit
    (by rwa [sizeEq]) with ⟨recostedSecond, recostedIncreases, recostedCheapest, recostedSteps⟩
  rcases cheapest.pair_spec firstLt with ⟨pairNodup, pairLt⟩
  rw [recostedCheapest.unique (recosts.isCheapestSecond firstLt cheapest)] at recostedSteps
  exact ⟨cheapest.isTour firstLt steps,
    recostedSteps.unique (recosts.insertionSteps steps pairNodup pairLt le_rfl)⟩

end Recosted

/-! ## Tours of both problems -/

/-- One tour with exact costs in both problems. -/
structure TwinTours (problem recosted : Problem) (tour twin : Tour) : Prop where
  isTour : problem.IsTour tour.order
  order_eq : twin.order = tour.order
  cost_eq : tour.totalCost.toInt = problem.tourCost tour.order
  twinCost_eq : twin.totalCost.toInt = recosted.tourCost tour.order

theorem twinTours_of_routeSums {order : List ℕ} (tour : problem.IsTour order)
    (fit : ∀ sum ∈ routeSums problem order, Int64.Fits sum)
    (recostedFit : ∀ sum ∈ routeSums recosted order, Int64.Fits sum) :
    TwinTours problem recosted { order := order, totalCost := routeCost problem order }
      { order := order, totalCost := routeCost recosted order } where
  isTour := tour
  order_eq := rfl
  cost_eq := toInt_routeCost_of_routeSums_fit fit
  twinCost_eq := toInt_routeCost_of_routeSums_fit recostedFit

theorem TwinTours.toInt_eq (recosts : Recosted problem recosted factor shift)
    (several : 2 ≤ problem.size) {tour twin : Tour} (twins : TwinTours problem recosted tour twin) :
    twin.totalCost.toInt = factor * tour.totalCost.toInt + problem.size * shift := by
  rw [twins.twinCost_eq, twins.cost_eq, recosts.tourCost_eq several twins.isTour]

/-- Both problems compare two tours alike. -/
theorem TwinTours.lt_iff (recosts : Recosted problem recosted factor shift)
    (several : 2 ≤ problem.size) {left leftTwin right rightTwin : Tour}
    (leftTwins : TwinTours problem recosted left leftTwin)
    (rightTwins : TwinTours problem recosted right rightTwin) :
    leftTwin.totalCost < rightTwin.totalCost ↔ left.totalCost < right.totalCost := by
  rw [Int64.lt_iff_toInt_lt, Int64.lt_iff_toInt_lt, leftTwins.toInt_eq recosts several,
    rightTwins.toInt_eq recosts several, affine_lt_iff recosts.factor_pos]

/-! ## Held-Karp -/

/-- Both problems have the same least tour from the start. -/
theorem Recosted.heldKarpTour_twins (recosts : Recosted problem recosted factor shift)
    (square : problem.isSquare = true) (recostedSquare : recosted.isSquare = true)
    (several : 2 ≤ problem.size) (small : problem.size ≤ kHeldKarpCutoff) (startNode : ℕ)
    (sums : problem.SumsIn (normalizeStartNode problem startNode) InsideInf)
    (recostedSums : recosted.SumsIn (normalizeStartNode problem startNode) InsideInf) :
    ∃ tour twin, heldKarpTour problem startNode = .ok tour ∧
      heldKarpTour recosted startNode = .ok twin ∧ TwinTours problem recosted tour twin := by
  have sizeEq := recosts.size_eq
  have startEq := recosts.normalizeStartNode_eq startNode
  rcases exists_least_tour square several small startNode sums with
    ⟨tour, returned, tourFrom, costEq, least⟩
  rcases exists_least_tour recostedSquare (by omega) (by omega) startNode (by rwa [startEq]) with
    ⟨twin, twinReturned, twinFrom, twinCostEq, twinLeast⟩
  rw [startEq] at twinFrom twinLeast
  have twinTour := (recosts.isTour_iff _).mp twinFrom.isTour
  have orderEq : twin.order = tour.order := by
    have forward := least twin.order ⟨twinTour, twinFrom.head_eq⟩
    have backward := twinLeast tour.order
      ⟨(recosts.isTour_iff _).mpr tourFrom.isTour, tourFrom.head_eq⟩
    rw [recosts.tourCost_eq several twinTour, recosts.tourCost_eq several tourFrom.isTour,
      affine_lt_iff recosts.factor_pos, affine_inj recosts.factor_pos] at backward
    rcases forward with cheaper | ⟨tied, before⟩
    · omega
    · rcases backward with cheaper | ⟨_, after⟩
      · omega
      · exact List.reverse_injective (le_antisymm after before)
  refine ⟨tour, twin, returned, twinReturned, tourFrom.isTour, orderEq, costEq, ?_⟩
  rw [twinCostEq, orderEq]

end TspSolver
