import TspSolver.LocalSearch.NearestNeighbor

/-!
# The greedy specification of nearest neighbor

A greedy order goes from every node to the nearest one that is not placed yet.
Below the sentinel there is exactly one such order from every start, and it is
the one that nearest neighbor builds.
-/

namespace TspSolver

/-- A tour that goes to the nearest unplaced node at every step, ties by node id. -/
structure GreedyOrder (problem : Problem) (start : ℕ) (order : List ℕ) : Prop where
  isTour : problem.IsTour order
  head_eq : order.head? = some start
  nearest : ∀ index, index + 1 < order.length →
    IsNearest problem (order.take (index + 1)) (order.getD index 0) (order.getD (index + 1) 0)

variable {problem : Problem} {start : ℕ}

theorem take_succ_eq_concat {order : List ℕ} {count : ℕ} (countLt : count < order.length) :
    order.take (count + 1) = order.take count ++ [order.getD count 0] := by
  rw [List.take_add_one, List.getElem?_eq_getElem countLt, List.getD_eq_getElem _ _ countLt,
    Option.toList_some]

/-- Every step of a walk went to the nearest node, the last one to `current`. -/
theorem GreedyWalk.nearest_at {placed : List ℕ} {current : ℕ}
    (walk : GreedyWalk problem start placed current) :
    placed.getD (placed.length - 1) 0 = current ∧
    ∀ index, index + 1 < placed.length →
      IsNearest problem (placed.take (index + 1)) (placed.getD index 0)
        (placed.getD (index + 1) 0) := by
  induction walk with
  | start => simp
  | @extend placed current next walk nearest ih =>
      rcases ih with ⟨lastEq, earlier⟩
      have positive := walk.length_pos
      refine ⟨by simp [List.getD_eq_getElem?_getD], ?_⟩
      intro index indexLt
      rw [List.length_append, List.length_singleton] at indexLt
      rw [List.take_append_of_le_length (by omega), List.getD_append _ _ _ _ (by omega)]
      by_cases old : index + 1 < placed.length
      · rw [List.getD_append _ _ _ _ old]
        exact earlier index old
      · have lengthEq : placed.length = index + 1 := by omega
        rw [List.getD_append_right _ _ _ _ (by omega), ← lengthEq, List.take_length, Nat.sub_self]
        rw [lengthEq, Nat.add_sub_cancel] at lastEq
        rw [lastEq]
        exact nearest

/-- The prefixes of a greedy order are walks. -/
theorem GreedyOrder.walk {order : List ℕ} (greedy : GreedyOrder problem start order) {count : ℕ}
    (countLt : count < order.length) :
    GreedyWalk problem start (order.take (count + 1)) (order.getD count 0) := by
  induction count with
  | zero =>
      rcases order with _ | ⟨first, rest⟩
      · simp at countLt
      · have firstEq : first = start := by simpa using greedy.head_eq
        subst firstEq
        exact GreedyWalk.start
  | succ count ih =>
      rw [take_succ_eq_concat countLt]
      exact (ih (by omega)).extend (greedy.nearest count countLt)

/-- Away from dead ends the order built is greedy. -/
theorem greedyOrder_buildNearestNeighborSeed (nonempty : problem.size ≠ 0)
    (small : problem.size < 2 ^ 32) {startNode : ℕ}
    (completes : GreedyWalkCompletes problem (normalizeStartNode problem startNode)) :
    GreedyOrder problem (normalizeStartNode problem startNode)
      (buildNearestNeighborSeed problem startNode) where
  isTour := isTour_buildNearestNeighborSeed_of_completes nonempty small completes
  head_eq := head?_buildNearestNeighborSeed nonempty startNode
  nearest :=
    (greedyWalk_of_completes nonempty small (Nat.sub_lt (Nat.pos_of_ne_zero nonempty) one_pos)
      completes).nearest_at.2

/-- A greedy order has no choice, as long as the loop builds a tour. -/
theorem GreedyOrder.eq_buildNearestNeighborSeed (nonempty : problem.size ≠ 0)
    (small : problem.size < 2 ^ 32) {startNode : ℕ}
    (tour : problem.IsTour (buildNearestNeighborSeed problem startNode)) {order : List ℕ}
    (greedy : GreedyOrder problem (normalizeStartNode problem startNode) order) :
    order = buildNearestNeighborSeed problem startNode := by
  have lengthEq := greedy.isTour.length_eq
  have last : order.length - 1 < order.length := by omega
  have whole := greedy.walk last
  rw [Nat.sub_add_cancel (by omega), List.take_length] at whole
  rcases whole.iterate_eq_or_repeated nonempty small with ⟨orderEq, _⟩ | repeated
  · rw [buildNearestNeighborSeed, ← lengthEq, orderEq]
  · rw [lengthEq] at repeated
    exact absurd tour.nodup repeated

/--
Below the sentinel the solver returns the order built, and it is the one order
that begins at the start modulo the size and is greedy.
-/
theorem nearestNeighborTour_greedy {problem : Problem} (square : problem.isSquare = true)
    (nonempty : 1 ≤ problem.size) (small : problem.size < 2 ^ 32)
    (below : ∀ source < problem.size, ∀ target < problem.size, source ≠ target →
      problem.distance source target < Int64.maxValue) (startNode : ℕ) :
    (nearestNeighborTour problem startNode =
      .ok
        { order := buildNearestNeighborSeed problem startNode
          totalCost := routeCost problem (buildNearestNeighborSeed problem startNode) }) ∧
    ∀ order, GreedyOrder problem (startNode % problem.size) order ↔
      order = buildNearestNeighborSeed problem startNode := by
  have notEmpty : problem.size ≠ 0 := by omega
  have completes := greedyWalkCompletes_of_lt (normalizeStartNode_lt notEmpty startNode) below
  rw [← normalizeStartNode_eq notEmpty small.le startNode]
  refine ⟨guarded_of_nonempty square notEmpty _, ?_⟩
  intro order
  constructor
  · intro greedy
    apply greedy.eq_buildNearestNeighborSeed notEmpty small
    exact isTour_buildNearestNeighborSeed_of_completes notEmpty small completes
  · rintro rfl
    exact greedyOrder_buildNearestNeighborSeed notEmpty small completes

theorem nearestNeighborTour_greedy_three :
    let problem : Problem := { distances := [[0, -4, 2], [3, 0, -1], [5, 5, 0]] }
    (problem.isSquare = true ∧ 1 ≤ problem.size ∧ problem.size < 2 ^ 32 ∧
      ∀ source < problem.size, ∀ target < problem.size, source ≠ target →
        problem.distance source target < Int64.maxValue) ∧
    (nearestNeighborTour problem 7 =
      .ok
        { order := buildNearestNeighborSeed problem 7
          totalCost := routeCost problem (buildNearestNeighborSeed problem 7) }) ∧
    ∀ order, GreedyOrder problem (7 % problem.size) order ↔
      order = buildNearestNeighborSeed problem 7 := by
  intro problem
  exact ⟨by decide, nearestNeighborTour_greedy (by decide) (by decide) (by decide) (by decide) 7⟩

end TspSolver
