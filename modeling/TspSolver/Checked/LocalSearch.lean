import TspSolver.Checked
import TspSolver.LocalSearch.NearestNeighbor
import TspSolver.LocalSearch.CheapestInsertion
import TspSolver.LocalSearch.TwoOpt

/-!
# The local searches stay inside their vectors

On a square matrix every access of the constructions, of 2-opt and of the
perturbation is inside its vector, whatever the costs are. What carries the
proofs is that an order under construction lists nodes of the problem only and
that the flags have one entry for each node.
-/

namespace TspSolver

namespace Checked

open Loop

/-! ## Reads of the matrix and of orders -/

/-- Every entry of the order is a node of the problem. -/
def Inside (problem : Problem) (order : List ℕ) : Prop := ∀ node ∈ order, node < problem.size

variable {problem : Problem} {order : List ℕ}

theorem Inside.getD_lt (inside : Inside problem order) {index : ℕ}
    (indexLt : index < order.length) : order.getD index 0 < problem.size := by
  rw [List.getD_eq_getElem _ _ indexLt]
  exact inside _ (List.getElem_mem indexLt)

theorem Inside.of_perm {other : List ℕ} (inside : Inside problem order) (perm : other.Perm order) :
    Inside problem other := fun node nodeMem => inside node (perm.mem_iff.mp nodeMem)

section Square

variable (square : problem.isSquare = true)

include square

theorem distance_eq {source target : ℕ} (sourceLt : source < problem.size)
    (targetLt : target < problem.size) :
    distance problem source target = some (problem.distance source target) := by
  have row := beq_iff_eq.mp (List.all_eq_true.mp square _ (List.getElem_mem sourceLt))
  have targetIn : target < (problem.distances.getD source []).length := by
    rw [List.getD_eq_getElem _ _ sourceLt, row]
    exact targetLt
  rw [distance, read_of_lt sourceLt []]
  exact read_of_lt targetIn 0

theorem routeEdge_eq (inside : Inside problem order) {index : ℕ} (indexLt : index < order.length) :
    routeEdge problem order index = some (TspSolver.routeEdge problem order index) := by
  have nextLt : (index + 1) % order.length < order.length := Nat.mod_lt _ (by omega)
  rw [routeEdge, read_of_lt indexLt 0, read_of_lt nextLt 0]
  exact distance_eq square (inside.getD_lt indexLt) (inside.getD_lt nextLt)

theorem routeCost_eq (inside : Inside problem order) :
    routeCost problem order = some (TspSolver.routeCost problem order) := by
  unfold routeCost TspSolver.routeCost
  split
  · rfl
  · apply foldlM_eq_some_of_forall
    intro total index indexMem
    rw [routeEdge_eq square inside (List.mem_range.mp indexMem)]
    rfl

/-! ## Nearest neighbor -/

theorem nearestNeighborNext_eq {visited : List Bool} (flags : visited.length = problem.size)
    {current : ℕ} (currentLt : current < problem.size) :
    nearestNeighborNext problem visited current =
      some (TspSolver.nearestNeighborNext problem visited current) := by
  have scanned : (List.range (toNodeId problem.size)).foldlM
      (nearestNeighborScan problem visited current) (Int64.maxValue, 0) =
      some ((List.range (toNodeId problem.size)).foldl
        (TspSolver.nearestNeighborScan problem visited current) (Int64.maxValue, 0)) := by
    apply foldlM_eq_some_of_forall
    intro best candidate candidateMem
    have candidateLt := (List.mem_range.mp candidateMem).trans_le (toNodeId_le problem.size)
    rw [nearestNeighborScan, TspSolver.nearestNeighborScan, read_of_lt (by omega) false,
      distance_eq square currentLt candidateLt]
    simp only [Option.bind_eq_bind, Option.bind_some]
    split
    · rfl
    · split <;> rfl
  rw [nearestNeighborNext, scanned]
  rfl

theorem nearestNeighborStep_eq {state : NearestNeighborState}
    (flags : state.visited.length = problem.size) (currentLt : state.current < problem.size) :
    nearestNeighborStep problem state = some (TspSolver.nearestNeighborStep problem state) := by
  have nonempty : problem.size ≠ 0 := by omega
  have nextLt := nearestNeighborNext_lt nonempty state.visited state.current
  rw [nearestNeighborStep, nearestNeighborNext_eq square flags currentLt]
  simp only [Option.bind_eq_bind, Option.bind_some, write_of_lt (flags ▸ nextLt)]
  rfl

theorem buildNearestNeighborSeed_eq (nonempty : problem.size ≠ 0) (startNode : ℕ) :
    buildNearestNeighborSeed problem startNode =
      some (TspSolver.buildNearestNeighborSeed problem startNode) := by
  have startLt := normalizeStartNode_lt nonempty startNode
  have started : nearestNeighborStart problem startNode =
      some (TspSolver.nearestNeighborStart problem startNode) := by
    simp only [nearestNeighborStart]
    rw [write_of_lt (by simpa using startLt)]
    rfl
  have flags : (TspSolver.nearestNeighborStart problem startNode).visited.length =
      problem.size := by
    simp [TspSolver.nearestNeighborStart]
  have repeated := repeatM_eq_some
    (fun state : NearestNeighborState =>
      state.visited.length = problem.size ∧ state.current < problem.size)
    (problem.size - 1) ⟨flags, startLt⟩
    (fun state invariant => ⟨by simp [TspSolver.nearestNeighborStep, invariant.1],
      nearestNeighborNext_lt nonempty _ _⟩)
    (fun state invariant => nearestNeighborStep_eq square invariant.1 invariant.2)
  rw [buildNearestNeighborSeed, started]
  simp only [Option.bind_eq_bind, Option.bind_some]
  rw [repeated]
  rfl

/-! ## 2-opt -/

theorem twoOptMove_eq {best : Tour} (inside : Inside problem best.order) {i k : ℕ} (ordered : i < k)
    (kLt : k < best.order.length) :
    twoOptMove problem best i k = some (TspSolver.twoOptMove problem best i k) := by
  have reversed : reverseSegment best.order i k = some (TspSolver.reverseSegment best.order i k) :=
    if_pos ⟨by omega, by omega⟩
  have insideReversed := inside.of_perm (reverseSegment_perm ordered.le best.order)
  rw [twoOptMove, TspSolver.twoOptMove, reversed]
  simp only [Option.bind_eq_bind, Option.bind_some, routeCost_eq square insideReversed]
  split <;> rfl

theorem twoOptPass_eq {best : Tour} (inside : Inside problem best.order) :
    twoOptPass problem best = some (TspSolver.twoOptPass problem best) := by
  apply findSomeM?_eq_some
  intro i iMem
  apply findSomeM?_eq_some
  intro k kMem
  simp only [List.mem_range'_1] at iMem kMem
  exact twoOptMove_eq square inside (by omega) (by omega)

theorem twoOptLoop_eq (best : Tour) (inside : Inside problem best.order) :
    twoOptLoop problem best = some (TspSolver.twoOptLoop problem best) := by
  have passed := twoOptPass_eq square inside
  cases pass : TspSolver.twoOptPass problem best with
  | none =>
      rw [pass] at passed
      rw [twoOptLoop_of_none pass, twoOptLoop]
      split <;> simp_all
  | some better =>
      rcases twoOptPass_eq_some pass with ⟨i, k, _, ordered, _, move⟩
      have insideBetter : Inside problem better.order := by
        rw [(twoOptMove_eq_some move).1]
        exact inside.of_perm (reverseSegment_perm ordered.le best.order)
      have later := twoOptLoop_eq better insideBetter
      rw [pass] at passed
      rw [twoOptLoop_of_some pass, ← later, twoOptLoop]
      split <;> simp_all
termination_by best.slack
decreasing_by exact Tour.slack_lt (TspSolver.twoOptPass_lt pass)

theorem twoOptRefine_eq (inside : Inside problem order) :
    twoOptRefine problem order = some (TspSolver.twoOptRefine problem order) := by
  rw [twoOptRefine, routeCost_eq square inside]
  exact twoOptLoop_eq square _ inside

/-! ## Perturbation and iterated local search -/

omit square in
theorem swapEntries_eq {first second : ℕ} (firstLt : first < order.length)
    (secondLt : second < order.length) :
    swapEntries order first second = some (TspSolver.swapEntries order first second) := by
  rw [swapEntries, read_of_lt firstLt 0, read_of_lt secondLt 0]
  simp only [Option.bind_eq_bind, Option.bind_some, write_of_lt firstLt]
  exact write_of_lt (by simpa using secondLt) _

omit square in
theorem perturbTour_eq (order : List ℕ) (state : UInt64) :
    perturbTour order state = some (TspSolver.perturbTour order state) := by
  by_cases small : order.length ≤ 3
  · rw [perturbTour, TspSolver.perturbTour, dif_pos small, dif_pos small]
  · have proper : 2 ≤ order.length - 1 := by omega
    have firstBounds := drawIndex_bounds proper state
    rcases drawSecond_spec (drawIndex (order.length - 1) state).1 proper
      (drawIndex (order.length - 1) state).2 with ⟨earlier, drawn, _⟩
    have secondBounds := drawIndex_bounds proper earlier
    rw [← drawn] at secondBounds
    rw [perturbTour, TspSolver.perturbTour, dif_neg small, dif_neg small]
    dsimp only
    split
    · rw [swapEntries_eq (by omega) (by omega)]
      rfl
    · rw [swapEntries_eq (by omega) (by omega)]
      rfl

theorem iteratedLocalSearchStep_eq {state : Tour × UInt64} (inside : Inside problem state.1.order) :
    iteratedLocalSearchStep problem state =
      some (TspSolver.iteratedLocalSearchStep problem state) := by
  have insidePerturbed := inside.of_perm (perturbTour_perm state.1.order state.2)
  rw [iteratedLocalSearchStep, TspSolver.iteratedLocalSearchStep, perturbTour_eq]
  simp only [Option.bind_eq_bind, Option.bind_some, twoOptRefine_eq square insidePerturbed]
  split <;> rfl

theorem refinedSeed_eq (nonempty : problem.size ≠ 0) (startNode : ℕ) :
    refinedSeed problem startNode = some
      (TspSolver.twoOptRefine problem (TspSolver.buildNearestNeighborSeed problem startNode)) := by
  have inside : Inside problem (TspSolver.buildNearestNeighborSeed problem startNode) :=
    fun _ nodeMem => lt_of_mem_buildNearestNeighborSeed nonempty nodeMem
  rw [refinedSeed, buildNearestNeighborSeed_eq square nonempty]
  exact twoOptRefine_eq square inside

theorem iteratedLocalSearchBest_eq (nonempty : problem.size ≠ 0) (startNode : ℕ)
    (randomSeed : UInt64) :
    iteratedLocalSearchBest problem startNode randomSeed =
      some (TspSolver.iteratedLocalSearchBest problem startNode randomSeed) := by
  have insideSeed : Inside problem (TspSolver.buildNearestNeighborSeed problem startNode) :=
    fun _ nodeMem => lt_of_mem_buildNearestNeighborSeed nonempty nodeMem
  have inside {tour : Tour}
      (incumbent : Incumbent problem (TspSolver.buildNearestNeighborSeed problem startNode) tour) :
      Inside problem tour.order := insideSeed.of_perm incumbent.rearranges.perm
  have repeated (state : UInt64) := repeatM_eq_some
    (fun state : Tour × UInt64 =>
      Incumbent problem (TspSolver.buildNearestNeighborSeed problem startNode) state.1)
    (max 1 problem.size)
    (show Incumbent problem _ (TspSolver.twoOptRefine problem _, state).1 from
      incumbent_twoOptRefine problem _)
    (fun _ incumbent => incumbent.step)
    (fun _ incumbent => iteratedLocalSearchStep_eq square (inside incumbent))
  rw [iteratedLocalSearchBest, refinedSeed_eq square nonempty]
  simp only [Option.bind_eq_bind, Option.bind_some]
  rw [repeated]
  rfl

/-! ## Cheapest insertion -/

theorem cycleCost_eq {first candidate : ℕ} (firstLt : first < problem.size)
    (candidateLt : candidate < problem.size) :
    cycleCost problem first candidate = some (TspSolver.cycleCost problem first candidate) := by
  rw [cycleCost, distance_eq square firstLt candidateLt, distance_eq square candidateLt firstLt]
  rfl

theorem secondNode_eq_some {visited : List Bool} (flags : visited.length = problem.size)
    {first : ℕ} (firstLt : first < problem.size) :
    secondNode problem visited first = some (TspSolver.secondNode problem visited first) := by
  have scanned : (List.range (toNodeId problem.size)).foldlM
      (secondNodeScan problem visited first) (Int64.maxValue, first) =
      some ((List.range (toNodeId problem.size)).foldl
        (TspSolver.secondNodeScan problem visited first) (Int64.maxValue, first)) := by
    apply foldlM_eq_some_of_forall
    intro best candidate candidateMem
    have candidateLt := (List.mem_range.mp candidateMem).trans_le (toNodeId_le problem.size)
    rw [secondNodeScan, TspSolver.secondNodeScan, read_of_lt (by omega) false,
      cycleCost_eq square firstLt candidateLt]
    simp only [Option.bind_eq_bind, Option.bind_some]
    split
    · rfl
    · split <;> rfl
  rw [secondNode, scanned]
  rfl

theorem insertionDelta_eq (inside : Inside problem order) {candidate position : ℕ}
    (candidateLt : candidate < problem.size) (positionLt : position < order.length) :
    insertionDelta problem order candidate position =
      some (TspSolver.insertionDelta problem order candidate position) := by
  have nextLt : (position + 1) % order.length < order.length := Nat.mod_lt _ (by omega)
  have sourceLt := inside.getD_lt positionLt
  have targetLt := inside.getD_lt nextLt
  rw [insertionDelta, read_of_lt positionLt 0, read_of_lt nextLt 0]
  simp only [Option.bind_eq_bind, Option.bind_some, distance_eq square sourceLt candidateLt,
    distance_eq square candidateLt targetLt, distance_eq square sourceLt targetLt]
  rfl

theorem insertionCandidate_eq {visited : List Bool} (flags : visited.length = problem.size)
    (inside : Inside problem order) (best : Insertion) {candidate : ℕ}
    (candidateLt : candidate < problem.size) :
    insertionCandidate problem visited order best candidate =
      some (TspSolver.insertionCandidate problem visited order best candidate) := by
  rw [insertionCandidate, TspSolver.insertionCandidate, read_of_lt (by omega) false]
  simp only [Option.bind_eq_bind, Option.bind_some]
  split
  · rfl
  · apply foldlM_eq_some_of_forall
    intro state position positionMem
    have positionLt := List.mem_range.mp positionMem
    rw [insertionScan, TspSolver.insertionScan,
      insertionDelta_eq square inside candidateLt positionLt]
    simp only [Option.bind_eq_bind, Option.bind_some]
    split <;> rfl

theorem bestInsertion_eq {visited : List Bool} (flags : visited.length = problem.size)
    (inside : Inside problem order) :
    bestInsertion problem visited order =
      some (TspSolver.bestInsertion problem visited order) := by
  apply foldlM_eq_some_of_forall
  intro best candidate candidateMem
  have candidateLt := (List.mem_range.mp candidateMem).trans_le (toNodeId_le problem.size)
  exact insertionCandidate_eq square flags inside best candidateLt

omit square in
/-- An insertion goes behind a position of the order, or to its front. -/
theorem bestInsertion_position_le (problem : Problem) (visited : List Bool) (order : List ℕ) :
    (TspSolver.bestInsertion problem visited order).bestPosition ≤ order.length := by
  apply foldl_induction (fun best : Insertion => best.bestPosition ≤ order.length) (Nat.zero_le _)
  intro best candidate _ bounded
  unfold TspSolver.insertionCandidate
  split
  · exact bounded
  · apply foldl_induction (fun best : Insertion => best.bestPosition ≤ order.length) bounded
    intro state position positionMem stateBounded
    have positionLt := List.mem_range.mp positionMem
    unfold TspSolver.insertionScan
    dsimp only
    split
    · exact positionLt
    · exact stateBounded

theorem insertionStep_eq {visited : List Bool} (state : InsertionState problem visited order)
    (unfinished : order.length < problem.size) :
    insertionStep problem visited order = some
      (visited.set (TspSolver.bestInsertion problem visited order).bestNode true,
        TspSolver.insertAt order (TspSolver.bestInsertion problem visited order).bestPosition
          (TspSolver.bestInsertion problem visited order).bestNode) := by
  have nonempty : problem.size ≠ 0 := by omega
  have nodeLt := bestInsertion_node_lt nonempty visited order
  have flags := state.marks.length_eq
  rw [insertionStep, bestInsertion_eq square flags state.inRange]
  simp only [Option.bind_eq_bind, Option.bind_some, insertAt,
    if_pos (bestInsertion_position_le problem visited order), write_of_lt (flags ▸ nodeLt)]

theorem insertionLoop_eq {visited : List Bool} {order : List ℕ}
    (state : InsertionState problem visited order) :
    insertionLoop problem visited order =
      some (TspSolver.insertionLoop problem visited order) := by
  by_cases unfinished : order.length < problem.size
  · have step := insertionStep_eq square state unfinished
    rw [insertionLoop_eq_of_lt unfinished, ← insertionLoop_eq (state.step unfinished),
      insertionLoop, if_pos unfinished]
    split
    · next failed => simp [failed] at step
    · next next taken =>
        rw [step] at taken
        cases taken
        rfl
  · rw [insertionLoop_eq_of_le (by omega), insertionLoop, if_neg unfinished]
termination_by problem.size - order.length
decreasing_by
  rw [length_insertAt]
  omega

theorem buildCheapestInsertionSeed_eq (nonempty : problem.size ≠ 0) (startNode : ℕ) :
    buildCheapestInsertionSeed problem startNode =
      some (TspSolver.buildCheapestInsertionSeed problem startNode) := by
  by_cases single : problem.size = 1
  · rw [buildCheapestInsertionSeed, TspSolver.buildCheapestInsertionSeed]
    simp [single]
  · have several : 2 ≤ problem.size := by omega
    have firstLt := normalizeStartNode_lt nonempty startNode
    have marks := marks_start firstLt
    have secondLt := secondNode_lt firstLt marks
    have state := insertionState_second several firstLt marks
    rw [buildCheapestInsertionSeed, buildCheapestInsertionSeed_of_several several rfl rfl,
      if_neg nonempty]
    dsimp only
    rw [if_neg single, write_of_lt (by simpa using firstLt)]
    simp only [Option.bind_eq_bind, Option.bind_some,
      secondNode_eq_some square marks.length_eq firstLt]
    rw [write_of_lt (by simpa using secondLt)]
    exact insertionLoop_eq square state

end Square

/-! ## The solvers -/

theorem guarded_eq {checked : Option Tour} {tour : Tour}
    (inside : problem.isSquare = true → problem.size ≠ 0 → checked = some tour) :
    guarded problem checked = some (TspSolver.guarded problem tour) := by
  unfold guarded TspSolver.guarded
  split
  · rfl
  · next square =>
      split
      · rfl
      · next nonempty =>
          rw [inside (by simpa using square) nonempty]
          rfl

theorem costed_eq (square : problem.isSquare = true) (inside : Inside problem order) :
    costed problem (some order) =
      some { order := order, totalCost := TspSolver.routeCost problem order } := by
  simp only [costed, Option.bind_eq_bind, Option.bind_some, routeCost_eq square inside]

theorem nearestNeighborTour_eq (problem : Problem) (startNode : ℕ) :
    nearestNeighborTour problem startNode =
      some (TspSolver.nearestNeighborTour problem startNode) := by
  apply guarded_eq
  intro square nonempty
  rw [buildNearestNeighborSeed_eq square nonempty]
  exact costed_eq square fun _ nodeMem => lt_of_mem_buildNearestNeighborSeed nonempty nodeMem

theorem cheapestInsertionTour_eq (problem : Problem) (startNode : ℕ) :
    cheapestInsertionTour problem startNode =
      some (TspSolver.cheapestInsertionTour problem startNode) := by
  apply guarded_eq
  intro square nonempty
  rw [buildCheapestInsertionSeed_eq square nonempty]
  exact costed_eq square (buildCheapestInsertionSeed_spec nonempty startNode).2

theorem twoOptLocalSearchSolve_eq (problem : Problem) (startNode : ℕ) :
    twoOptLocalSearchSolve problem startNode =
      some (TspSolver.twoOptLocalSearchSolve problem startNode) := by
  apply guarded_eq
  intro square nonempty
  exact refinedSeed_eq square nonempty startNode

theorem iteratedLocalSearchTour_eq_some (problem : Problem) (startNode : ℕ)
    (randomSeed : UInt64) :
    iteratedLocalSearchTour problem startNode randomSeed =
      some (TspSolver.iteratedLocalSearchTour problem startNode randomSeed) := by
  apply guarded_eq
  intro square nonempty
  exact iteratedLocalSearchBest_eq square nonempty startNode randomSeed

end Checked

end TspSolver
