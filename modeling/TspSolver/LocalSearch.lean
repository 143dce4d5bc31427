import TspSolver.Core
import TspSolver.SplitMix

/-!
# Local search algorithms

The constructions and refinements of the native local-search module. A counted
`for` loop is a fold over its range, or an iterate when its body ignores the
counter; a `while` loop is a recursion with its own termination argument.
-/

namespace TspSolver

/-! ## Nearest neighbor -/

/-- One candidate of the scan for the next node, with `(best_cost, next)` as its state. -/
def nearestNeighborScan (problem : Problem) (visited : List Bool) (current : ℕ)
    (best : Cost × ℕ) (candidate : ℕ) : Cost × ℕ :=
  if visited.getD candidate false then best
  else
    let edgeCost := problem.distance current candidate
    if edgeCost < best.1 ∨ edgeCost = best.1 ∧ candidate < best.2 then (edgeCost, candidate)
    else best

/-- The node that one outer turn appends: the scan starts from the largest cost and node 0. -/
def nearestNeighborNext (problem : Problem) (visited : List Bool) (current : ℕ) : ℕ :=
  ((List.range (toNodeId problem.size)).foldl (nearestNeighborScan problem visited current)
    (Int64.maxValue, 0)).2

/-- What the outer loop carries from turn to turn. -/
structure NearestNeighborState where
  order : List ℕ
  visited : List Bool
  current : ℕ

/-- One outer turn: the next node is appended and marked. -/
def nearestNeighborStep (problem : Problem) (state : NearestNeighborState) :
    NearestNeighborState :=
  let next := nearestNeighborNext problem state.visited state.current
  { order := state.order ++ [next]
    visited := state.visited.set next true
    current := next }

/-- The state before the first turn, with the start node placed. -/
def nearestNeighborStart (problem : Problem) (startNode : ℕ) : NearestNeighborState :=
  let current := normalizeStartNode problem startNode
  { order := [current]
    visited := (List.replicate problem.size false).set current true
    current := current }

/-- `build_nearest_neighbor_seed`. -/
def buildNearestNeighborSeed (problem : Problem) (startNode : ℕ) : List ℕ :=
  ((nearestNeighborStep problem)^[problem.size - 1]
    (nearestNeighborStart problem startNode)).order

/-! ## Perturbation -/

/-- `std::swap(order[first], order[second])`. -/
def swapEntries (order : List ℕ) (first second : ℕ) : List ℕ :=
  (order.set first (order.getD second 0)).set second (order.getD first 0)

/-- `perturb_tour`: two positions behind the first one change places. -/
def perturbTour (order : List ℕ) (state : UInt64) : List ℕ × UInt64 :=
  if small : order.length ≤ 3 then (order, state)
  else
    let range := order.length - 1
    let first := drawIndex range state
    let second := drawSecond range first.1 (show 2 ≤ order.length - 1 by omega) first.2
    if first.1 > second.1 then (swapEntries order second.1 first.1, second.2)
    else (swapEntries order first.1 second.1, second.2)

/-! ## 2-opt -/

/-- `std::reverse` on the positions `first..last`, both included. -/
def reverseSegment (order : List ℕ) (first last : ℕ) : List ℕ :=
  order.take first ++ ((order.drop first).take (last + 1 - first)).reverse ++
    order.drop (last + 1)

/-- The candidate of the positions `i` and `k`, when it improves on the incumbent. -/
def twoOptMove (problem : Problem) (best : Tour) (i k : ℕ) : Option Tour :=
  let candidate := reverseSegment best.order i k
  let candidateCost := routeCost problem candidate
  if candidateCost < best.totalCost then some { order := candidate, totalCost := candidateCost }
  else none

/-- The double scan over `1 ≤ i`, `i + 1 < n` and `i < k < n`: both loops break on a first hit. -/
def twoOptPass (problem : Problem) (best : Tour) : Option Tour :=
  (List.range' 1 (best.order.length - 2)).findSome? fun i =>
    (List.range' (i + 1) (best.order.length - (i + 1))).findSome? fun k =>
      twoOptMove problem best i k

theorem twoOptMove_lt {problem : Problem} {best better : Tour} {i k : ℕ}
    (move : twoOptMove problem best i k = some better) : better.totalCost < best.totalCost := by
  simp only [twoOptMove] at move
  split at move
  · next smaller =>
      cases move
      exact smaller
  · exact absurd move (by simp)

theorem twoOptPass_eq_some {problem : Problem} {best better : Tour}
    (pass : twoOptPass problem best = some better) :
    ∃ i k, 1 ≤ i ∧ i < k ∧ k < best.order.length ∧
      twoOptMove problem best i k = some better := by
  rcases List.exists_of_findSome?_eq_some pass with ⟨i, iMem, inner⟩
  rcases List.exists_of_findSome?_eq_some inner with ⟨k, kMem, move⟩
  simp only [List.mem_range'_1] at iMem kMem
  exact ⟨i, k, by omega, by omega, by omega, move⟩

theorem twoOptPass_lt {problem : Problem} {best better : Tour}
    (improved : twoOptPass problem best = some better) : better.totalCost < best.totalCost := by
  rcases twoOptPass_eq_some improved with ⟨_, _, _, _, _, move⟩
  exact twoOptMove_lt move

/-- The distance of the cached cost from the least 64-bit value. -/
def Tour.slack (tour : Tour) : ℕ := (tour.totalCost.toInt + 2 ^ 63).toNat

theorem Tour.slack_lt {better best : Tour} (lower : better.totalCost < best.totalCost) :
    better.slack < best.slack := by
  have integers := Int64.lt_iff_toInt_lt.mp lower
  have least := Int64.le_toInt better.totalCost
  simp only [slack]
  omega

/-- `while (improved)`: every turn that repeats has lowered the 64-bit cost. -/
def twoOptLoop (problem : Problem) (best : Tour) : Tour :=
  match _improved : twoOptPass problem best with
  | none => best
  | some better => twoOptLoop problem better
termination_by best.slack
decreasing_by exact Tour.slack_lt (twoOptPass_lt _improved)

/-- `two_opt_refine`. -/
def twoOptRefine (problem : Problem) (order : List ℕ) : Tour :=
  twoOptLoop problem { order := order, totalCost := routeCost problem order }

/-! ## Cheapest insertion -/

/-- The two-edge cycle through the first node and a candidate. -/
def cycleCost (problem : Problem) (first candidate : ℕ) : Cost :=
  problem.distance first candidate + problem.distance candidate first

/-- One candidate of the scan for the second node, with `(best_cost, second)` as its state. -/
def secondNodeScan (problem : Problem) (visited : List Bool) (first : ℕ)
    (best : Cost × ℕ) (candidate : ℕ) : Cost × ℕ :=
  if visited.getD candidate false then best
  else
    let cycle := cycleCost problem first candidate
    if cycle < best.1 ∨ cycle = best.1 ∧ candidate < best.2 then (cycle, candidate) else best

/-- The second node of the seed: the scan starts from the largest cost and the first node. -/
def secondNode (problem : Problem) (visited : List Bool) (first : ℕ) : ℕ :=
  ((List.range (toNodeId problem.size)).foldl (secondNodeScan problem visited first)
    (Int64.maxValue, first)).2

/-- The cost that inserting a candidate behind a position adds. -/
def insertionDelta (problem : Problem) (order : List ℕ) (candidate : ℕ)
    (position : ℕ) : Cost :=
  let source := order.getD position 0
  let target := order.getD ((position + 1) % order.length) 0
  problem.distance source candidate + problem.distance candidate target -
    problem.distance source target

/-- The best insertion found so far in one turn. -/
structure Insertion where
  bestNode : ℕ := 0
  bestPosition : ℕ := 0
  bestDelta : Cost := Int64.maxValue
  found : Bool := false
deriving DecidableEq, Repr

/-- One position of one candidate: ties go to the smaller node, then to the smaller position. -/
def insertionScan (problem : Problem) (order : List ℕ) (candidate : ℕ)
    (best : Insertion) (position : ℕ) : Insertion :=
  let delta := insertionDelta problem order candidate position
  if !best.found ∨ delta < best.bestDelta ∨
      (delta = best.bestDelta ∧ candidate < best.bestNode) ∨
      (delta = best.bestDelta ∧ candidate = best.bestNode ∧ position < best.bestPosition) then
    { bestNode := candidate, bestPosition := position + 1, bestDelta := delta, found := true }
  else best

/-- All positions of one candidate, unless it is already placed. -/
def insertionCandidate (problem : Problem) (visited : List Bool) (order : List ℕ)
    (best : Insertion) (candidate : ℕ) : Insertion :=
  if visited.getD candidate false then best
  else (List.range order.length).foldl (insertionScan problem order candidate) best

/-- The scan of one turn over all candidates and positions. -/
def bestInsertion (problem : Problem) (visited : List Bool) (order : List ℕ) : Insertion :=
  (List.range (toNodeId problem.size)).foldl (insertionCandidate problem visited order) {}

/-- `order.insert(order.begin() + position, node)`. -/
def insertAt (order : List ℕ) (position : ℕ) (node : ℕ) : List ℕ :=
  order.take position ++ node :: order.drop position

@[simp]
theorem length_insertAt (order : List ℕ) (position : ℕ) (node : ℕ) :
    (insertAt order position node).length = order.length + 1 := by
  simp [insertAt]
  omega

/-- `while (order.size() < node_count)`. -/
def insertionLoop (problem : Problem) (visited : List Bool) (order : List ℕ) :
    List ℕ :=
  if order.length < problem.size then
    let best := bestInsertion problem visited order
    insertionLoop problem (visited.set best.bestNode true)
      (insertAt order best.bestPosition best.bestNode)
  else order
termination_by problem.size - order.length
decreasing_by
  simp only [length_insertAt]
  omega

/-- `build_cheapest_insertion_seed`. -/
def buildCheapestInsertionSeed (problem : Problem) (startNode : ℕ) : List ℕ :=
  if problem.size = 0 then []
  else
    let first := normalizeStartNode problem startNode
    if problem.size = 1 then [first]
    else
      let visited := (List.replicate problem.size false).set first true
      let second := secondNode problem visited first
      insertionLoop problem (visited.set second true) [first, second]

/-! ## Solvers -/

/-- The guard all solvers share: only square matrices, and an empty tour for no nodes. -/
def guarded (problem : Problem) (tour : Tour) : Except Exception Tour :=
  if !problem.isSquare then
    .error (.invalidArgument "problem distance matrix must be square")
  else if problem.size = 0 then .ok {}
  else .ok tour

theorem guarded_of_nonempty {problem : Problem} (square : problem.isSquare = true)
    (nonempty : problem.size ≠ 0) (tour : Tour) : guarded problem tour = .ok tour := by
  simp [guarded, square, nonempty]

/-- `nearest_neighbor_tour`. -/
def nearestNeighborTour (problem : Problem) (startNode : ℕ) : Except Exception Tour :=
  let order := buildNearestNeighborSeed problem startNode
  guarded problem { order := order, totalCost := routeCost problem order }

/-- `cheapest_insertion_tour`. -/
def cheapestInsertionTour (problem : Problem) (startNode : ℕ) : Except Exception Tour :=
  let order := buildCheapestInsertionSeed problem startNode
  guarded problem { order := order, totalCost := routeCost problem order }

/-- `TwoOptLocalSearch(startNode).solve(problem)`. -/
def twoOptLocalSearchSolve (problem : Problem) (startNode : ℕ) : Except Exception Tour :=
  guarded problem (twoOptRefine problem (buildNearestNeighborSeed problem startNode))

/-- One perturbation round: the incumbent only gives way to a cheaper tour. -/
def iteratedLocalSearchStep (problem : Problem) (state : Tour × UInt64) : Tour × UInt64 :=
  let perturbed := perturbTour state.1.order state.2
  let candidate := twoOptRefine problem perturbed.1
  if candidate.totalCost < state.1.totalCost then (candidate, perturbed.2)
  else (state.1, perturbed.2)

/-- `iterated_local_search_tour`: one round for every node, at least one. -/
def iteratedLocalSearchTour (problem : Problem) (startNode : ℕ) (randomSeed : UInt64) :
    Except Exception Tour :=
  let best := twoOptRefine problem (buildNearestNeighborSeed problem startNode)
  let state := randomSeed ^^^
    (UInt64.ofNat (normalizeStartNode problem startNode) <<< 1) ^^^ kPerturbationMix
  let iterations := max 1 problem.size
  guarded problem ((iteratedLocalSearchStep problem)^[iterations] (best, state)).1

end TspSolver
