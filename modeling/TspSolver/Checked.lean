import TspSolver.CApi
import TspSolver.Loop.Checked

/-!
# The library with every access checked

The store and the solvers once more, with each subscript, iterator and shift
tested before it is used. In the source an access outside its vector and a shift
by the width of the word have no defined meaning; here they yield nothing, and
so does a backtracking loop that does not break. The definitions follow the
plain ones access by access.
-/

namespace TspSolver

namespace Checked

open Loop

/-- `problem.distances[source][target]`. -/
def distance (problem : Problem) (source target : ℕ) : Option Cost := do
  let row ← problem.distances[source]?
  row[target]?

/-! ## Route costs -/

/-- Both positions of the edge are tested, and the entry of the matrix with them. -/
def routeEdge (problem : Problem) (order : List ℕ) (index : ℕ) : Option Cost := do
  let source ← order[index]?
  let target ← order[(index + 1) % order.length]?
  distance problem source target

/-- `route_cost` over checked edges. -/
def routeCost (problem : Problem) (order : List ℕ) : Option Cost :=
  if order.isEmpty then some 0
  else
    (List.range order.length).foldlM (fun total index => do
      let edge ← routeEdge problem order index
      some (total + edge)) 0

/-! ## Nearest neighbor -/

/-- The flag of the candidate is read before its distance. -/
def nearestNeighborScan (problem : Problem) (visited : List Bool) (current : ℕ)
    (best : Cost × ℕ) (candidate : ℕ) : Option (Cost × ℕ) := do
  let placed ← visited[candidate]?
  if placed then some best
  else
    let edgeCost ← distance problem current candidate
    if edgeCost < best.1 ∨ edgeCost = best.1 ∧ candidate < best.2 then some (edgeCost, candidate)
    else some best

/-- The scan of one outer turn, undefined as soon as one candidate is. -/
def nearestNeighborNext (problem : Problem) (visited : List Bool) (current : ℕ) : Option ℕ := do
  let best ← (List.range (toNodeId problem.size)).foldlM
    (nearestNeighborScan problem visited current) (Int64.maxValue, 0)
  some best.2

/-- The flag of the appended node is written within the vector. -/
def nearestNeighborStep (problem : Problem) (state : NearestNeighborState) :
    Option NearestNeighborState := do
  let next ← nearestNeighborNext problem state.visited state.current
  let visited ← write state.visited next true
  some { order := state.order ++ [next], visited := visited, current := next }

/-- The start node marked as visited. -/
def nearestNeighborStart (problem : Problem) (startNode : ℕ) : Option NearestNeighborState := do
  let current := normalizeStartNode problem startNode
  let visited ← write (List.replicate problem.size false) current true
  some { order := [current], visited := visited, current := current }

/-- `build_nearest_neighbor_seed` with its checked turns. -/
def buildNearestNeighborSeed (problem : Problem) (startNode : ℕ) : Option (List ℕ) := do
  let start ← nearestNeighborStart problem startNode
  let final ← repeatM (nearestNeighborStep problem) (problem.size - 1) start
  some final.order

/-! ## Perturbation -/

/-- `std::swap` of two positions that both exist. -/
def swapEntries (order : List ℕ) (first second : ℕ) : Option (List ℕ) := do
  let front ← order[first]?
  let back ← order[second]?
  let replaced ← write order first back
  write replaced second front

/-- More than three positions leave a proper range behind the first one. -/
theorem two_le_range {order : List ℕ} (large : ¬order.length ≤ 3) : 2 ≤ order.length - 1 := by
  omega

/-- `perturb_tour` with a checked exchange; the draws access no vector. -/
def perturbTour (order : List ℕ) (state : UInt64) : Option (List ℕ × UInt64) :=
  if small : order.length ≤ 3 then some (order, state)
  else
    let range := order.length - 1
    let first := drawIndex range state
    let second := drawSecond range first.1 (two_le_range small) first.2
    let swapped :=
      if first.1 > second.1 then swapEntries order second.1 first.1
      else swapEntries order first.1 second.1
    swapped.map fun order => (order, second.2)

/-! ## 2-opt -/

/-- Both iterators of the reversal lie in the order, the first not behind the second. -/
def reverseSegment (order : List ℕ) (first last : ℕ) : Option (List ℕ) :=
  if first ≤ last + 1 ∧ last + 1 ≤ order.length then
    some (TspSolver.reverseSegment order first last)
  else none

/-- The outer option is for undefined behavior, the inner one for a move that does not improve. -/
def twoOptMove (problem : Problem) (best : Tour) (i k : ℕ) : Option (Option Tour) := do
  let candidate ← reverseSegment best.order i k
  let candidateCost ← routeCost problem candidate
  if candidateCost < best.totalCost then
    some (some { order := candidate, totalCost := candidateCost })
  else some none

/-- The double scan over checked moves, up to the first hit. -/
def twoOptPass (problem : Problem) (best : Tour) : Option (Option Tour) :=
  (List.range' 1 (best.order.length - 2)).findSomeM? fun i =>
    (List.range' (i + 1) (best.order.length - (i + 1))).findSomeM? fun k =>
      twoOptMove problem best i k

theorem twoOptMove_lt {problem : Problem} {best better : Tour} {i k : ℕ}
    (move : twoOptMove problem best i k = some (some better)) :
    better.totalCost < best.totalCost := by
  simp only [twoOptMove, Option.bind_eq_bind, Option.bind_eq_some_iff] at move
  rcases move with ⟨candidate, _, cost, _, outcome⟩
  split at outcome
  · next smaller =>
      cases outcome
      exact smaller
  · cases outcome

theorem twoOptPass_lt {problem : Problem} {best better : Tour}
    (improved : twoOptPass problem best = some (some better)) :
    better.totalCost < best.totalCost := by
  rcases exists_of_findSomeM?_eq_some improved with ⟨_, _, inner⟩
  rcases exists_of_findSomeM?_eq_some inner with ⟨_, _, move⟩
  exact twoOptMove_lt move

/-- `while (improved)` over checked passes. -/
def twoOptLoop (problem : Problem) (best : Tour) : Option Tour :=
  match _improved : twoOptPass problem best with
  | none => none
  | some none => some best
  | some (some better) => twoOptLoop problem better
termination_by best.slack
decreasing_by exact Tour.slack_lt (twoOptPass_lt _improved)

/-- `two_opt_refine` on checked route costs. -/
def twoOptRefine (problem : Problem) (order : List ℕ) : Option Tour := do
  let cost ← routeCost problem order
  twoOptLoop problem { order := order, totalCost := cost }

/-! ## Cheapest insertion -/

/-- The way to a candidate and back. -/
def cycleCost (problem : Problem) (first candidate : ℕ) : Option Cost := do
  let there ← distance problem first candidate
  let back ← distance problem candidate first
  some (there + back)

/-- The flag of the candidate is read before its two distances. -/
def secondNodeScan (problem : Problem) (visited : List Bool) (first : ℕ)
    (best : Cost × ℕ) (candidate : ℕ) : Option (Cost × ℕ) := do
  let placed ← visited[candidate]?
  if placed then some best
  else
    let cycle ← cycleCost problem first candidate
    if cycle < best.1 ∨ cycle = best.1 ∧ candidate < best.2 then some (cycle, candidate)
    else some best

/-- The scan for the second node of the seed. -/
def secondNode (problem : Problem) (visited : List Bool) (first : ℕ) : Option ℕ := do
  let best ← (List.range (toNodeId problem.size)).foldlM
    (secondNodeScan problem visited first) (Int64.maxValue, first)
  some best.2

/-- Both neighbors of the position and the three distances of the exchange. -/
def insertionDelta (problem : Problem) (order : List ℕ) (candidate position : ℕ) :
    Option Cost := do
  let source ← order[position]?
  let target ← order[(position + 1) % order.length]?
  let there ← distance problem source candidate
  let back ← distance problem candidate target
  let cut ← distance problem source target
  some (there + back - cut)

/-- One position of one candidate, with its delta checked. -/
def insertionScan (problem : Problem) (order : List ℕ) (candidate : ℕ)
    (best : Insertion) (position : ℕ) : Option Insertion := do
  let delta ← insertionDelta problem order candidate position
  if !best.found ∨ delta < best.bestDelta ∨
      (delta = best.bestDelta ∧ candidate < best.bestNode) ∨
      (delta = best.bestDelta ∧ candidate = best.bestNode ∧ position < best.bestPosition) then
    some { bestNode := candidate, bestPosition := position + 1, bestDelta := delta, found := true }
  else some best

/-- All positions of one candidate, once its flag is read. -/
def insertionCandidate (problem : Problem) (visited : List Bool) (order : List ℕ)
    (best : Insertion) (candidate : ℕ) : Option Insertion := do
  let placed ← visited[candidate]?
  if placed then some best
  else (List.range order.length).foldlM (insertionScan problem order candidate) best

/-- The cheapest insertion of one turn. -/
def bestInsertion (problem : Problem) (visited : List Bool) (order : List ℕ) : Option Insertion :=
  (List.range (toNodeId problem.size)).foldlM (insertionCandidate problem visited order) {}

/-- The position of an insertion lies in the order or at its end. -/
def insertAt (order : List ℕ) (position node : ℕ) : Option (List ℕ) :=
  if position ≤ order.length then some (TspSolver.insertAt order position node) else none

/-- One turn of the insertion loop, on its flags and its order. -/
def insertionStep (problem : Problem) (visited : List Bool) (order : List ℕ) :
    Option (List Bool × List ℕ) := do
  let best ← bestInsertion problem visited order
  let longer ← insertAt order best.bestPosition best.bestNode
  let marked ← write visited best.bestNode true
  some (marked, longer)

theorem length_of_insertionStep {problem : Problem} {visited : List Bool} {order : List ℕ}
    {next : List Bool × List ℕ} (step : insertionStep problem visited order = some next) :
    next.2.length = order.length + 1 := by
  simp only [insertionStep, insertAt, Option.bind_eq_bind, Option.bind_eq_some_iff] at step
  rcases step with ⟨best, _, longer, inserted, marked, _, returned⟩
  cases returned
  split at inserted
  · cases inserted
    exact length_insertAt _ _ _
  · cases inserted

/-- `while (order.size() < node_count)` over checked turns. -/
def insertionLoop (problem : Problem) (visited : List Bool) (order : List ℕ) :
    Option (List ℕ) :=
  if order.length < problem.size then
    match _step : insertionStep problem visited order with
    | none => none
    | some next => insertionLoop problem next.1 next.2
  else some order
termination_by problem.size - order.length
decreasing_by
  have longer := length_of_insertionStep _step
  omega

/-- `build_cheapest_insertion_seed` with its two flags written within the vector. -/
def buildCheapestInsertionSeed (problem : Problem) (startNode : ℕ) : Option (List ℕ) :=
  if problem.size = 0 then some []
  else
    let first := normalizeStartNode problem startNode
    if problem.size = 1 then some [first]
    else do
      let visited ← write (List.replicate problem.size false) first true
      let second ← secondNode problem visited first
      let marked ← write visited second true
      insertionLoop problem marked [first, second]

/-! ## Local search solvers -/

/-- The guard that all solvers share; nothing is accessed before it. -/
def guarded (problem : Problem) (tour : Option Tour) : Option (Except Exception Tour) :=
  if !problem.isSquare then
    some (.error (.invalidArgument "problem distance matrix must be square"))
  else if problem.size = 0 then some (.ok {})
  else tour.map .ok

/-- An order with its cost. -/
def costed (problem : Problem) (built : Option (List ℕ)) : Option Tour := do
  let order ← built
  let cost ← routeCost problem order
  some { order := order, totalCost := cost }

/-- `nearest_neighbor_tour`. -/
def nearestNeighborTour (problem : Problem) (startNode : ℕ) : Option (Except Exception Tour) :=
  guarded problem (costed problem (buildNearestNeighborSeed problem startNode))

/-- `cheapest_insertion_tour`. -/
def cheapestInsertionTour (problem : Problem) (startNode : ℕ) :
    Option (Except Exception Tour) :=
  guarded problem (costed problem (buildCheapestInsertionSeed problem startNode))

/-- The nearest-neighbor seed, refined. -/
def refinedSeed (problem : Problem) (startNode : ℕ) : Option Tour := do
  let seed ← buildNearestNeighborSeed problem startNode
  twoOptRefine problem seed

/-- `TwoOptLocalSearch(startNode).solve(problem)`. -/
def twoOptLocalSearchSolve (problem : Problem) (startNode : ℕ) : Option (Except Exception Tour) :=
  guarded problem (refinedSeed problem startNode)

/-- One perturbation round. -/
def iteratedLocalSearchStep (problem : Problem) (state : Tour × UInt64) :
    Option (Tour × UInt64) := do
  let perturbed ← perturbTour state.1.order state.2
  let candidate ← twoOptRefine problem perturbed.1
  if candidate.totalCost < state.1.totalCost then some (candidate, perturbed.2)
  else some (state.1, perturbed.2)

/-- The incumbent after all rounds. -/
def iteratedLocalSearchBest (problem : Problem) (startNode : ℕ) (randomSeed : UInt64) :
    Option Tour := do
  let best ← refinedSeed problem startNode
  let state := randomSeed ^^^
    (UInt64.ofNat (normalizeStartNode problem startNode) <<< 1) ^^^ kPerturbationMix
  let final ← repeatM (iteratedLocalSearchStep problem) (max 1 problem.size) (best, state)
  some final.1

/-- `iterated_local_search_tour`. -/
def iteratedLocalSearchTour (problem : Problem) (startNode : ℕ) (randomSeed : UInt64) :
    Option (Except Exception Tour) :=
  guarded problem (iteratedLocalSearchBest problem startNode randomSeed)

/-! ## Held-Karp -/

/-- `std::size_t{1} << position`. -/
def bit (position : ℕ) : Option ℕ :=
  if position < 64 then some (1 <<< position) else none

/-- `dp[index(mask, last)]`. -/
def cost (tables : HeldKarpTables) (width mask last : ℕ) : Option Cost :=
  tables.dp[HeldKarpTables.index width mask last]?

/-- `parent[index(mask, last)]`. -/
def parentOf (tables : HeldKarpTables) (width mask last : ℕ) : Option ℕ :=
  tables.parent[HeldKarpTables.index width mask last]?

/-- A write to `dp` within the table. -/
def setCost (tables : HeldKarpTables) (width mask last : ℕ) (value : Cost) :
    Option HeldKarpTables :=
  if HeldKarpTables.index width mask last < tables.dp.size then
    some (tables.setCost width mask last value)
  else none

/-- A write to `parent` within the table. -/
def setParent (tables : HeldKarpTables) (width mask last value : ℕ) : Option HeldKarpTables :=
  if HeldKarpTables.index width mask last < tables.parent.size then
    some (tables.setParent width mask last value)
  else none

/-- One predecessor of a cell, with its shift, its entry and its edge checked. -/
def heldKarpScan (problem : Problem) (nodes : List ℕ) (tables : HeldKarpTables)
    (previousMask last : ℕ) (best : Cost × ℕ) (previous : ℕ) : Option (Cost × ℕ) := do
  let previousBit ← bit previous
  if previousMask &&& previousBit = 0 then some best
  else
    let previousCost ← cost tables nodes.length previousMask previous
    if previousCost = kInf then some best
    else
      let previousNode ← nodes[previous]?
      let lastNode ← nodes[last]?
      let edge ← distance problem previousNode lastNode
      if previousCost + edge < best.1 ∨
          previousCost + edge = best.1 ∧ previousNode < best.2 then
        some (previousCost + edge, previousNode)
      else some best

/-- The cell of one mask and one last position. -/
def heldKarpCell (problem : Problem) (nodes : List ℕ) (mask : ℕ) (tables : HeldKarpTables)
    (last : ℕ) : Option HeldKarpTables := do
  let lastBit ← bit last
  if mask &&& lastBit = 0 then some tables
  else if mask ^^^ lastBit = 0 then some tables
  else
    let bestCost ← cost tables nodes.length mask last
    let bestParent ← parentOf tables nodes.length mask last
    let best ← (List.range nodes.length).foldlM
      (heldKarpScan problem nodes tables (mask ^^^ lastBit) last) (bestCost, bestParent)
    let costed ← setCost tables nodes.length mask last best.1
    setParent costed nodes.length mask last best.2

/-- All last positions of one mask. -/
def heldKarpRow (problem : Problem) (nodes : List ℕ) (tables : HeldKarpTables) (mask : ℕ) :
    Option HeldKarpTables :=
  (List.range nodes.length).foldlM (heldKarpCell problem nodes mask) tables

/-- The first edge to one position, written to the cell of its singleton mask. -/
def heldKarpSingleton (problem : Problem) (start : ℕ) (nodes : List ℕ)
    (tables : HeldKarpTables) (last : ℕ) : Option HeldKarpTables := do
  let mask ← bit last
  let node ← nodes[last]?
  let edge ← distance problem start node
  setCost tables nodes.length mask last edge

/-- The filled tables; the shift by the node count is checked first. -/
def heldKarpTables (problem : Problem) (start : ℕ) (nodes : List ℕ) : Option HeldKarpTables := do
  let subsetCount ← bit nodes.length
  let singletons ← (List.range nodes.length).foldlM (heldKarpSingleton problem start nodes)
    (HeldKarpTables.fresh (subsetCount * nodes.length))
  (List.range' 1 (subsetCount - 1)).foldlM (heldKarpRow problem nodes) singletons

/-- One last node of the closing scan. -/
def heldKarpClosing (problem : Problem) (start : ℕ) (nodes : List ℕ) (tables : HeldKarpTables)
    (fullMask : ℕ) (best : Cost × ℕ) (last : ℕ) : Option (Cost × ℕ) := do
  let pathCost ← cost tables nodes.length fullMask last
  if pathCost = kInf then some best
  else
    let node ← nodes[last]?
    let edge ← distance problem node start
    if pathCost + edge < best.1 ∨ pathCost + edge = best.1 ∧ last < best.2 then
      some (pathCost + edge, last)
    else some best

/-- The backtracking loop; turns that run out before the mask are undefined. -/
def heldKarpBacktrack (start width : ℕ) (tables : HeldKarpTables) :
    ℕ → ℕ → ℕ → List ℕ → Option (List ℕ)
  | 0, _, _, _ => none
  | turns + 1, mask, last, reversedOrder => do
      let lastBit ← bit last
      if mask ^^^ lastBit = 0 then some reversedOrder
      else
        let previous ← parentOf tables width mask last
        heldKarpBacktrack start width tables turns (mask ^^^ lastBit)
          (heldKarpPosition start previous) (reversedOrder ++ [previous])

/-- The search for two nodes and more. -/
def heldKarpSearch (problem : Problem) (start : ℕ) : Option (Except Exception Tour) := do
  let nodes := heldKarpNodes problem start
  let tables ← heldKarpTables problem start nodes
  let subsetCount ← bit nodes.length
  let best ← (List.range nodes.length).foldlM
    (heldKarpClosing problem start nodes tables (subsetCount - 1)) (kInf, 0)
  if best.1 = kInf then
    some (.error (.outOfRange "held-karp solver could not construct a tour"))
  else
    let lastNode ← nodes[best.2]?
    let reversedOrder ← heldKarpBacktrack start nodes.length tables nodes.length
      (subsetCount - 1) best.2 [lastNode]
    some (.ok { order := start :: reversedOrder.reverse, totalCost := best.1 })

/-- `held_karp_tour`. -/
def heldKarpTour (problem : Problem) (startNode : ℕ) : Option (Except Exception Tour) :=
  if !problem.isSquare then
    some (.error (.invalidArgument "problem distance matrix must be square"))
  else if problem.size = 0 then some (.ok {})
  else if problem.size > kHeldKarpCutoff then
    some (.error (.outOfRange "problem size exceeds held-karp cutoff of 18 nodes"))
  else
    let start := normalizeStartNode problem startNode
    if problem.size = 1 then do
      let cost ← distance problem start start
      some (.ok { order := [start], totalCost := cost })
    else heldKarpSearch problem start

/-! ## The store -/

/-- `model.distances[source][target]`. -/
def entry (model : Model) (source target : ℕ) : Option (Option Cost) := do
  let row ← model.distances[source]?
  row[target]?

/-- The completeness scan of the C interface. -/
def isComplete (model : Model) : Option Bool :=
  if !model.isSquare then some false
  else
    (List.range model.size).allM fun source =>
      (List.range model.size).allM fun target => do
        let cell ← entry model source target
        some cell.isSome

/-- The matrix that is handed to a solver, every entry read within its row. -/
def toProblem (model : Model) : Option Problem := do
  let rows ← (List.range model.size).mapM fun source =>
    (List.range model.size).mapM fun target => do
      let cell ← entry model source target
      some (cell.getD 0)
  some { distances := rows }

/-- `distances[source][target] = value`. -/
def writeCell (rows : List (List (Option Cost))) (source target : ℕ) (value : Option Cost) :
    Option (List (List (Option Cost))) := do
  let row ← rows[source]?
  let written ← write row target value
  write rows source written

/-- `tsp_solver_model_add_node`, with the write of the new diagonal entry checked. -/
def addNode (failure : Option ℕ) (model : Model) : Option (ErrorCode × Model × Option ℕ) :=
  if model.size > 2 ^ 32 - 1 then some (.outOfRange, model, none)
  else
    let nodeId := model.size
    let pushed := Model.pushBackRows failure 0 model.distances
    if !pushed.2 ∨ failure = some nodeId ∨ failure = some (nodeId + 1) then
      some (.allocationFailed, { distances := pushed.1 }, none)
    else do
      let rows ← writeCell (pushed.1 ++ [List.replicate (nodeId + 1) none]) nodeId nodeId (some 0)
      some (.ok, { distances := rows }, some (toNodeId nodeId))

/-- `tsp_solver_model_set_distance`, which tests its nodes against the number of rows. -/
def setDistance (model : Model) (source target : ℕ) (distance : Cost) :
    Option (ErrorCode × Model) :=
  if source ≥ model.size ∨ target ≥ model.size then some (.outOfRange, model)
  else do
    let rows ← writeCell model.distances source target
      (some (if source = target then 0 else distance))
    some (.ok, { distances := rows })

/-- `tsp_solver_model_validate`. -/
def validate (model : Model) : Option ErrorCode := do
  let complete ← isComplete model
  some (if !complete then .invalidModel else .ok)

/-- The algorithm switch over the checked solvers. -/
def dispatch (problem : Problem) (startNode : ℕ) (randomSeed : UInt64) :
    Algorithm → Option (Option (Except Exception Tour))
  | .localSearch2Opt => (twoOptLocalSearchSolve problem startNode).map some
  | .greedyNearestNeighbor => (nearestNeighborTour problem startNode).map some
  | .greedyCheapestInsertion => (cheapestInsertionTour problem startNode).map some
  | .heldKarp => (heldKarpTour problem startNode).map some
  | .metaheuristicIteratedLocalSearch =>
      (iteratedLocalSearchTour problem startNode randomSeed).map some
  | .default => some none
  | .unlisted _ => some (some (.ok {}))

/-- `tsp_solver_solve` with checked accesses throughout. -/
def solve (model : Model) (options : Options) : Option (ErrorCode × Option Result) := do
  let complete ← isComplete model
  if !complete then some (.invalidModel, none)
  else if !isValidAlgorithm options.algorithm then some (.invalidArgument, none)
  else if options.timeLimitMs = 0 then
    some (.ok, some { status := .timeLimit, algorithm := resolveAlgorithm options.algorithm })
  else
    let problem ← toProblem model
    let outcome ← dispatch problem (model.seedStartNode options.randomSeed) options.randomSeed
      (resolveAlgorithm options.algorithm)
    match outcome with
    | none => some (.invalidArgument, none)
    | some (.error (.outOfRange _)) => some (.outOfRange, none)
    | some (.error (.invalidArgument _)) => some (.internalError, none)
    | some (.ok tour) =>
        some (.ok, some
          { status := if resolveAlgorithm options.algorithm = .heldKarp then .optimal
              else .feasible
            algorithm := resolveAlgorithm options.algorithm
            objective := tour.totalCost
            tour := tour.order })

/-! ## Histories -/

/-- One call, with what it tells its caller and the model it leaves. -/
def step (model : Model) : Call → Option (Response × Model)
  | .addNode failure => do
      let answer ← addNode failure model
      some ({ code := answer.1, nodeId := answer.2.2 }, answer.2.1)
  | .setDistance source target distance => do
      let answer ← setDistance model source target distance
      some ({ code := answer.1 }, answer.2)

/-- A history with its answers and the model at its end. -/
def run (model : Model) : List Call → Option (List (Call × Response) × Model)
  | [] => some ([], model)
  | call :: rest => do
      let answer ← step model call
      let later ← run answer.2 rest
      some ((call, answer.1) :: later.1, later.2)

end Checked

end TspSolver
