import TspSolver.CApi
import TspSolver.Loop.Fold

/-!
# The signed sums of a run

For every 64-bit signed addition and subtraction that `solve` performs, the
integer that the operation should yield, in the order of evaluation. The machine
value is that integer exactly when it fits. Each log runs along its function: it
takes the same branches and goes on from the same states.
-/

namespace TspSolver

/-! ## Local search -/

/-- The additions of `route_cost` to its running total. -/
def routeSums (problem : Problem) (order : List ℕ) : List ℤ :=
  Loop.entries (fun total index => [total.toInt + (routeEdge problem order index).toInt])
    (fun total index => total + routeEdge problem order index) (0 : Cost)
    (List.range order.length)

/-- The position pairs of a 2-opt pass in scan order. -/
def twoOptPairs (length : ℕ) : List (ℕ × ℕ) :=
  (List.range' 1 (length - 2)).flatMap fun i =>
    (List.range' (i + 1) (length - (i + 1))).map fun k => (i, k)

/-- The candidates of a pass up to its first hit. -/
def twoOptPassSums (problem : Problem) (best : Tour) : List (ℕ × ℕ) → List ℤ
  | [] => []
  | (i, k) :: rest =>
      routeSums problem (reverseSegment best.order i k) ++
        if (twoOptMove problem best i k).isSome then [] else twoOptPassSums problem best rest

/-- The sums of all passes, the last one without a hit. -/
def twoOptLoopSums (problem : Problem) (best : Tour) : List ℤ :=
  twoOptPassSums problem best (twoOptPairs best.order.length) ++
    match _improved : twoOptPass problem best with
    | none => []
    | some better => twoOptLoopSums problem better
termination_by best.slack
decreasing_by exact Tour.slack_lt (twoOptPass_lt _improved)

/-- The cost of the order, then the passes. -/
def twoOptRefineSums (problem : Problem) (order : List ℕ) : List ℤ :=
  routeSums problem order ++
    twoOptLoopSums problem { order := order, totalCost := routeCost problem order }

/-- The refined seed, then every perturbed order. -/
def iteratedLocalSearchSums (problem : Problem) (startNode : ℕ) (randomSeed : UInt64) :
    List ℤ :=
  let best := twoOptRefine problem (buildNearestNeighborSeed problem startNode)
  let state := randomSeed ^^^
    (UInt64.ofNat (normalizeStartNode problem startNode) <<< 1) ^^^ kPerturbationMix
  twoOptRefineSums problem (buildNearestNeighborSeed problem startNode) ++
    Loop.entries
      (fun state _ => twoOptRefineSums problem (perturbTour state.1.order state.2).1)
      (fun state _ => iteratedLocalSearchStep problem state) (best, state)
      (List.range (max 1 problem.size))

/-- The two-edge cycles of the scan for the second node. -/
def secondNodeSums (problem : Problem) (visited : List Bool) (first : ℕ) : List ℤ :=
  (List.range (toNodeId problem.size)).flatMap fun candidate =>
    if visited.getD candidate false then []
    else [problem.edge first candidate + problem.edge candidate first]

/-- The addition and the subtraction of one insertion delta. -/
def insertionDeltaSums (problem : Problem) (order : List ℕ) (candidate position : ℕ) :
    List ℤ :=
  let source := order.getD position 0
  let target := order.getD ((position + 1) % order.length) 0
  [problem.edge source candidate + problem.edge candidate target,
    (problem.distance source candidate + problem.distance candidate target).toInt -
      problem.edge source target]

/-- The deltas of one turn of the insertion loop. -/
def bestInsertionSums (problem : Problem) (visited : List Bool) (order : List ℕ) : List ℤ :=
  (List.range (toNodeId problem.size)).flatMap fun candidate =>
    if visited.getD candidate false then []
    else (List.range order.length).flatMap (insertionDeltaSums problem order candidate)

/-- The deltas of all turns. -/
def insertionLoopSums (problem : Problem) (visited : List Bool) (order : List ℕ) : List ℤ :=
  if order.length < problem.size then
    let best := bestInsertion problem visited order
    bestInsertionSums problem visited order ++
      insertionLoopSums problem (visited.set best.bestNode true)
        (insertAt order best.bestPosition best.bestNode)
  else []
termination_by problem.size - order.length
decreasing_by
  simp only [length_insertAt]
  omega

/-- The scan for the second node, the insertions and the cost of the order. -/
def cheapestInsertionSums (problem : Problem) (startNode : ℕ) : List ℤ :=
  let first := normalizeStartNode problem startNode
  let visited := (List.replicate problem.size false).set first true
  let second := secondNode problem visited first
  (if problem.size = 1 then []
    else secondNodeSums problem visited first ++
      insertionLoopSums problem (visited.set second true) [first, second]) ++
    routeSums problem (buildCheapestInsertionSeed problem startNode)

/-! ## Held-Karp -/

/-- The path cost that one predecessor offers, unless the scan skips it. -/
def heldKarpScanSums (problem : Problem) (nodes : List ℕ) (tables : HeldKarpTables)
    (previousMask last previous : ℕ) : List ℤ :=
  if previousMask &&& 1 <<< previous = 0 then []
  else
    let previousCost := tables.cost nodes.length previousMask previous
    if previousCost = kInf then []
    else [previousCost.toInt + problem.edge (nodes.getD previous 0) (nodes.getD last 0)]

/-- The path costs offered to one cell. -/
def heldKarpCellSums (problem : Problem) (nodes : List ℕ) (mask : ℕ) (tables : HeldKarpTables)
    (last : ℕ) : List ℤ :=
  if mask &&& 1 <<< last = 0 then []
  else
    let previousMask := mask ^^^ 1 <<< last
    if previousMask = 0 then []
    else (List.range nodes.length).flatMap
      (heldKarpScanSums problem nodes tables previousMask last)

/-- The path costs offered to the cells of one mask. -/
def heldKarpRowSums (problem : Problem) (nodes : List ℕ) (tables : HeldKarpTables)
    (mask : ℕ) : List ℤ :=
  Loop.entries (heldKarpCellSums problem nodes mask) (heldKarpCell problem nodes mask) tables
    (List.range nodes.length)

/-- The closed cost of one last position, unless its cell has no path. -/
def heldKarpClosingSums (problem : Problem) (start : ℕ) (nodes : List ℕ)
    (tables : HeldKarpTables) (last : ℕ) : List ℤ :=
  let pathCost := tables.cost nodes.length (1 <<< nodes.length - 1) last
  if pathCost = kInf then []
  else [pathCost.toInt + problem.edge (nodes.getD last 0) start]

/-- All masks in increasing order, then the closing scan; a single node adds nothing. -/
def heldKarpSums (problem : Problem) (startNode : ℕ) : List ℤ :=
  if problem.size > kHeldKarpCutoff ∨ problem.size = 1 then []
  else
    let start := normalizeStartNode problem startNode
    let nodes := heldKarpNodes problem start
    Loop.entries (heldKarpRowSums problem nodes) (heldKarpRow problem nodes)
        (heldKarpSingletons problem start nodes) (List.range' 1 (1 <<< nodes.length - 1)) ++
      (List.range nodes.length).flatMap
        (heldKarpClosingSums problem start nodes (heldKarpTables problem start nodes))

/-! ## `tsp_solver_solve` -/

namespace Model

/-- The sums of the algorithm that is dispatched to. -/
def dispatchSums (problem : Problem) (startNode : ℕ) (randomSeed : UInt64) :
    Algorithm → List ℤ
  | .localSearch2Opt => twoOptRefineSums problem (buildNearestNeighborSeed problem startNode)
  | .greedyNearestNeighbor => routeSums problem (buildNearestNeighborSeed problem startNode)
  | .greedyCheapestInsertion => cheapestInsertionSums problem startNode
  | .heldKarp => heldKarpSums problem startNode
  | .metaheuristicIteratedLocalSearch => iteratedLocalSearchSums problem startNode randomSeed
  | .default => []
  | .unlisted _ => []

/-- The sums of a whole run; a run that stops before its solver, or has no nodes, has none. -/
def solveSums (model : Model) (options : Options) : List ℤ :=
  if !model.isComplete ∨ !isValidAlgorithm options.algorithm ∨ options.timeLimitMs = 0 ∨
      model.size = 0 then []
  else dispatchSums model.toProblem (model.seedStartNode options.randomSeed)
    options.randomSeed (resolveAlgorithm options.algorithm)

end Model

example :
    (Model.solveSums { distances := [[some 0, some 5], [some 7, some 0]] }
      { algorithm := .greedyNearestNeighbor }) = [5, 12] := by
  decide

end TspSolver
