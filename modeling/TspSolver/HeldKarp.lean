import TspSolver.Core

/-!
# Held-Karp

The subset dynamic program with its two flat tables. Masks are bit sets of
positions in `nodes`, which lists all nodes but the start. One in-band value,
`kInf`, marks a cell without a path.
-/

namespace TspSolver

/-- The largest number of nodes the solver takes. -/
def kHeldKarpCutoff : ℕ := 18

/-- The entry of a cell without a path. -/
def kInf : Cost := Int64.maxValue / 4

/-- `std::numeric_limits<NodeId>::max()`, the entry of a cell without a parent. -/
def noParent : ℕ := 2 ^ 32 - 1

/-- The tables `dp` and `parent`, flat over masks and last positions. -/
structure HeldKarpTables where
  dp : Array Cost
  parent : Array ℕ

namespace HeldKarpTables

/-- `index(mask, last)`, with the node count of the closure as `width`. -/
def index (width mask last : ℕ) : ℕ := mask * width + last

/-- `dp[index(mask, last)]`. -/
def cost (tables : HeldKarpTables) (width mask last : ℕ) : Cost :=
  tables.dp.getD (index width mask last) 0

/-- `parent[index(mask, last)]`. -/
def parentOf (tables : HeldKarpTables) (width mask last : ℕ) : ℕ :=
  tables.parent.getD (index width mask last) 0

/-- `dp[index(mask, last)] = value`. -/
def setCost (tables : HeldKarpTables) (width mask last : ℕ) (value : Cost) : HeldKarpTables :=
  { tables with dp := tables.dp.setIfInBounds (index width mask last) value }

/-- `parent[index(mask, last)] = value`. -/
def setParent (tables : HeldKarpTables) (width mask last : ℕ) (value : ℕ) :
    HeldKarpTables :=
  { tables with parent := tables.parent.setIfInBounds (index width mask last) value }

/-- Both tables filled with their sentinels. -/
def fresh (size : ℕ) : HeldKarpTables :=
  { dp := Array.replicate size kInf, parent := Array.replicate size noParent }

end HeldKarpTables

/-- All nodes but the start, in increasing order. -/
def heldKarpNodes (problem : Problem) (start : ℕ) : List ℕ :=
  (List.range (toNodeId problem.size)).filter (· ≠ start)

/-- One predecessor of a cell, with `(best_cost, best_parent)` as its state. -/
def heldKarpScan (problem : Problem) (nodes : List ℕ) (tables : HeldKarpTables)
    (previousMask last : ℕ) (best : Cost × ℕ) (previous : ℕ) : Cost × ℕ :=
  if previousMask &&& 1 <<< previous = 0 then best
  else
    let previousCost := tables.cost nodes.length previousMask previous
    if previousCost = kInf then best
    else
      let previousNode := nodes.getD previous 0
      let candidate := previousCost + problem.distance previousNode (nodes.getD last 0)
      if candidate < best.1 ∨ candidate = best.1 ∧ previousNode < best.2 then
        (candidate, previousNode)
      else best

/-- The cell of one mask and one last position in it; singleton masks keep their first edge. -/
def heldKarpCell (problem : Problem) (nodes : List ℕ) (mask : ℕ) (tables : HeldKarpTables)
    (last : ℕ) : HeldKarpTables :=
  if mask &&& 1 <<< last = 0 then tables
  else
    let previousMask := mask ^^^ 1 <<< last
    if previousMask = 0 then tables
    else
      let best := (List.range nodes.length).foldl
        (heldKarpScan problem nodes tables previousMask last)
        (tables.cost nodes.length mask last, tables.parentOf nodes.length mask last)
      (tables.setCost nodes.length mask last best.1).setParent nodes.length mask last best.2

/-- All last positions of one mask. -/
def heldKarpRow (problem : Problem) (nodes : List ℕ) (tables : HeldKarpTables)
    (mask : ℕ) : HeldKarpTables :=
  (List.range nodes.length).foldl (heldKarpCell problem nodes mask) tables

/-- The first edges, written to the cells of the singleton masks. -/
def heldKarpSingletons (problem : Problem) (start : ℕ) (nodes : List ℕ) :
    HeldKarpTables :=
  (List.range nodes.length).foldl
    (fun tables last => tables.setCost nodes.length (1 <<< last) last
      (problem.distance start (nodes.getD last 0)))
    (HeldKarpTables.fresh (1 <<< nodes.length * nodes.length))

/-- The tables after the loop over all masks. -/
def heldKarpTables (problem : Problem) (start : ℕ) (nodes : List ℕ) :
    HeldKarpTables :=
  (List.range' 1 (1 <<< nodes.length - 1)).foldl (heldKarpRow problem nodes)
    (heldKarpSingletons problem start nodes)

/-- One last node of the closing scan, with `(best_total, best_last)` as its state. -/
def heldKarpClosing (problem : Problem) (start : ℕ) (nodes : List ℕ)
    (tables : HeldKarpTables) (best : Cost × ℕ) (last : ℕ) : Cost × ℕ :=
  let pathCost := tables.cost nodes.length (1 <<< nodes.length - 1) last
  if pathCost = kInf then best
  else
    let candidate := pathCost + problem.distance (nodes.getD last 0) start
    if candidate < best.1 ∨ candidate = best.1 ∧ last < best.2 then (candidate, last) else best

/-- `previous < start ? previous : previous - 1` in 32-bit arithmetic. -/
def heldKarpPosition (start previous : ℕ) : ℕ :=
  if previous < start then previous else toNodeId (previous + (2 ^ 32 - 1))

/--
The `while (true)` loop of the backtracking. It breaks when the mask is used up;
the first argument bounds the turns of the model.
-/
def heldKarpBacktrack (start : ℕ) (width : ℕ) (tables : HeldKarpTables) :
    ℕ → ℕ → ℕ → List ℕ → List ℕ
  | 0, _, _, reversedOrder => reversedOrder
  | turns + 1, mask, last, reversedOrder =>
      let previousMask := mask ^^^ 1 <<< last
      if previousMask = 0 then reversedOrder
      else
        let previous := tables.parentOf width mask last
        heldKarpBacktrack start width tables turns previousMask
          (heldKarpPosition start previous) (reversedOrder ++ [previous])

/-- `held_karp_tour`. -/
def heldKarpTour (problem : Problem) (startNode : ℕ) : Except Exception Tour :=
  if !problem.isSquare then
    .error (.invalidArgument "problem distance matrix must be square")
  else if problem.size = 0 then .ok {}
  else if problem.size > kHeldKarpCutoff then
    .error (.outOfRange "problem size exceeds held-karp cutoff of 18 nodes")
  else
    let start := normalizeStartNode problem startNode
    if problem.size = 1 then
      .ok { order := [start], totalCost := problem.distance start start }
    else
      let nodes := heldKarpNodes problem start
      let tables := heldKarpTables problem start nodes
      let best := (List.range nodes.length).foldl
        (heldKarpClosing problem start nodes tables) (kInf, 0)
      if best.1 = kInf then
        .error (.outOfRange "held-karp solver could not construct a tour")
      else
        let reversedOrder := heldKarpBacktrack start nodes.length tables nodes.length
          (1 <<< nodes.length - 1) best.2 [nodes.getD best.2 0]
        .ok { order := start :: reversedOrder.reverse, totalCost := best.1 }

example :
    heldKarpTour
      { distances := [[0, 2, 9, 10], [1, 0, 6, 4], [15, 7, 0, 8], [6, 3, 12, 0]] } 0 =
      .ok { order := [0, 2, 3, 1], totalCost := 21 } := by
  decide +kernel

end TspSolver
