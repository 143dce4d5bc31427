import TspSolver.Machine.Int64
import TspSolver.Walk.Cost
import Mathlib.Data.Finset.Max
import Mathlib.Data.List.Permutation

/-!
# Problems and tours

The native data model: a distance matrix of 64-bit costs, tours over its rows,
and the cost of a closed route. `std::uint32_t` node ids are natural numbers
here; the places where the source converts a size to a node id truncate
explicitly. Costs are two's-complement words, so every sum is defined; whether
a sum is exact is a separate question, asked with `Int64.Fits`.
-/

namespace TspSolver

/-- `Cost`, a `std::int64_t`. -/
abbrev Cost := Int64

/-- `static_cast<NodeId>` of a size. -/
def toNodeId (value : ℕ) : ℕ := value % 2 ^ 32

/-- The exceptions the native solvers throw, with their messages. -/
inductive Exception where
  | invalidArgument (what : String)
  | outOfRange (what : String)
deriving DecidableEq, Repr

/-- A distance matrix, row by row. -/
structure Problem where
  distances : List (List Cost)
deriving DecidableEq, Repr

namespace Problem

/-- The number of rows. -/
def size (problem : Problem) : ℕ := problem.distances.length

/-- Every row is as long as there are rows. -/
def isSquare (problem : Problem) : Bool :=
  problem.distances.all fun row => row.length == problem.size

/-- `distances[source][target]`; a read outside the matrix gives 0 here. -/
def distance (problem : Problem) (source target : ℕ) : Cost :=
  (problem.distances.getD source []).getD target 0

/-- The directed distance as an integer. -/
def edge (problem : Problem) (source target : ℕ) : ℤ :=
  (problem.distance source target).toInt

end Problem

/-- An order of nodes with its cached cost. -/
structure Tour where
  order : List ℕ := []
  totalCost : Cost := 0
deriving DecidableEq, Repr

/-- `normalize_start_node`, which both solver files define alike. -/
def normalizeStartNode (problem : Problem) (startNode : ℕ) : ℕ :=
  if problem.size = 0 then 0 else toNodeId (startNode % problem.size)

/-- The edge that `route_cost` adds in turn `index`: from that position to the next, cyclically. -/
def routeEdge (problem : Problem) (order : List ℕ) (index : ℕ) : Cost :=
  problem.distance (order.getD index 0) (order.getD ((index + 1) % order.length) 0)

/-- `route_cost`: the running total over all edges of the closed route. -/
def routeCost (problem : Problem) (order : List ℕ) : Cost :=
  if order.isEmpty then 0
  else (List.range order.length).foldl (fun total index => total + routeEdge problem order index) 0

/-- `compute_tour_cost`, which looks at the lengths only, not at the nodes of the order. -/
def computeTourCost (problem : Problem) (tour : Tour) : Except Exception Cost :=
  if !problem.isSquare then
    .error (.invalidArgument "problem distance matrix must be square")
  else if tour.order.length ≠ problem.size then
    .error (.invalidArgument "tour size must match problem size")
  else .ok (routeCost problem tour.order)

/-- The cost of a closed tour over the integers, without truncation. -/
def Problem.tourCost (problem : Problem) (order : List ℕ) : ℤ :=
  Walk.closedCost problem.edge order

/-- A tour of the nodes of a problem: every node exactly once. -/
def Problem.IsTour (problem : Problem) (order : List ℕ) : Prop :=
  order.Perm (List.range problem.size)

instance (problem : Problem) (order : List ℕ) : Decidable (problem.IsTour order) :=
  inferInstanceAs (Decidable (order.Perm _))

/-- Among the rearrangements of a list some have the least cost. -/
theorem exists_least_rearrangement {Value : Type*} [LinearOrder Value] (cost : List ℕ → Value)
    (order : List ℕ) :
    ∃ cheapest, cheapest.Perm order ∧ ∀ other, other.Perm order → cost cheapest ≤ cost other := by
  have listed {other : List ℕ} : other ∈ order.permutations.toFinset ↔ other.Perm order := by
    rw [List.mem_toFinset, List.mem_permutations]
  rcases Finset.exists_min_image _ cost ⟨_, listed.mpr (List.Perm.refl order)⟩ with
    ⟨cheapest, cheapestMem, least⟩
  exact ⟨cheapest, listed.mp cheapestMem, fun other perm => least other (listed.mpr perm)⟩

/-- A read yields an entry of the matrix, or 0 outside it. -/
theorem Problem.distance_mem_or_eq_zero (problem : Problem) (source target : ℕ) :
    (∃ row ∈ problem.distances, problem.distance source target ∈ row) ∨
      problem.distance source target = 0 := by
  by_cases sourceLt : source < problem.distances.length
  · by_cases targetLt : target < problem.distances[source].length
    · left
      refine ⟨problem.distances[source], List.getElem_mem sourceLt, ?_⟩
      rw [Problem.distance, List.getD_eq_getElem _ _ sourceLt, List.getD_eq_getElem _ _ targetLt]
      exact List.getElem_mem targetLt
    · right
      rw [Problem.distance, List.getD_eq_getElem _ _ sourceLt]
      exact List.getD_eq_default _ _ (not_lt.mp targetLt)
  · right
    rw [Problem.distance, List.getD_eq_default _ _ (not_lt.mp sourceLt)]
    rfl

theorem Problem.distance_outside {problem : Problem} (square : problem.isSquare = true)
    {source target : ℕ} (outside : ¬(source < problem.size ∧ target < problem.size)) :
    problem.distance source target = 0 := by
  by_cases sourceLt : source < problem.distances.length
  · have row := List.all_eq_true.mp square _ (List.getElem_mem sourceLt)
    have targetOut : ¬target < problem.size := fun targetLt => outside ⟨sourceLt, targetLt⟩
    rw [Problem.distance, List.getD_eq_getElem _ _ sourceLt, List.getD_eq_default]
    rw [beq_iff_eq.mp row]
    exact not_lt.mp targetOut
  · rw [Problem.distance, List.getD_eq_default _ _ (not_lt.mp sourceLt)]
    rfl

/-- A matrix that is symmetric inside is symmetric everywhere. -/
theorem Problem.edge_comm {problem : Problem} (square : problem.isSquare = true)
    (symmetric : ∀ source < problem.size, ∀ target < problem.size,
      problem.edge source target = problem.edge target source) (source target : ℕ) :
    problem.edge source target = problem.edge target source := by
  by_cases inside : source < problem.size ∧ target < problem.size
  · exact symmetric source inside.1 target inside.2
  · have turned : ¬(target < problem.size ∧ source < problem.size) := fun both => inside both.symm
    rw [Problem.edge, Problem.edge, Problem.distance_outside square inside,
      Problem.distance_outside square turned]

/-- The route cost is the integer cost of the closed tour, truncated to a word. -/
theorem routeCost_eq_ofInt (problem : Problem) (order : List ℕ) :
    routeCost problem order = Int64.ofInt (problem.tourCost order) := by
  cases order with
  | nil => rfl
  | cons first rest =>
      rw [routeCost, List.isEmpty_cons, if_neg Bool.false_ne_true,
        Int64.foldl_range_add_eq_ofInt, Problem.tourCost, Walk.closedCost_eq_sum _ _ 0]
      rfl

theorem toInt_routeCost {problem : Problem} {order : List ℕ}
    (fits : Int64.Fits (problem.tourCost order)) :
    (routeCost problem order).toInt = problem.tourCost order := by
  rw [routeCost_eq_ofInt, Int64.toInt_ofInt_of_fits fits]

end TspSolver
