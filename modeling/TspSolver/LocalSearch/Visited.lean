import TspSolver.LocalSearch
import Mathlib.Data.List.Perm.Subperm
import Mathlib.Data.List.Nodup

/-!
# Visited flags and start nodes

Both constructions keep a vector of flags beside the order they build. `Marks`
ties the two together, so that a flag test becomes a membership test.
-/

namespace TspSolver

/-- The flags are set for exactly the placed nodes. -/
structure Marks (visited : List Bool) (count : ℕ) (placed : List ℕ) : Prop where
  length_eq : visited.length = count
  flag_iff : ∀ node < count, visited.getD node false = true ↔ node ∈ placed

theorem Marks.nil (count : ℕ) : Marks (List.replicate count false) count [] where
  length_eq := List.length_replicate
  flag_iff node nodeLt := by
    simp [List.getD_eq_getElem?_getD, nodeLt]

/-- Setting a flag while the node is placed, wherever it goes in the order. -/
theorem Marks.set {visited : List Bool} {count : ℕ} {placed grown : List ℕ}
    (marks : Marks visited count placed) {next : ℕ} (nextLt : next < count)
    (grows : ∀ node, node ∈ grown ↔ node = next ∨ node ∈ placed) :
    Marks (visited.set next true) count grown where
  length_eq := by simpa using marks.length_eq
  flag_iff node nodeLt := by
    have inside : next < visited.length := by
      have lengthEq := marks.length_eq
      omega
    rw [grows]
    by_cases here : node = next
    · subst here
      simp [List.getD_eq_getElem?_getD, inside]
    · have other := marks.flag_iff node nodeLt
      simp only [List.getD_eq_getElem?_getD, List.getElem?_set, if_neg (Ne.symm here)] at other ⊢
      rw [other]
      simp [here]

theorem toNodeId_of_lt {value : ℕ} (small : value < 2 ^ 32) : toNodeId value = value :=
  Nat.mod_eq_of_lt small

theorem toNodeId_le (value : ℕ) : toNodeId value ≤ value := Nat.mod_le _ _

/-- At 2^32 nodes the truncated loop bound is 0. -/
theorem toNodeId_limit : toNodeId (2 ^ 32) = 0 := Nat.mod_self _

theorem normalizeStartNode_eq {problem : Problem} (nonempty : problem.size ≠ 0)
    (sizeLe : problem.size ≤ 2 ^ 32) (startNode : ℕ) :
    normalizeStartNode problem startNode = startNode % problem.size := by
  have below := Nat.mod_lt startNode (Nat.pos_of_ne_zero nonempty)
  rw [normalizeStartNode, if_neg nonempty, toNodeId_of_lt (by omega)]

theorem normalizeStartNode_lt {problem : Problem} (nonempty : problem.size ≠ 0)
    (startNode : ℕ) : normalizeStartNode problem startNode < problem.size := by
  rw [normalizeStartNode, if_neg nonempty]
  exact (toNodeId_le _).trans_lt (Nat.mod_lt _ (Nat.pos_of_ne_zero nonempty))

/-- Fewer entries than nodes leave some node out. -/
theorem exists_notMem_of_length_lt {placed : List ℕ} {count : ℕ}
    (fewer : placed.length < count) : ∃ node < count, node ∉ placed := by
  by_contra allPlaced
  simp only [not_exists, not_and, not_not] at allPlaced
  have fits := (List.subperm_of_subset List.nodup_range
    (fun node nodeMem => allPlaced node (List.mem_range.mp nodeMem))).length_le
  rw [List.length_range] at fits
  omega

/-- A repetition-free order of the right length over the nodes is a tour. -/
theorem isTour_of_nodup {problem : Problem} {order : List ℕ}
    (lengthEq : order.length = problem.size) (nodup : order.Nodup)
    (inRange : ∀ node ∈ order, node < problem.size) : problem.IsTour order := by
  have contained : order ⊆ List.range problem.size := by
    intro node nodeMem
    exact List.mem_range.mpr (inRange node nodeMem)
  apply (List.subperm_of_subset nodup contained).perm_of_length_le
  rw [lengthEq, List.length_range]

theorem Problem.IsTour.nodup {problem : Problem} {order : List ℕ}
    (tour : problem.IsTour order) : order.Nodup :=
  tour.nodup_iff.mpr List.nodup_range

theorem Problem.IsTour.length_eq {problem : Problem} {order : List ℕ}
    (tour : problem.IsTour order) : order.length = problem.size := by
  rw [List.Perm.length_eq tour, List.length_range]

theorem Problem.IsTour.mem_iff {problem : Problem} {order : List ℕ}
    (tour : problem.IsTour order) (node : ℕ) : node ∈ order ↔ node < problem.size := by
  rw [List.Perm.mem_iff tour, List.mem_range]

end TspSolver
