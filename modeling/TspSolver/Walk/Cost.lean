import Mathlib.Algebra.BigOperators.Group.Finset.Basic
import Mathlib.Algebra.BigOperators.Intervals
import Mathlib.Algebra.BigOperators.Ring.Finset
import Mathlib.Data.List.GetD
import Mathlib.Data.List.Perm.Basic
import Mathlib.Algebra.Order.Group.Int
import Mathlib.Algebra.Order.Ring.Int
import Mathlib.Tactic.Ring
import Mathlib.Tactic.Abel

/-!
# Costs of walks and closed walks

A walk is a list of vertices and costs the sum of the edges between consecutive
entries; the closed walk returns from the last entry to the first. Edge costs
are directed and live in any commutative additive monoid.
-/

namespace Walk

universe u v

variable {Vertex : Type u} {Cost : Type v}

section Monoid

variable [AddCommMonoid Cost] (edge : Vertex → Vertex → Cost)

/-- The sum of the edges between consecutive vertices. -/
def cost : List Vertex → Cost
  | [] => 0
  | [_] => 0
  | source :: target :: rest => edge source target + cost (target :: rest)

/-- The cost of visiting the vertices in order and returning to the first. -/
def closedCost : List Vertex → Cost
  | [] => 0
  | first :: rest => cost edge (first :: rest ++ [first])

@[simp]
theorem cost_nil : cost edge [] = 0 := rfl

@[simp]
theorem cost_singleton (vertex : Vertex) : cost edge [vertex] = 0 := rfl

@[simp]
theorem cost_cons_cons (source target : Vertex) (rest : List Vertex) :
    cost edge (source :: target :: rest) = edge source target + cost edge (target :: rest) := rfl

/-- A walk can be cut at any vertex, which then ends one part and starts the other. -/
theorem cost_append_cons (front back : List Vertex) (vertex : Vertex) :
    cost edge (front ++ vertex :: back) =
      cost edge (front ++ [vertex]) + cost edge (vertex :: back) := by
  induction front with
  | nil => simp
  | cons source rest ih =>
      cases rest with
      | nil => simp
      | cons target rest =>
          simp only [List.cons_append, cost_cons_cons] at ih ⊢
          rw [ih, add_assoc]

theorem cost_concat_concat (front : List Vertex) (source target : Vertex) :
    cost edge (front ++ [source, target]) = cost edge (front ++ [source]) + edge source target := by
  rw [cost_append_cons]
  simp

/-- Turning a closed walk to start elsewhere does not change its cost. -/
theorem closedCost_append_comm (front back : List Vertex) :
    closedCost edge (front ++ back) = closedCost edge (back ++ front) := by
  cases front with
  | nil => simp
  | cons first front =>
      cases back with
      | nil => simp
      | cons second back =>
          simp only [closedCost, List.cons_append, List.append_assoc]
          have cutLeft := cost_append_cons edge (first :: front) (back ++ [first]) second
          have cutRight := cost_append_cons edge (second :: back) (front ++ [second]) first
          simp only [List.cons_append] at cutLeft cutRight
          rw [cutLeft, cutRight, add_comm]

/-- A new vertex replaces the edge that it is put on by the two edges to its neighbors. -/
theorem closedCost_insert (front back : List Vertex) (source node : Vertex) {target : Vertex}
    {tail : List Vertex} (next : back ++ front ++ [source] = target :: tail) :
    closedCost edge (front ++ source :: node :: back) + edge source target =
      closedCost edge (front ++ source :: back) + (edge source node + edge node target) := by
  have around (middle : List Vertex) :
      closedCost edge (front ++ source :: (middle ++ back)) =
        cost edge (source :: middle ++ target :: tail) := by
    rw [closedCost_append_comm, List.cons_append, closedCost, ← next]
    simp
  have inserted := around [node]
  have before := around []
  simp only [List.cons_append, List.nil_append, cost_cons_cons] at inserted before
  rw [inserted, before]
  abel

/-- Behind a position comes the next one, and the first one behind the last. -/
theorem exists_next {walk : List Vertex} {position count : ℕ} (inside : position < walk.length)
    (nonempty : 1 ≤ count) (default : Vertex) :
    ∃ tail, walk.drop (position + 1) ++ walk.take count =
      walk.getD ((position + 1) % walk.length) default :: tail := by
  rcases Nat.lt_or_eq_of_le (show position + 1 ≤ walk.length from inside) with further | closing
  · rw [Nat.mod_eq_of_lt further, List.drop_eq_getElem_cons further,
      List.getD_eq_getElem _ _ further]
    exact ⟨_, rfl⟩
  · rw [closing, Nat.mod_self, List.drop_length, List.nil_append]
    rcases walk with _ | ⟨first, rest⟩
    · simp at inside
    · rcases count with _ | count
      · omega
      · exact ⟨_, rfl⟩

theorem getD_next_mem {walk : List Vertex} (nonempty : walk ≠ []) (position : ℕ)
    (default : Vertex) : walk.getD ((position + 1) % walk.length) default ∈ walk := by
  have nextLt : (position + 1) % walk.length < walk.length :=
    Nat.mod_lt _ (List.length_pos_iff.mpr nonempty)
  rw [List.getD_eq_getElem _ _ nextLt]
  exact List.getElem_mem nextLt

variable {edge}

theorem cost_reverse (symmetric : ∀ source target, edge source target = edge target source)
    (walk : List Vertex) : cost edge walk.reverse = cost edge walk := by
  induction walk with
  | nil => rfl
  | cons source rest ih =>
      cases rest with
      | nil => rfl
      | cons target rest =>
          rw [List.reverse_cons, List.reverse_cons, List.append_assoc, List.singleton_append,
            cost_concat_concat, ← List.reverse_cons, ih, cost_cons_cons, add_comm,
            symmetric source]

variable (edge)

/-- A sum over the positions of a list is the sum over its entries. -/
theorem sum_range_getD (walk : List Vertex) (default : Vertex) (term : Vertex → Cost) :
    ∑ position ∈ Finset.range walk.length, term (walk.getD position default) =
      (walk.map term).sum := by
  induction walk with
  | nil => rfl
  | cons vertex rest ih =>
      rw [List.length_cons, Finset.sum_range_succ', List.map_cons, List.sum_cons, add_comm, ← ih]
      rfl

/-- The cost of a walk as the sum over its positions. -/
theorem cost_eq_sum (walk : List Vertex) (default : Vertex) :
    cost edge walk = ∑ position ∈ Finset.range (walk.length - 1),
      edge (walk.getD position default) (walk.getD (position + 1) default) := by
  induction walk with
  | nil => simp
  | cons source rest ih =>
      cases rest with
      | nil => simp
      | cons target rest =>
          rw [cost_cons_cons, ih]
          simp only [List.length_cons, Nat.add_sub_cancel]
          rw [Finset.sum_range_succ', add_comm]
          simp

/-- The cost of a closed walk as the sum over its positions, wrapping around at the end. -/
theorem closedCost_eq_sum (walk : List Vertex) (default : Vertex) :
    closedCost edge walk = ∑ position ∈ Finset.range walk.length,
      edge (walk.getD position default)
        (walk.getD ((position + 1) % walk.length) default) := by
  cases walk with
  | nil => simp [closedCost]
  | cons first rest =>
      rw [closedCost, cost_eq_sum edge _ default]
      have lengthEq : (first :: rest ++ [first]).length - 1 = (first :: rest).length := by simp
      rw [lengthEq]
      apply Finset.sum_congr rfl
      intro position positionMem
      rw [Finset.mem_range] at positionMem
      rw [List.getD_append _ _ _ _ positionMem]
      congr 1
      by_cases last : position + 1 < (first :: rest).length
      · rw [Nat.mod_eq_of_lt last, List.getD_append _ _ _ _ last]
      · have atEnd : position + 1 = (first :: rest).length := by omega
        rw [atEnd, Nat.mod_self, List.getD_append_right _ _ _ _ le_rfl]
        simp

end Monoid

section Bounds

variable {edge : Vertex → Vertex → ℤ} {bound : ℤ}

theorem cost_mul_left (factor : ℤ) (walk : List Vertex) :
    cost (fun source target => factor * edge source target) walk = factor * cost edge walk := by
  induction walk with
  | nil => simp
  | cons source rest ih =>
      cases rest with
      | nil => simp
      | cons target rest =>
          rw [cost_cons_cons, ih, cost_cons_cons, mul_add]

/-- Edges of an affine image, loops aside, make closed walks of the affine image. -/
theorem closedCost_affine {image : Vertex → Vertex → ℤ} {factor shift : ℤ} {walk : List Vertex}
    (nodup : walk.Nodup) (several : 2 ≤ walk.length)
    (affine : ∀ source ∈ walk, ∀ target ∈ walk, source ≠ target →
      image source target = factor * edge source target + shift) :
    closedCost image walk = factor * closedCost edge walk + walk.length * shift := by
  rcases walk with _ | ⟨default, rest⟩
  · simp at several
  · generalize default :: rest = walk at nodup several affine ⊢
    rw [closedCost_eq_sum image _ default, closedCost_eq_sum edge _ default, Finset.mul_sum]
    have terms : ∀ position ∈ Finset.range walk.length,
        image (walk.getD position default) (walk.getD ((position + 1) % walk.length) default) =
          factor * edge (walk.getD position default)
            (walk.getD ((position + 1) % walk.length) default) + shift := by
      intro position positionMem
      have inside := Finset.mem_range.mp positionMem
      have nextLt : (position + 1) % walk.length < walk.length := Nat.mod_lt _ (by omega)
      rw [List.getD_eq_getElem _ _ inside, List.getD_eq_getElem _ _ nextLt]
      apply affine _ (List.getElem_mem _) _ (List.getElem_mem _)
      intro same
      have stays := (nodup.getElem_inj_iff).mp same
      rcases Nat.lt_or_eq_of_le (show position + 1 ≤ walk.length from inside) with further | closing
      · rw [Nat.mod_eq_of_lt further] at stays
        omega
      · rw [closing, Nat.mod_self] at stays
        omega
    rw [Finset.sum_congr rfl terms, Finset.sum_add_distrib, Finset.sum_const, Finset.card_range,
      nsmul_eq_mul]

/-- A walk whose edges map to cheaper ones maps to a cheaper walk. -/
theorem cost_map_le {Image : Type*} {cheaper : Image → Image → ℤ} (image : Vertex → Image)
    {walk : List Vertex} (edgeLe : ∀ source ∈ walk, ∀ target ∈ walk,
      cheaper (image source) (image target) ≤ edge source target) :
    cost cheaper (walk.map image) ≤ cost edge walk := by
  induction walk with
  | nil => exact le_rfl
  | cons source rest ih =>
      cases rest with
      | nil => exact le_rfl
      | cons target rest =>
          simp only [List.map_cons, cost_cons_cons] at ih ⊢
          apply add_le_add
          · exact edgeLe source (by simp) target (by simp)
          · exact ih fun left leftMem right rightMem =>
              edgeLe left (List.mem_cons_of_mem _ leftMem) right (List.mem_cons_of_mem _ rightMem)

theorem abs_cost_le {walk : List Vertex}
    (bounded : ∀ source ∈ walk, ∀ target ∈ walk, |edge source target| ≤ bound) :
    |cost edge walk| ≤ bound * (walk.length - 1 : ℕ) := by
  induction walk with
  | nil => simp
  | cons source rest ih =>
      cases rest with
      | nil => simp
      | cons target rest =>
          have firstEdge := bounded source (by simp) target (by simp)
          have others := ih fun first firstMem second secondMem =>
            bounded first (List.mem_cons_of_mem _ firstMem) second
              (List.mem_cons_of_mem _ secondMem)
          calc
            |cost edge (source :: target :: rest)|
                ≤ |edge source target| + |cost edge (target :: rest)| := abs_add_le _ _
            _ ≤ bound + bound * ((target :: rest).length - 1 : ℕ) := add_le_add firstEdge others
            _ = bound * ((source :: target :: rest).length - 1 : ℕ) := by
              simp only [List.length_cons, Nat.add_sub_cancel]
              push_cast
              ring

theorem abs_closedCost_le {walk : List Vertex}
    (bounded : ∀ source ∈ walk, ∀ target ∈ walk, |edge source target| ≤ bound) :
    |closedCost edge walk| ≤ bound * walk.length := by
  cases walk with
  | nil => simp [closedCost]
  | cons first rest =>
      have sameVertices : ∀ vertex ∈ first :: rest ++ [first], vertex ∈ first :: rest := by
        intro vertex vertexMem
        simpa [or_comm, or_left_comm] using vertexMem
      have closed : |cost edge (first :: rest ++ [first])| ≤
          bound * ((first :: rest ++ [first]).length - 1 : ℕ) :=
        abs_cost_le fun source sourceMem target targetMem =>
          bounded source (sameVertices source sourceMem) target (sameVertices target targetMem)
      simpa [closedCost] using closed

end Bounds

end Walk
