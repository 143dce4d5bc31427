import TspSolver.Walk.Cost

/-!
# Closed walks under changed edges

What becomes of the cost of a closed walk when all edges change together: when
they are added up, turned around, renamed along a map of the vertices, made
cheaper, or shifted by potentials at their two ends.
-/

namespace Walk

universe u v w

variable {Vertex : Type u} {Image : Type w}

section Monoid

variable {Cost : Type v} [AddCommMonoid Cost] {edge : Vertex → Vertex → Cost}

theorem closedCost_add (left right : Vertex → Vertex → Cost) (walk : List Vertex) :
    closedCost (fun source target => left source target + right source target) walk =
      closedCost left walk + closedCost right walk := by
  cases walk with
  | nil => simp [closedCost]
  | cons default rest =>
      rw [closedCost_eq_sum _ _ default, closedCost_eq_sum _ _ default,
        closedCost_eq_sum _ _ default, Finset.sum_add_distrib]

/-- Edges that cost what leaving their source costs. -/
theorem closedCost_out (out : Vertex → Cost) (walk : List Vertex) :
    closedCost (fun source _ => out source) walk = (walk.map out).sum := by
  cases walk with
  | nil => rfl
  | cons default rest =>
      rw [closedCost_eq_sum _ _ default]
      exact sum_range_getD _ default out

theorem cost_into (into : Vertex → Cost) (walk : List Vertex) :
    cost (fun _ target => into target) walk = (walk.tail.map into).sum := by
  induction walk with
  | nil => rfl
  | cons source rest ih =>
      cases rest with
      | nil => rfl
      | cons target rest =>
          rw [cost_cons_cons, ih]
          simp

/-- Edges that cost what entering their target costs. -/
theorem closedCost_into (into : Vertex → Cost) (walk : List Vertex) :
    closedCost (fun _ target => into target) walk = (walk.map into).sum := by
  cases walk with
  | nil => rfl
  | cons first rest =>
      rw [closedCost, cost_into]
      simp [add_comm]

theorem cost_map {image : Image → Image → Cost} (rename : Vertex → Image) {walk : List Vertex}
    (edges : ∀ source ∈ walk, ∀ target ∈ walk,
      image (rename source) (rename target) = edge source target) :
    cost image (walk.map rename) = cost edge walk := by
  induction walk with
  | nil => rfl
  | cons source rest ih =>
      cases rest with
      | nil => rfl
      | cons target rest =>
          simp only [List.map_cons, cost_cons_cons] at ih ⊢
          rw [edges source (by simp) target (by simp), ih]
          intro left leftMem right rightMem
          exact edges left (List.mem_cons_of_mem _ leftMem) right (List.mem_cons_of_mem _ rightMem)

/-- Renaming the vertices along with the edges keeps the cost. -/
theorem closedCost_map {image : Image → Image → Cost} (rename : Vertex → Image)
    {walk : List Vertex} (edges : ∀ source ∈ walk, ∀ target ∈ walk,
      image (rename source) (rename target) = edge source target) :
    closedCost image (walk.map rename) = closedCost edge walk := by
  cases walk with
  | nil => rfl
  | cons first rest =>
      have same : cost image ((first :: rest ++ [first]).map rename) =
          cost edge (first :: rest ++ [first]) := by
        apply cost_map
        intro source sourceMem target targetMem
        apply edges
        · simpa [or_comm, or_left_comm] using sourceMem
        · simpa [or_comm, or_left_comm] using targetMem
      simpa [closedCost] using same

theorem cost_flip_reverse (walk : List Vertex) :
    cost (fun source target => edge target source) walk.reverse = cost edge walk := by
  induction walk with
  | nil => rfl
  | cons source rest ih =>
      cases rest with
      | nil => rfl
      | cons target rest =>
          rw [List.reverse_cons, List.reverse_cons, List.append_assoc, List.singleton_append,
            cost_concat_concat, ← List.reverse_cons, ih, cost_cons_cons, add_comm]

/-- Walking backwards over turned edges keeps the cost. -/
theorem closedCost_flip_reverse (walk : List Vertex) :
    closedCost (fun source target => edge target source) walk.reverse = closedCost edge walk := by
  cases walk with
  | nil => rfl
  | cons first rest =>
      rw [List.reverse_cons, closedCost_append_comm, List.singleton_append, closedCost, closedCost,
        ← cost_flip_reverse (first :: rest ++ [first])]
      simp

end Monoid

section Integers

variable {edge image : Vertex → Vertex → ℤ}

/-- Potentials shift a closed walk without repetitions by their sum over its vertices. -/
theorem closedCost_potentials {out into : Vertex → ℤ} {walk : List Vertex} (nodup : walk.Nodup)
    (several : 2 ≤ walk.length)
    (shifted : ∀ source ∈ walk, ∀ target ∈ walk, source ≠ target →
      image source target = edge source target + (out source + into target)) :
    closedCost image walk =
      closedCost edge walk + (walk.map fun vertex => out vertex + into vertex).sum := by
  have same : closedCost image walk =
      1 * closedCost (fun source target => edge source target + (out source + into target)) walk +
        walk.length * 0 := by
    apply closedCost_affine nodup several
    intro source sourceMem target targetMem distinct
    rw [shifted source sourceMem target targetMem distinct]
    ring
  rw [same, closedCost_add, closedCost_add, closedCost_out, closedCost_into, List.sum_map_add]
  ring

/-- A walk over cheaper edges is cheaper. -/
theorem closedCost_le {walk : List Vertex}
    (cheaper : ∀ source ∈ walk, ∀ target ∈ walk, image source target ≤ edge source target) :
    closedCost image walk ≤ closedCost edge walk := by
  cases walk with
  | nil => exact le_rfl
  | cons first rest =>
      have bound : cost image ((first :: rest ++ [first]).map id) ≤
          cost edge (first :: rest ++ [first]) := by
        apply cost_map_le
        intro source sourceMem target targetMem
        apply cheaper
        · simpa [or_comm, or_left_comm] using sourceMem
        · simpa [or_comm, or_left_comm] using targetMem
      simpa [closedCost] using bound

end Integers

end Walk
