import TspSolver.Walk.Cost
import Mathlib.Tactic.Linarith
import Mathlib.Data.Nat.Log

/-!
# Closed walks in a metric

Where the triangle inequality holds, leaving vertices out makes a closed walk no
longer. Every other edge of a closed walk forms a matching, and one of the two
matchings costs at most half of the walk. Together they bound vertex weights
that no edge separates from below: halving the vertices again and again adds up
to a logarithmic multiple of the shortest closed walk.
-/

namespace Walk

universe u

variable {Vertex : Type u}

/-- Edge costs that are a metric on some of the vertices. -/
structure IsMetric (edge : Vertex → Vertex → ℤ) (inside : Vertex → Prop) : Prop where
  symmetric : ∀ source target, inside source → inside target →
    edge source target = edge target source
  loopless : ∀ vertex, inside vertex → edge vertex vertex = 0
  triangle : ∀ source middle target, inside source → inside middle → inside target →
    edge source target ≤ edge source middle + edge middle target

instance (edge : ℕ → ℕ → ℤ) (count : ℕ) : Decidable (IsMetric edge (· < count)) :=
  decidable_of_iff
    ((∀ source < count, ∀ target < count, edge source target = edge target source) ∧
      (∀ vertex < count, edge vertex vertex = 0) ∧
      ∀ source < count, ∀ middle < count, ∀ target < count,
        edge source target ≤ edge source middle + edge middle target)
    ⟨fun laws =>
      ⟨fun source target sourceLt targetLt => laws.1 source sourceLt target targetLt,
        fun vertex vertexLt => laws.2.1 vertex vertexLt,
        fun source middle target sourceLt middleLt targetLt =>
          laws.2.2 source sourceLt middle middleLt target targetLt⟩,
    fun metric =>
      ⟨fun source sourceLt target targetLt => metric.symmetric source target sourceLt targetLt,
        metric.loopless,
        fun source sourceLt middle middleLt target targetLt =>
          metric.triangle source middle target sourceLt middleLt targetLt⟩⟩

variable {edge : Vertex → Vertex → ℤ} {inside : Vertex → Prop}

theorem IsMetric.nonneg (metric : IsMetric edge inside) {source target : Vertex}
    (sourceIn : inside source) (targetIn : inside target) : 0 ≤ edge source target := by
  have around := metric.triangle source target source sourceIn targetIn sourceIn
  rw [metric.loopless source sourceIn, metric.symmetric target source targetIn sourceIn] at around
  linarith

theorem IsMetric.cost_nonneg (metric : IsMetric edge inside) {walk : List Vertex}
    (walkIn : ∀ vertex ∈ walk, inside vertex) : 0 ≤ cost edge walk := by
  induction walk with
  | nil => simp
  | cons source rest ih =>
      cases rest with
      | nil => simp
      | cons target rest =>
          rw [cost_cons_cons]
          apply add_nonneg
          · exact metric.nonneg (walkIn source (by simp)) (walkIn target (by simp))
          · exact ih fun vertex vertexMem => walkIn vertex (List.mem_cons_of_mem _ vertexMem)

theorem IsMetric.cost_le_closedCost (metric : IsMetric edge inside) {walk : List Vertex}
    (walkIn : ∀ vertex ∈ walk, inside vertex) : cost edge walk ≤ closedCost edge walk := by
  cases walk with
  | nil => exact le_rfl
  | cons first rest =>
      rcases List.eq_nil_or_concat (first :: rest) with empty | ⟨front, last, walkEq⟩
      · cases empty
      · rw [closedCost]
        rw [List.concat_eq_append] at walkEq
        rw [walkEq] at walkIn ⊢
        rw [List.append_assoc, List.singleton_append, cost_concat_concat]
        have firstIn : inside first := walkIn first (walkEq ▸ List.mem_cons_self)
        have closing := metric.nonneg (walkIn last (by simp)) firstIn
        linarith

/-! ## Shortcuts -/

/-- Leaving out vertices between two fixed ends makes a walk no longer. -/
theorem IsMetric.cost_sublist_le (metric : IsMetric edge inside) {part walk : List Vertex}
    (sub : part.Sublist walk) {first last : Vertex} (firstIn : inside first)
    (lastIn : inside last) (walkIn : ∀ vertex ∈ walk, inside vertex) :
    cost edge (first :: part ++ [last]) ≤ cost edge (first :: walk ++ [last]) := by
  induction sub generalizing first with
  | slnil => exact le_rfl
  | @cons part walk vertex sub ih =>
      have vertexIn := walkIn vertex (by simp)
      have shorter := ih vertexIn fun other otherMem =>
        walkIn other (List.mem_cons_of_mem _ otherMem)
      have skipped : cost edge (first :: part ++ [last]) ≤
          edge first vertex + cost edge (vertex :: part ++ [last]) := by
        cases part with
        | nil =>
            have direct := metric.triangle first vertex last firstIn vertexIn lastIn
            simpa using direct
        | cons next part =>
            have nextIn := walkIn next (List.mem_cons_of_mem _ (sub.subset (by simp)))
            have direct := metric.triangle first vertex next firstIn vertexIn nextIn
            simp only [List.cons_append, cost_cons_cons]
            linarith
      simp only [List.cons_append, cost_cons_cons] at shorter skipped ⊢
      linarith
  | @cons_cons part walk vertex sub ih =>
      have shorter := ih (walkIn vertex (by simp)) fun other otherMem =>
        walkIn other (List.mem_cons_of_mem _ otherMem)
      simp only [List.cons_append, cost_cons_cons] at shorter ⊢
      linarith

/-- Leaving vertices out of a closed walk makes it no longer. -/
theorem IsMetric.closedCost_sublist_le (metric : IsMetric edge inside) {part walk : List Vertex}
    (sub : part.Sublist walk) (walkIn : ∀ vertex ∈ walk, inside vertex) :
    closedCost edge part ≤ closedCost edge walk := by
  induction sub with
  | slnil => exact le_rfl
  | @cons part walk vertex sub ih =>
      have restIn : ∀ other ∈ walk, inside other := fun other otherMem =>
        walkIn other (List.mem_cons_of_mem _ otherMem)
      apply (ih restIn).trans
      cases walk with
      | nil =>
          rw [closedCost, closedCost, List.singleton_append, cost_cons_cons, cost_singleton,
            metric.loopless vertex (walkIn vertex (by simp)), add_zero]
      | cons first rest =>
          -- The closed walk through `vertex` as one from `first` to itself that ends in `vertex`.
          have firstIn := walkIn first (by simp)
          have longer := metric.cost_sublist_le (List.sublist_append_left rest [vertex]) firstIn
            firstIn (by
              intro other otherMem
              rcases List.mem_append.mp otherMem with restMem | lastMem
              · exact restIn other (List.mem_cons_of_mem _ restMem)
              · exact walkIn other (List.mem_singleton.mp lastMem ▸ List.mem_cons_self))
          have turned := closedCost_append_comm edge [vertex] (first :: rest)
          rw [List.singleton_append] at turned
          rw [turned]
          exact longer
  | @cons_cons part walk vertex sub ih =>
      have vertexIn := walkIn vertex (by simp)
      exact metric.cost_sublist_le sub vertexIn vertexIn fun other otherMem =>
        walkIn other (List.mem_cons_of_mem _ otherMem)

theorem IsMetric.closedCost_nonneg (metric : IsMetric edge inside) {walk : List Vertex}
    (walkIn : ∀ vertex ∈ walk, inside vertex) : 0 ≤ closedCost edge walk :=
  (metric.cost_nonneg walkIn).trans (metric.cost_le_closedCost walkIn)

/-- Every edge is at most half of a closed walk through both its ends. -/
theorem IsMetric.edge_le (metric : IsMetric edge inside) {walk : List Vertex}
    (walkIn : ∀ vertex ∈ walk, inside vertex) {source target : Vertex}
    (sourceMem : source ∈ walk) (targetMem : target ∈ walk) :
    2 * edge source target ≤ closedCost edge walk := by
  have symmetric := metric.symmetric source target (walkIn source sourceMem)
    (walkIn target targetMem)
  have pair {left right : Vertex} (sub : [left, right].Sublist walk) :
      edge left right + edge right left ≤ closedCost edge walk := by
    simpa [closedCost] using metric.closedCost_sublist_le sub walkIn
  rcases List.append_of_mem sourceMem with ⟨front, back, rfl⟩
  rcases List.mem_append.mp targetMem with before | after
  · have closed := pair ((List.singleton_sublist.mpr before).append
      (List.singleton_sublist.mpr (List.mem_cons_self)))
    linarith
  · rcases List.mem_cons.mp after with same | behind
    · rw [same, metric.loopless source (walkIn source sourceMem), mul_zero]
      exact metric.closedCost_nonneg walkIn
    · have closed := pair (((List.singleton_sublist.mpr behind).cons_cons source).trans
        (List.sublist_append_right front (source :: back)))
      linarith

/-! ## Matchings -/

/-- The edges between the entries 0 and 1, 2 and 3, and so on. -/
def matching (edge : Vertex → Vertex → ℤ) : List Vertex → ℤ
  | [] => 0
  | [_] => 0
  | first :: second :: rest => edge first second + matching edge rest

/-- The heavier vertex of every matched pair, and the last vertex when it has no partner. -/
def heavier (weight : Vertex → ℤ) : List Vertex → List Vertex
  | [] => []
  | [single] => [single]
  | first :: second :: rest =>
      (if weight first ≤ weight second then second else first) :: heavier weight rest

/-- The even and the odd edges of a walk are all its edges. -/
theorem matching_add_matching_tail (edge : Vertex → Vertex → ℤ) (walk : List Vertex) :
    matching edge walk + matching edge walk.tail = cost edge walk := by
  induction walk with
  | nil => rfl
  | cons first rest ih =>
      cases rest with
      | nil => rfl
      | cons second rest =>
          simp only [List.tail_cons, cost_cons_cons, matching] at ih ⊢
          linarith

theorem IsMetric.matching_le_concat (metric : IsMetric edge inside) {last : Vertex}
    (lastIn : inside last) :
    ∀ {walk : List Vertex}, (∀ vertex ∈ walk, inside vertex) →
      matching edge walk ≤ matching edge (walk ++ [last])
  | [], _ => le_rfl
  | [single], walkIn => by
      have last := metric.nonneg (walkIn single (by simp)) lastIn
      simpa [matching] using last
  | first :: second :: rest, walkIn => by
      have shorter := metric.matching_le_concat lastIn fun vertex (vertexMem : vertex ∈ rest) =>
        walkIn vertex (by simp [vertexMem])
      simp only [List.cons_append, matching]
      linarith

/-- The two matchings of a closed walk cost at most as much as the walk. -/
theorem IsMetric.matchings_le (metric : IsMetric edge inside) {first : Vertex}
    {rest : List Vertex} (walkIn : ∀ vertex ∈ first :: rest, inside vertex) :
    matching edge (first :: rest) + matching edge (rest ++ [first]) ≤
      closedCost edge (first :: rest) := by
  have closing := metric.matching_le_concat (walkIn first (by simp)) walkIn
  have whole := matching_add_matching_tail edge (first :: rest ++ [first])
  rw [List.cons_append, List.tail_cons, ← List.cons_append] at whole
  rw [closedCost]
  linarith

/-- One of the two matchings of a closed walk costs at most half of it. -/
theorem IsMetric.exists_matching (metric : IsMetric edge inside) {walk : List Vertex}
    (walkIn : ∀ vertex ∈ walk, inside vertex) :
    ∃ turned : List Vertex, turned.Perm walk ∧
      closedCost edge turned = closedCost edge walk ∧
      2 * matching edge turned ≤ closedCost edge walk := by
  cases walk with
  | nil => exact ⟨[], List.Perm.refl _, rfl, by simp [matching, closedCost]⟩
  | cons first rest =>
      have both := metric.matchings_le walkIn
      rcases le_total (matching edge (first :: rest)) (matching edge (rest ++ [first])) with
        smaller | smaller
      · exact ⟨first :: rest, List.Perm.refl _, rfl, by linarith⟩
      · refine ⟨rest ++ [first], List.perm_append_comm, ?_, by linarith⟩
        exact closedCost_append_comm edge rest [first]

theorem length_heavier (weight : Vertex → ℤ) :
    ∀ walk : List Vertex, (heavier weight walk).length = (walk.length + 1) / 2
  | [] => by simp [heavier]
  | [_] => by simp [heavier]
  | _ :: _ :: rest => by
      simp only [heavier, List.length_cons, length_heavier weight rest]
      omega

theorem heavier_sublist (weight : Vertex → ℤ) :
    ∀ walk : List Vertex, (heavier weight walk).Sublist walk
  | [] => List.Sublist.refl _
  | [_] => List.Sublist.refl _
  | first :: second :: rest => by
      have shorter := heavier_sublist weight rest
      simp only [heavier]
      split
      · exact (shorter.cons_cons second).cons first
      · exact (shorter.cons second).cons_cons first

/-! ## Weights that edges do not separate -/

/-- No edge is shorter than both weights at its ends, and no weight exceeds half the bound. -/
structure Separates (edge : Vertex → Vertex → ℤ) (weight : Vertex → ℤ) (bound : ℤ)
    (walk : List Vertex) : Prop where
  lighter_le : ∀ source ∈ walk, ∀ target ∈ walk, source ≠ target →
    min (weight source) (weight target) ≤ edge source target
  twice_le : ∀ vertex ∈ walk, 2 * weight vertex ≤ bound

theorem Separates.subset {weight : Vertex → ℤ} {bound : ℤ} {walk part : List Vertex}
    (separates : Separates edge weight bound walk) (sub : part ⊆ walk) :
    Separates edge weight bound part where
  lighter_le source sourceMem target targetMem :=
    separates.lighter_le source (sub sourceMem) target (sub targetMem)
  twice_le vertex vertexMem := separates.twice_le vertex (sub vertexMem)

/-- The lighter vertices of the pairs weigh at most as much as the matching costs. -/
theorem Separates.sum_le {weight : Vertex → ℤ} {bound : ℤ} :
    ∀ {walk : List Vertex}, Separates edge weight bound walk → walk.Nodup →
      (walk.map weight).sum ≤ matching edge walk + ((heavier weight walk).map weight).sum
  | [], _, _ => by simp [matching, heavier]
  | [_], _, _ => by simp [matching, heavier]
  | first :: second :: rest, separates, nodup => by
      have shorter := (separates.subset (show rest ⊆ first :: second :: rest by
        intro vertex vertexMem
        simp [vertexMem])).sum_le (nodup.of_cons.of_cons)
      have distinct : first ≠ second := by
        rintro rfl
        simp at nodup
      have lighter := separates.lighter_le first (by simp) second (by simp) distinct
      simp only [heavier, List.map_cons, List.sum_cons, matching]
      split
      · next ordered =>
          rw [min_eq_left ordered] at lighter
          linarith
      · next reversed =>
          rw [min_eq_right (not_le.mp reversed).le] at lighter
          linarith

/-- Halving the vertices bounds all weights by a logarithmic multiple of the closed walk. -/
theorem IsMetric.sum_weights_le (metric : IsMetric edge inside) {weight : Vertex → ℤ} {bound : ℤ}
    {walk : List Vertex} (nonempty : walk ≠ []) (nodup : walk.Nodup)
    (walkIn : ∀ vertex ∈ walk, inside vertex) (short : closedCost edge walk ≤ bound)
    (separates : Separates edge weight bound walk) :
    2 * (walk.map weight).sum ≤ (Nat.clog 2 walk.length + 1) * bound := by
  by_cases few : walk.length ≤ 1
  · rcases walk with _ | ⟨single, _ | ⟨_, _⟩⟩
    · exact absurd rfl nonempty
    · have twice := separates.twice_le single (by simp)
      simpa using twice
    · simp at few
  · rcases metric.exists_matching walkIn with ⟨turned, perm, sameCost, half⟩
    have sub := heavier_sublist weight turned
    have lengthEq := length_heavier weight turned
    rw [perm.length_eq] at lengthEq
    have turnedIn : ∀ vertex ∈ turned, inside vertex := fun vertex vertexMem =>
      walkIn vertex (perm.subset vertexMem)
    have turnedSeparates := separates.subset perm.subset
    have shorter := metric.closedCost_sublist_le sub turnedIn
    have later := metric.sum_weights_le
      (List.ne_nil_of_length_pos (show 0 < (heavier weight turned).length by omega))
      (sub.nodup (perm.nodup_iff.mpr nodup))
      (fun vertex vertexMem => turnedIn vertex (sub.subset vertexMem))
      ((shorter.trans_eq sameCost).trans short) (turnedSeparates.subset sub.subset)
    have matched := turnedSeparates.sum_le (perm.nodup_iff.mpr nodup)
    have rounds : Nat.clog 2 walk.length = Nat.clog 2 ((walk.length + 1) / 2) + 1 :=
      Nat.clog_of_two_le one_lt_two (by omega)
    rw [lengthEq] at later
    rw [(perm.map weight).sum_eq] at matched
    rw [rounds]
    push_cast
    linarith
termination_by walk.length
decreasing_by
  rw [length_heavier, perm.length_eq]
  omega

end Walk
