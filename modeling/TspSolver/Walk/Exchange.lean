import TspSolver.Walk.Cost
import Mathlib.Algebra.BigOperators.Ring.Finset
import Mathlib.Algebra.Order.BigOperators.Group.Finset
import Mathlib.Tactic.Linarith
import Mathlib.Tactic.Abel
import Mathlib.Data.List.Rotate

/-!
# Exchanging two edges of a closed walk

With symmetric edges, turning a segment around replaces the two edges at its
ends and keeps the rest. When no such exchange pays, the exchange inequalities
of all pairs of positions add up: the closed walk costs at most the average over
all closed walks on its vertices.
-/

namespace Walk

universe u v

variable {Vertex : Type u}

section Reversal

variable {Cost : Type v} [AddCommMonoid Cost] {edge : Vertex → Vertex → Cost}

/-- A walk through a segment enters at its head and leaves at its last vertex. -/
theorem cost_through (before after : Vertex) {segment : List Vertex} (nonempty : segment ≠ []) :
    cost edge (before :: segment ++ [after]) =
      edge before (segment.head nonempty) + cost edge segment +
        edge (segment.getLast nonempty) after := by
  have ending : segment = segment.dropLast ++ [segment.getLast nonempty] :=
    (List.dropLast_append_getLast nonempty).symm
  cases segment with
  | nil => exact absurd rfl nonempty
  | cons first rest =>
      rw [List.cons_append, List.cons_append, cost_cons_cons, add_assoc]
      congr 1
      have joined : first :: (rest ++ [after]) =
          (first :: rest).dropLast ++ [(first :: rest).getLast nonempty, after] := by
        rw [← List.cons_append]
        conv_lhs => rw [ending]
        simp
      rw [joined, cost_concat_concat, ← ending]

/-- Turning a segment around exchanges the edges that enter and leave it. -/
theorem closedCost_reverse_segment
    (symmetric : ∀ source target, edge source target = edge target source)
    (front back : List Vertex) (before after : Vertex) {segment tail : List Vertex}
    (nonempty : segment ≠ []) (next : back ++ front ++ [before] = after :: tail) :
    closedCost edge (front ++ before :: (segment.reverse ++ back)) +
        (edge before (segment.head nonempty) + edge (segment.getLast nonempty) after) =
      closedCost edge (front ++ before :: (segment ++ back)) +
        (edge before (segment.getLast nonempty) + edge (segment.head nonempty) after) := by
  have turned {middle : List Vertex} (middleNonempty : middle ≠ []) :
      closedCost edge (front ++ before :: (middle ++ back)) =
        edge before (middle.head middleNonempty) + cost edge middle +
          edge (middle.getLast middleNonempty) after + cost edge (after :: tail) := by
    rw [closedCost_append_comm, List.cons_append, closedCost]
    have route : before :: (middle ++ back ++ front) ++ [before] =
        before :: middle ++ after :: tail := by
      rw [← next]
      simp
    rw [route, cost_append_cons, cost_through before after middleNonempty]
  have reverseNonempty : segment.reverse ≠ [] := by simpa using nonempty
  rw [turned nonempty, turned reverseNonempty, cost_reverse symmetric, List.head_reverse,
    List.getLast_reverse]
  abel

theorem closedCost_reverse
    (symmetric : ∀ source target, edge source target = edge target source)
    (walk : List Vertex) : closedCost edge walk.reverse = closedCost edge walk := by
  cases walk with
  | nil => rfl
  | cons first rest =>
      rw [List.reverse_cons, closedCost_append_comm, List.singleton_append, closedCost, closedCost,
        ← cost_reverse symmetric (first :: rest ++ [first])]
      simp

/-- Turning one part of a closed walk around is as good as turning the other part. -/
theorem closedCost_reverse_front
    (symmetric : ∀ source target, edge source target = edge target source)
    (front back : List Vertex) :
    closedCost edge (front.reverse ++ back) = closedCost edge (front ++ back.reverse) := by
  rw [← closedCost_reverse symmetric (front.reverse ++ back), List.reverse_append,
    List.reverse_reverse, closedCost_append_comm]

/--
When turning a segment behind the first vertex never pays, no reversal pays
wherever the closed walk is cut open.
-/
theorem closedCost_le_reverse_front {Order : Type v} [AddCommMonoid Order] [LinearOrder Order]
    {edge : Vertex → Vertex → Order}
    (symmetric : ∀ source target, edge source target = edge target source) {walk : List Vertex}
    (settled : ∀ before segment after, before ≠ [] → walk = before ++ (segment ++ after) →
      closedCost edge walk ≤ closedCost edge (before ++ (segment.reverse ++ after)))
    {front back : List Vertex} (rotated : (front ++ back).IsRotated walk) :
    closedCost edge walk ≤ closedCost edge (front.reverse ++ back) := by
  have anySegment {before segment after : List Vertex}
      (walkEq : walk = before ++ (segment ++ after)) :
      closedCost edge walk ≤ closedCost edge (before ++ (segment.reverse ++ after)) := by
    cases before with
    | cons first before => exact settled _ _ _ (by simp) walkEq
    | nil =>
        -- A segment that contains the first vertex leaves the others, which can be turned instead.
        cases segment with
        | nil => exact (congrArg (closedCost edge) walkEq).le
        | cons first segment =>
            have turned := settled (first :: segment) after [] (by simp) (by simpa using walkEq)
            rwa [List.append_nil, ← closedCost_reverse_front symmetric] at turned
  rcases List.isRotated_iff_mod.mp rotated with ⟨cut, cutLe, walkEq⟩
  rw [List.rotate_eq_drop_append_take cutLe] at walkEq
  have parts := (List.take_append_drop cut (front ++ back)).symm
  generalize (front ++ back).take cut = left at parts walkEq
  generalize (front ++ back).drop cut = right at parts walkEq
  rcases List.append_eq_append_iff.mp parts with
    ⟨middle, leftEq, backEq⟩ | ⟨middle, frontEq, rightEq⟩
  · rw [backEq, ← List.append_assoc, closedCost_append_comm]
    exact anySegment (by rw [← walkEq, leftEq])
  · rw [closedCost_reverse_front symmetric, frontEq, List.append_assoc, closedCost_append_comm,
      List.append_assoc]
    exact anySegment (by rw [← walkEq, rightEq, List.append_assoc])

end Reversal

section Average

/-- Moving every position of a cycle one on visits the same positions. -/
theorem sum_next {Cost : Type v} [AddCommMonoid Cost] (length : ℕ) (term : ℕ → Cost) :
    ∑ position ∈ Finset.range length, term ((position + 1) % length) =
      ∑ position ∈ Finset.range length, term position := by
  cases length with
  | zero => rfl
  | succ length =>
      rw [Finset.sum_range_succ, Nat.mod_self, Finset.sum_range_succ' term]
      congr 1
      apply Finset.sum_congr rfl
      intro position positionMem
      rw [Nat.mod_eq_of_lt (by simpa using positionMem)]

variable {edge : Vertex → Vertex → ℤ}

/-- Moving both positions one on visits the same pairs. -/
theorem sum_sum_next (length : ℕ) (term : ℕ → ℕ → ℤ) :
    ∑ first ∈ Finset.range length, ∑ second ∈ Finset.range length,
        term ((first + 1) % length) ((second + 1) % length) =
      ∑ first ∈ Finset.range length, ∑ second ∈ Finset.range length, term first second := by
  rw [← sum_next length fun first => ∑ second ∈ Finset.range length, term first second]
  apply Finset.sum_congr rfl
  intro first _
  exact sum_next length fun second => term ((first + 1) % length) second

/-- Summing the exchange inequalities over all pairs of positions. -/
theorem closedCost_le_average
    (symmetric : ∀ source target, edge source target = edge target source)
    (loopless : ∀ vertex, edge vertex vertex = 0) (walk : List Vertex) (default : Vertex)
    (exchange : ∀ first second, first < second → second < walk.length →
      edge (walk.getD first default) (walk.getD ((first + 1) % walk.length) default) +
          edge (walk.getD second default) (walk.getD ((second + 1) % walk.length) default) ≤
        edge (walk.getD first default) (walk.getD second default) +
          edge (walk.getD ((first + 1) % walk.length) default)
            (walk.getD ((second + 1) % walk.length) default)) :
    ((walk.length : ℤ) - 1) * closedCost edge walk ≤
      ∑ first ∈ Finset.range walk.length, ∑ second ∈ Finset.range walk.length,
        edge (walk.getD first default) (walk.getD second default) := by
  rw [closedCost_eq_sum edge walk default]
  generalize walk.length = length at exchange ⊢
  generalize vertexEq : (fun position => walk.getD position default) = vertex
  have vertexAt (position : ℕ) : walk.getD position default = vertex position :=
    congrFun vertexEq position
  simp only [vertexAt] at exchange ⊢
  -- On the diagonal the right side vanishes, so both edges are added back there.
  have pairwise (first : ℕ) (firstLt : first < length) (second : ℕ) (secondLt : second < length) :
      edge (vertex first) (vertex ((first + 1) % length)) +
          edge (vertex second) (vertex ((second + 1) % length)) ≤
        edge (vertex first) (vertex second) +
          edge (vertex ((first + 1) % length)) (vertex ((second + 1) % length)) +
          if first = second then 2 * edge (vertex first) (vertex ((first + 1) % length))
          else 0 := by
    rcases Nat.lt_trichotomy first second with before | same | after
    · rw [if_neg before.ne, add_zero]
      exact exchange first second before secondLt
    · subst same
      rw [if_pos rfl, loopless, loopless]
      omega
    · have swapped := exchange second first after firstLt
      rw [symmetric (vertex second) (vertex first),
        symmetric (vertex ((second + 1) % length))] at swapped
      rw [if_neg after.ne']
      omega
  have summed := Finset.sum_le_sum fun first firstMem =>
    Finset.sum_le_sum fun second secondMem =>
      pairwise first (Finset.mem_range.mp firstMem) second (Finset.mem_range.mp secondMem)
  simp only [Finset.sum_add_distrib, Finset.sum_const, Finset.card_range, Finset.sum_ite_eq,
    Finset.mem_range, nsmul_eq_mul, ← Finset.mul_sum] at summed
  have shifted := sum_sum_next length fun first second => edge (vertex first) (vertex second)
  have diagonal : ∑ first ∈ Finset.range length,
      (if first < length then 2 * edge (vertex first) (vertex ((first + 1) % length)) else 0) =
        2 * ∑ first ∈ Finset.range length,
          edge (vertex first) (vertex ((first + 1) % length)) := by
    rw [Finset.mul_sum]
    apply Finset.sum_congr rfl
    intro first firstMem
    rw [if_pos (Finset.mem_range.mp firstMem)]
  rw [shifted, diagonal] at summed
  linarith

end Average

end Walk
