import TspSolver.LocalSearch.Visited
import TspSolver.Loop.Fold

/-!
# 2-opt and iterated local search

A segment reversal behind position 0 rearranges the order and keeps its first
node. The refinement loop caches the route cost of its incumbent, only ever
lowers it, and stops when no reversal improves. The perturbation rounds keep all
of that for the best tour so far.
-/

namespace TspSolver

/-! ## Segment reversal -/

/-- An order cut in front of and behind the positions `first..last`. -/
theorem eq_take_append_segment {first last : ℕ} (ordered : first ≤ last) (order : List ℕ) :
    order = order.take first ++ ((order.drop first).take (last + 1 - first) ++
      order.drop (last + 1)) := by
  have joined : first + (last + 1 - first) = last + 1 := by omega
  conv_lhs => rw [← List.take_append_drop first order,
    ← List.take_append_drop (last + 1 - first) (order.drop first), List.drop_drop, joined]

theorem reverseSegment_perm {first last : ℕ} (ordered : first ≤ last) (order : List ℕ) :
    (reverseSegment order first last).Perm order := by
  have turned : (reverseSegment order first last).Perm
      (order.take first ++ ((order.drop first).take (last + 1 - first) ++
        order.drop (last + 1))) := by
    simp only [reverseSegment, List.append_assoc]
    apply List.Perm.append_left
    apply List.Perm.append_right
    exact List.reverse_perm _
  rwa [← eq_take_append_segment ordered order] at turned

theorem head?_reverseSegment {first : ℕ} (behind : 1 ≤ first) (last : ℕ) (order : List ℕ) :
    (reverseSegment order first last).head? = order.head? := by
  rcases order with _ | ⟨head, rest⟩
  · simp [reverseSegment]
  · rcases first with _ | first
    · omega
    · simp [reverseSegment]

/-! ## The refinement loop -/

theorem twoOptMove_eq_some {problem : Problem} {best better : Tour} {i k : ℕ}
    (move : twoOptMove problem best i k = some better) :
    better.order = reverseSegment best.order i k ∧
      better.totalCost = routeCost problem better.order ∧
      better.totalCost < best.totalCost := by
  have lower := twoOptMove_lt move
  simp only [twoOptMove] at move
  split at move
  · cases move
    exact ⟨rfl, rfl, lower⟩
  · exact absurd move (by simp)

/-- No pass hit means that no reversal of the scan lowers the cached cost. -/
theorem twoOptPass_eq_none {problem : Problem} {best : Tour}
    (exhausted : twoOptPass problem best = none) {i k : ℕ} (iPos : 1 ≤ i) (ordered : i < k)
    (kLt : k < best.order.length) :
    best.totalCost ≤ routeCost problem (reverseSegment best.order i k) := by
  simp only [twoOptPass, List.findSome?_eq_none_iff, List.mem_range'_1] at exhausted
  have noMove := exhausted i (by omega) k (by omega)
  simp only [twoOptMove] at noMove
  split at noMove
  · exact absurd noMove (by simp)
  · next notLower => exact not_lt.mp notLower

theorem twoOptLoop_of_none {problem : Problem} {best : Tour}
    (exhausted : twoOptPass problem best = none) : twoOptLoop problem best = best := by
  rw [twoOptLoop]
  split
  · rfl
  · next improved => simp [exhausted] at improved

theorem twoOptLoop_of_some {problem : Problem} {best better : Tour}
    (improved : twoOptPass problem best = some better) :
    twoOptLoop problem best = twoOptLoop problem better := by
  conv_lhs => rw [twoOptLoop]
  split
  · next exhausted => simp [improved] at exhausted
  · next other same =>
      rw [improved] at same
      cases same
      rfl

/-- What a pass preserves holds of the final tour, on which no pass has a hit. -/
theorem twoOptLoop_induction {problem : Problem} (invariant : Tour → Prop)
    (turn : ∀ best better, twoOptPass problem best = some better → invariant best →
      invariant better)
    {best : Tour} (base : invariant best) :
    invariant (twoOptLoop problem best) ∧ twoOptPass problem (twoOptLoop problem best) = none := by
  cases pass : twoOptPass problem best with
  | none =>
      rw [twoOptLoop_of_none pass]
      exact ⟨base, pass⟩
  | some better =>
      rw [twoOptLoop_of_some pass]
      exact twoOptLoop_induction invariant turn (turn best better pass base)
termination_by best.slack
decreasing_by exact Tour.slack_lt (twoOptPass_lt pass)

/-- A tour over the nodes of a seed order, with a correct cached cost. -/
structure Rearranges (problem : Problem) (seed : List ℕ) (tour : Tour) : Prop where
  perm : tour.order.Perm seed
  head_eq : tour.order.head? = seed.head?
  cost_eq : tour.totalCost = routeCost problem tour.order

theorem Rearranges.pass {problem : Problem} {seed : List ℕ} {best better : Tour}
    (rearranges : Rearranges problem seed best)
    (improved : twoOptPass problem best = some better) : Rearranges problem seed better := by
  rcases twoOptPass_eq_some improved with ⟨i, k, iPos, ordered, _, move⟩
  rcases twoOptMove_eq_some move with ⟨orderEq, costEq, _⟩
  refine ⟨?_, ?_, costEq⟩
  · rw [orderEq]
    exact (reverseSegment_perm ordered.le best.order).trans rearranges.perm
  · rw [orderEq, head?_reverseSegment iPos]
    exact rearranges.head_eq

theorem twoOptRefine_rearranges (problem : Problem) (order : List ℕ) :
    Rearranges problem order (twoOptRefine problem order) :=
  (twoOptLoop_induction (Rearranges problem order)
    (fun _ _ improved rearranges => rearranges.pass improved) ⟨List.Perm.refl _, rfl, rfl⟩).1

theorem twoOptRefine_totalCost_le (problem : Problem) (order : List ℕ) :
    (twoOptRefine problem order).totalCost ≤ routeCost problem order :=
  (twoOptLoop_induction (fun tour : Tour => tour.totalCost ≤ routeCost problem order)
    (fun _ _ improved bound => (twoOptPass_lt improved).le.trans bound) le_rfl).1

theorem twoOptPass_twoOptRefine (problem : Problem) (order : List ℕ) :
    twoOptPass problem (twoOptRefine problem order) = none :=
  (twoOptLoop_induction (fun _ => True) (fun _ _ _ _ => trivial) trivial).2

/-! ## Perturbation -/

theorem swapEntries_perm {order : List ℕ} {first second : ℕ} (firstLt : first < order.length)
    (secondLt : second < order.length) : (swapEntries order first second).Perm order := by
  rw [swapEntries, List.getD_eq_getElem _ _ firstLt, List.getD_eq_getElem _ _ secondLt]
  exact List.set_set_perm firstLt secondLt

theorem head?_swapEntries {first second : ℕ} (firstPos : 1 ≤ first) (secondPos : 1 ≤ second)
    (order : List ℕ) : (swapEntries order first second).head? = order.head? := by
  rcases order with _ | ⟨head, rest⟩
  · simp [swapEntries]
  · rcases first with _ | first
    · omega
    · rcases second with _ | second
      · omega
      · simp [swapEntries]

theorem drawIndex_bounds {range : ℕ} (proper : 2 ≤ range) (state : UInt64) :
    1 ≤ (drawIndex range state).1 ∧ (drawIndex range state).1 ≤ range := by
  have residue := Nat.mod_lt (splitmix64 state).1.toNat (show range > 0 by omega)
  simp only [drawIndex]
  omega

/-- The rejection loop ends on some draw, and that draw differs from `first`. -/
theorem drawSecond_spec {range : ℕ} (first : ℕ) (proper : 2 ≤ range) (state : UInt64) :
    ∃ earlier, drawSecond range first proper state = drawIndex range earlier ∧
      (drawSecond range first proper state).1 ≠ first := by
  rw [drawSecond]
  by_cases rejected : (drawIndex range state).1 = first
  · rw [if_pos rejected]
    exact drawSecond_spec first proper (drawIndex range state).2
  · rw [if_neg rejected]
    exact ⟨state, rfl, rejected⟩
termination_by rejections proper first state
decreasing_by
  exact rejections_lt proper rejected

/-- A perturbation leaves short orders alone and swaps two positions behind the first else. -/
theorem perturbTour_cases (order : List ℕ) (state : UInt64) :
    (order.length ≤ 3 ∧ perturbTour order state = (order, state)) ∨
    ∃ first second later, 1 ≤ first ∧ first < second ∧ second < order.length ∧
      perturbTour order state = (swapEntries order first second, later) := by
  by_cases small : order.length ≤ 3
  · left
    exact ⟨small, by rw [perturbTour, dif_pos small]⟩
  · right
    have proper : 2 ≤ order.length - 1 := by omega
    have firstBounds := drawIndex_bounds proper state
    rcases drawSecond_spec (drawIndex (order.length - 1) state).1 proper
      (drawIndex (order.length - 1) state).2 with ⟨earlier, drawn, distinct⟩
    have secondBounds := drawIndex_bounds proper earlier
    rw [← drawn] at secondBounds
    rw [perturbTour, dif_neg small]
    dsimp only
    generalize drawIndex (order.length - 1) state = first at firstBounds secondBounds distinct ⊢
    generalize drawSecond (order.length - 1) first.1 proper first.2 = second
      at secondBounds distinct ⊢
    by_cases swapped : first.1 > second.1
    · rw [if_pos swapped]
      exact ⟨second.1, first.1, second.2, by omega, by omega, by omega, rfl⟩
    · rw [if_neg swapped]
      exact ⟨first.1, second.1, second.2, by omega, by omega, by omega, rfl⟩

theorem perturbTour_perm (order : List ℕ) (state : UInt64) :
    (perturbTour order state).1.Perm order := by
  rcases perturbTour_cases order state with
    ⟨_, unchanged⟩ | ⟨first, second, later, _, ordered, secondLt, swapped⟩
  · rw [unchanged]
  · rw [swapped]
    exact swapEntries_perm (ordered.trans secondLt) secondLt

theorem head?_perturbTour (order : List ℕ) (state : UInt64) :
    (perturbTour order state).1.head? = order.head? := by
  rcases perturbTour_cases order state with
    ⟨_, unchanged⟩ | ⟨first, second, later, firstPos, ordered, _, swapped⟩
  · rw [unchanged]
  · rw [swapped]
    exact head?_swapEntries firstPos (firstPos.trans ordered.le) order

/-! ## Iterated local search -/

/-- What every round keeps for the best tour so far. -/
structure Incumbent (problem : Problem) (seed : List ℕ) (tour : Tour) : Prop where
  rearranges : Rearranges problem seed tour
  settled : twoOptPass problem tour = none
  cost_le : tour.totalCost ≤ (twoOptRefine problem seed).totalCost

theorem incumbent_twoOptRefine (problem : Problem) (seed : List ℕ) :
    Incumbent problem seed (twoOptRefine problem seed) where
  rearranges := twoOptRefine_rearranges problem seed
  settled := twoOptPass_twoOptRefine problem seed
  cost_le := le_rfl

theorem Incumbent.step {problem : Problem} {seed : List ℕ} {state : Tour × UInt64}
    (incumbent : Incumbent problem seed state.1) :
    Incumbent problem seed (iteratedLocalSearchStep problem state).1 := by
  unfold iteratedLocalSearchStep
  dsimp only
  split
  · next lower =>
      have refined := twoOptRefine_rearranges problem (perturbTour state.1.order state.2).1
      refine ⟨⟨?_, ?_, refined.cost_eq⟩, twoOptPass_twoOptRefine problem _, ?_⟩
      · exact (refined.perm.trans (perturbTour_perm _ _)).trans incumbent.rearranges.perm
      · exact (refined.head_eq.trans (head?_perturbTour _ _)).trans incumbent.rearranges.head_eq
      · exact lower.le.trans incumbent.cost_le
  · exact incumbent

/-- The best tour after the last round. -/
def iteratedLocalSearchBest (problem : Problem) (startNode : ℕ) (randomSeed : UInt64) : Tour :=
  ((iteratedLocalSearchStep problem)^[max 1 problem.size]
    (twoOptRefine problem (buildNearestNeighborSeed problem startNode),
      randomSeed ^^^ (UInt64.ofNat (normalizeStartNode problem startNode) <<< 1) ^^^
        kPerturbationMix)).1

theorem iteratedLocalSearchTour_eq (problem : Problem) (startNode : ℕ) (randomSeed : UInt64) :
    iteratedLocalSearchTour problem startNode randomSeed =
      guarded problem (iteratedLocalSearchBest problem startNode randomSeed) := rfl

theorem incumbent_iteratedLocalSearchBest (problem : Problem) (startNode : ℕ)
    (randomSeed : UInt64) :
    Incumbent problem (buildNearestNeighborSeed problem startNode)
      (iteratedLocalSearchBest problem startNode randomSeed) :=
  Loop.iterate_induction
    (fun _ (state : Tour × UInt64) =>
      Incumbent problem (buildNearestNeighborSeed problem startNode) state.1)
    _ (incumbent_twoOptRefine problem _) (fun _ _ _ incumbent => incumbent.step)

end TspSolver
