import TspSolver.LocalSearch.TwoOpt

/-!
# The perturbation step

The rejection loop draws from consecutive states of the stream. Every residue is
drawn sooner or later, so the loop ends, and the two positions it settles on
differ and lie behind position 0.
-/

namespace TspSolver

open SplitMix

/-- The orders agree except that two positions behind the first one are exchanged. -/
structure IsProperSwap (order : List ℕ) (first second : ℕ) (swapped : List ℕ) : Prop where
  distinct : first ≠ second
  first_bounds : 1 ≤ first ∧ first ≤ order.length - 1
  second_bounds : 1 ≤ second ∧ second ≤ order.length - 1
  length_eq : swapped.length = order.length
  at_first : swapped[first]? = order[second]?
  at_second : swapped[second]? = order[first]?
  elsewhere : ∀ position, position ≠ first → position ≠ second →
    swapped[position]? = order[position]?

theorem IsProperSwap.symm {order swapped : List ℕ} {first second : ℕ}
    (swap : IsProperSwap order first second swapped) :
    IsProperSwap order second first swapped where
  distinct := swap.distinct.symm
  first_bounds := swap.second_bounds
  second_bounds := swap.first_bounds
  length_eq := swap.length_eq
  at_first := swap.at_second
  at_second := swap.at_first
  elsewhere position notSecond notFirst := swap.elsewhere position notFirst notSecond

theorem length_swapEntries (order : List ℕ) (first second : ℕ) :
    (swapEntries order first second).length = order.length := by
  simp [swapEntries]

theorem isProperSwap_swapEntries {order : List ℕ} {first second : ℕ} (distinct : first ≠ second)
    (firstBounds : 1 ≤ first ∧ first ≤ order.length - 1)
    (secondBounds : 1 ≤ second ∧ second ≤ order.length - 1) :
    IsProperSwap order first second (swapEntries order first second) := by
  have firstLt : first < order.length := by omega
  have secondLt : second < order.length := by omega
  refine ⟨distinct, firstBounds, secondBounds, length_swapEntries order first second, ?_, ?_, ?_⟩
  · rw [swapEntries, List.getElem?_set_ne distinct.symm, List.getElem?_set_self firstLt,
      List.getD_eq_getElem _ _ secondLt, List.getElem?_eq_getElem secondLt]
  · rw [swapEntries, List.getElem?_set_self (by rwa [List.length_set]),
      List.getD_eq_getElem _ _ firstLt, List.getElem?_eq_getElem firstLt]
  · intro position notFirst notSecond
    rw [swapEntries, List.getElem?_set_ne (Ne.symm notSecond),
      List.getElem?_set_ne (Ne.symm notFirst)]

theorem drawIndex_advances (range : ℕ) (state : UInt64) :
    (drawIndex range state).2 = advance state := by
  rw [drawIndex, splitmix64_eq]

theorem drawSecond_of_rejected {range first : ℕ} (proper : 2 ≤ range) {state : UInt64}
    (rejected : (drawIndex range state).1 = first) :
    drawSecond range first proper state = drawSecond range first proper (advance state) := by
  rw [← drawIndex_advances range state, drawSecond]
  exact if_pos rejected

theorem drawSecond_of_accepted {range first : ℕ} (proper : 2 ≤ range) {state : UInt64}
    (accepted : (drawIndex range state).1 ≠ first) :
    drawSecond range first proper state = drawIndex range state := by
  rw [drawSecond, if_neg accepted]

/-- After a number of repetitions of `first` the loop ends on the draw that differs. -/
theorem drawSecond_eq_draw {range first : ℕ} (proper : 2 ≤ range) {rejected : ℕ} {state : UInt64}
    (repeated : ∀ earlier < rejected, (drawIndex range (advance^[earlier] state)).1 = first)
    (distinct : (drawIndex range (advance^[rejected] state)).1 ≠ first) :
    drawSecond range first proper state = drawIndex range (advance^[rejected] state) := by
  induction rejected generalizing state with
  | zero => exact drawSecond_of_accepted proper distinct
  | succ rejected ih =>
      rw [Function.iterate_succ_apply] at distinct ⊢
      have hit : (drawIndex range state).1 = first := repeated 0 (Nat.succ_pos rejected)
      rw [drawSecond_of_rejected proper hit]
      apply ih _ distinct
      intro earlier earlierLt
      rw [← Function.iterate_succ_apply advance]
      exact repeated (earlier + 1) (Nat.succ_lt_succ earlierLt)

/-- The rejection loop consumes finitely many draws: all but the last one repeat `first`. -/
theorem exists_rejected {range : ℕ} (first : ℕ) (proper : 2 ≤ range) (state : UInt64) :
    ∃ rejected,
      (∀ earlier < rejected, (drawIndex range (advance^[earlier] state)).1 = first) ∧
      (drawIndex range (advance^[rejected] state)).1 ≠ first ∧
      drawSecond range first proper state = drawIndex range (advance^[rejected] state) := by
  have distinct := Nat.find_spec (exists_drawIndex_ne proper first state)
  have repeated : ∀ earlier < rejections proper first state,
      (drawIndex range (advance^[earlier] state)).1 = first := by
    intro earlier earlierLt
    exact not_not.mp (Nat.find_min (exists_drawIndex_ne proper first state) earlierLt)
  exact ⟨_, repeated, distinct, drawSecond_eq_draw proper repeated distinct⟩

/-- The swap of two distinct positions, whichever of them comes first. -/
theorem isProperSwap_sorted {order : List ℕ} {first second : ℕ} (distinct : first ≠ second)
    (firstBounds : 1 ≤ first ∧ first ≤ order.length - 1)
    (secondBounds : 1 ≤ second ∧ second ≤ order.length - 1) (state : UInt64) :
    IsProperSwap order first second
      (if first > second then (swapEntries order second first, state)
        else (swapEntries order first second, state)).1 := by
  split
  · exact (isProperSwap_swapEntries distinct.symm secondBounds firstBounds).symm
  · exact isProperSwap_swapEntries distinct firstBounds secondBounds

theorem perturbTour_of_large {order : List ℕ} (large : 4 ≤ order.length)
    (proper : 2 ≤ order.length - 1) (state : UInt64) {first second : ℕ × UInt64}
    (firstDrawn : drawIndex (order.length - 1) state = first)
    (secondDrawn : drawSecond (order.length - 1) first.1 proper first.2 = second) :
    perturbTour order state =
      if first.1 > second.1 then (swapEntries order second.1 first.1, second.2)
      else (swapEntries order first.1 second.1, second.2) := by
  cases firstDrawn
  cases secondDrawn
  have notSmall : ¬order.length ≤ 3 := by omega
  rw [perturbTour, dif_neg notSmall]

/--
A perturbation of four nodes or more reads one draw, rejects finitely many
repetitions of it and swaps two positions behind the first.
-/
theorem perturbTour_isProperSwap {order : List ℕ} (large : 4 ≤ order.length) (state : UInt64) :
    ∃ rejected first second,
      (drawIndex (order.length - 1) state).1 = first ∧
      (∀ earlier < rejected,
        (drawIndex (order.length - 1) (advance^[earlier] (advance state))).1 = first) ∧
      (drawIndex (order.length - 1) (advance^[rejected] (advance state))).1 = second ∧
      (perturbTour order state).2 = advance^[rejected + 2] state ∧
      IsProperSwap order first second (perturbTour order state).1 ∧
      (perturbTour order state).1.head? = order.head? ∧
      (perturbTour order state).1.Perm order := by
  have proper : 2 ≤ order.length - 1 := by omega
  rcases exists_rejected (drawIndex (order.length - 1) state).1 proper (advance state) with
    ⟨rejected, repeated, distinct, drawn⟩
  rw [← drawIndex_advances (order.length - 1) state] at drawn
  have lastState : (drawIndex (order.length - 1) (advance^[rejected] (advance state))).2 =
      advance^[rejected + 2] state := by
    rw [drawIndex_advances, advance_iterate, ← Function.iterate_succ_apply advance,
      ← Function.iterate_succ_apply advance]
  refine ⟨rejected, _, _, rfl, repeated, rfl, ?_, ?_, head?_perturbTour order state,
    perturbTour_perm order state⟩
  · rw [perturbTour_of_large large proper state rfl drawn]
    split
    · exact lastState
    · exact lastState
  · rw [perturbTour_of_large large proper state rfl drawn]
    have firstBounds := drawIndex_bounds proper state
    have secondBounds := drawIndex_bounds proper (advance^[rejected] (advance state))
    exact isProperSwap_sorted distinct.symm firstBounds secondBounds _

theorem perturbTour_isProperSwap_four :
    4 ≤ [0, 1, 2, 3].length ∧
    ∃ rejected first second,
      (drawIndex 3 0).1 = first ∧
      (∀ earlier < rejected, (drawIndex 3 (advance^[earlier] (advance 0))).1 = first) ∧
      (drawIndex 3 (advance^[rejected] (advance 0))).1 = second ∧
      (perturbTour [0, 1, 2, 3] 0).2 = advance^[rejected + 2] 0 ∧
      IsProperSwap [0, 1, 2, 3] first second (perturbTour [0, 1, 2, 3] 0).1 ∧
      (perturbTour [0, 1, 2, 3] 0).1.head? = [0, 1, 2, 3].head? ∧
      (perturbTour [0, 1, 2, 3] 0).1.Perm [0, 1, 2, 3] :=
  ⟨by decide, @perturbTour_isProperSwap [0, 1, 2, 3] (by decide) 0⟩

end TspSolver
