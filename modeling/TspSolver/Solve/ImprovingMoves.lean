import TspSolver.Solve.Overflow

/-!
# How many moves 2-opt accepts

Every accepted move lowers the cached cost by at least one, and the cached cost
is always the route cost of a rearrangement of the input. So the loop ends, and
the number of its moves is at most the distance of the input from the cheapest
rearrangement.
-/

namespace TspSolver

/-- The accepted moves of the refinement loop, up to the pass without a hit. -/
inductive TwoOptRun (problem : Problem) : Tour → ℕ → Tour → Prop where
  | stop {best : Tour} (exhausted : twoOptPass problem best = none) :
      TwoOptRun problem best 0 best
  | move {best better final : Tour} {moves : ℕ}
      (improved : twoOptPass problem best = some better)
      (later : TwoOptRun problem better moves final) : TwoOptRun problem best (moves + 1) final

/-- The least cost among the rearrangements of an order. -/
def IsLeastCost (cost : List ℕ → ℤ) (order : List ℕ) (least : ℤ) : Prop :=
  IsLeast {value | ∃ rearranged : List ℕ, rearranged.Perm order ∧ cost rearranged = value} least

variable {problem : Problem}

theorem exists_isLeastCost (cost : List ℕ → ℤ) (order : List ℕ) :
    ∃ least, IsLeastCost cost order least := by
  rcases exists_least_rearrangement cost order with ⟨cheapest, perm, least⟩
  refine ⟨cost cheapest, ⟨cheapest, perm, rfl⟩, ?_⟩
  rintro value ⟨other, otherPerm, rfl⟩
  exact least other otherPerm

theorem IsLeastCost.le {cost : List ℕ → ℤ} {order other : List ℕ} {least : ℤ}
    (isLeast : IsLeastCost cost order least) (perm : other.Perm order) : least ≤ cost other :=
  isLeast.2 ⟨other, perm, rfl⟩

/-- The loop stops: its run ends in the tour that the recursion returns. -/
theorem exists_twoOptRun (problem : Problem) (best : Tour) :
    ∃ moves, TwoOptRun problem best moves (twoOptLoop problem best) := by
  cases pass : twoOptPass problem best with
  | none =>
      rw [twoOptLoop_of_none pass]
      exact ⟨0, TwoOptRun.stop pass⟩
  | some better =>
      rw [twoOptLoop_of_some pass]
      rcases exists_twoOptRun problem better with ⟨moves, later⟩
      exact ⟨moves + 1, TwoOptRun.move pass later⟩
termination_by best.slack
decreasing_by exact Tour.slack_lt (twoOptPass_lt pass)

theorem TwoOptRun.unique {best leftFinal rightFinal : Tour} {left right : ℕ}
    (leftRun : TwoOptRun problem best left leftFinal)
    (rightRun : TwoOptRun problem best right rightFinal) :
    left = right ∧ leftFinal = rightFinal := by
  induction leftRun generalizing right with
  | stop exhausted =>
      cases rightRun with
      | stop => exact ⟨rfl, rfl⟩
      | move improved _ =>
          rw [exhausted] at improved
          cases improved
  | move improved _ ih =>
      cases rightRun with
      | stop exhausted =>
          rw [exhausted] at improved
          cases improved
      | move other later =>
          rw [improved] at other
          cases other
          rcases ih later with ⟨sameMoves, sameFinal⟩
          exact ⟨congrArg Nat.succ sameMoves, sameFinal⟩

/-- Every move lowers the cached cost by at least one. -/
theorem TwoOptRun.moves_le {best final : Tour} {moves : ℕ}
    (run : TwoOptRun problem best moves final) :
    (moves : ℤ) ≤ best.totalCost.toInt - final.totalCost.toInt := by
  induction run with
  | stop => simp
  | move improved _ ih =>
      have lower := Int64.lt_iff_toInt_lt.mp (twoOptPass_lt improved)
      push_cast
      omega

/--
The loop ends after a number of moves that is at most the route cost of the
input minus the least route cost of its rearrangements: on machine words in any
case, and for the integer costs where no evaluated sum overflows.
-/
theorem twoOptRefine_moves_le (problem : Problem) (order : List ℕ) :
    ∃ moves,
      TwoOptRun problem { order := order, totalCost := routeCost problem order } moves
        (twoOptRefine problem order) ∧
      (∀ other final,
        TwoOptRun problem { order := order, totalCost := routeCost problem order } other final →
        other = moves ∧ final = twoOptRefine problem order) ∧
      (∃ least, IsLeastCost (fun rearranged => (routeCost problem rearranged).toInt) order least ∧
        (moves : ℤ) ≤ (routeCost problem order).toInt - least) ∧
      ((∀ sum ∈ twoOptRefineSums problem order, Int64.Fits sum) →
        ∃ least, IsLeastCost problem.tourCost order least ∧
          (moves : ℤ) ≤ problem.tourCost order - least) := by
  rcases exists_twoOptRun problem { order := order, totalCost := routeCost problem order } with
    ⟨moves, run⟩
  have rearranges := twoOptRefine_rearranges problem order
  have movesLe : (moves : ℤ) ≤ (routeCost problem order).toInt -
      (routeCost problem (twoOptRefine problem order).order).toInt := by
    rw [← rearranges.cost_eq]
    exact run.moves_le
  refine ⟨moves, run, ?_, ?_, ?_⟩
  · intro other final otherRun
    exact otherRun.unique run
  · rcases exists_isLeastCost (fun rearranged => (routeCost problem rearranged).toInt) order with
      ⟨least, isLeast⟩
    have leastLe := isLeast.le rearranges.perm
    exact ⟨least, isLeast, by omega⟩
  · intro fit
    rcases exists_isLeastCost problem.tourCost order with ⟨least, isLeast⟩
    have leastLe := isLeast.le rearranges.perm
    have inputEq : (routeCost problem order).toInt = problem.tourCost order :=
      toInt_routeCost_of_routeSums_fit (List.forall_mem_append.mp fit).1
    have finalEq := (exactPass_twoOptRefine fit).tour_eq
    exact ⟨least, isLeast, by omega⟩

theorem twoOptRefine_moves_le_four :
    let problem : Problem :=
      { distances := [[0, 1, 9, 2], [4, 0, 1, 9], [9, -3, 0, 1], [1, 9, 5, 0]] }
    let order := [0, 2, 1, 3]
    (∀ sum ∈ twoOptRefineSums problem order, Int64.Fits sum) ∧
    ∃ moves,
      TwoOptRun problem { order := order, totalCost := routeCost problem order } moves
        (twoOptRefine problem order) ∧
      (∃ least, IsLeastCost (fun rearranged => (routeCost problem rearranged).toInt) order least ∧
        (moves : ℤ) ≤ (routeCost problem order).toInt - least) ∧
      ∃ least, IsLeastCost problem.tourCost order least ∧
        (moves : ℤ) ≤ problem.tourCost order - least := by
  intro problem order
  have bounded : problem.Bounded 9 := Problem.bounded_of_rows (by decide) (by decide)
  have fit := twoOptRefineSums_fit bounded (by decide) (show order.length = problem.size from rfl)
  rcases twoOptRefine_moves_le problem order with ⟨moves, run, _, machine, exact⟩
  exact ⟨fit, moves, run, machine, exact fit⟩

end TspSolver
