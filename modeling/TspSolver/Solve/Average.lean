import TspSolver.Solve.ImprovementChain
import TspSolver.Solve.Overflow

/-!
# Refined runs against the average tour

On a symmetric model every run that ends with a 2-opt refinement returns a local
optimum of segment reversals. When no sum of the run overflows, its objective is
at most the mean cost of all tours, which is the sum of all distances over
`n - 1`.
-/

namespace TspSolver

namespace Model

/-- The algorithms whose result has passed through 2-opt. -/
def Refined : Algorithm → Prop
  | .default => True
  | .localSearch2Opt => True
  | .metaheuristicIteratedLocalSearch => True
  | _ => False

/-- A refined run without overflow ends with a local optimum whose last pass is exact. -/
theorem solve_refined {model : Model} {options : Options} (complete : model.isComplete = true)
    (nonempty : model.size ≠ 0) (limited : options.timeLimitMs ≠ 0)
    (sums : ∀ sum ∈ model.solveSums options, Int64.Fits sum)
    (refined : Refined options.algorithm) :
    ∃ tour, model.solve options =
        (.ok, some (resultOf (resolveAlgorithm options.algorithm) tour)) ∧
      Incumbent model.toProblem
        (buildNearestNeighborSeed model.toProblem (model.seedStartNode options.randomSeed))
        tour ∧
      ExactPass model.toProblem tour := by
  have twoOpt := incumbent_twoOptRefine model.toProblem
    (buildNearestNeighborSeed model.toProblem (model.seedStartNode options.randomSeed))
  rcases options with ⟨timeLimitMs, randomSeed, algorithm⟩
  cases algorithm with
  | default =>
      rw [solveSums_eq complete nonempty rfl limited] at sums
      exact ⟨_, solve_twoOpt complete nonempty limited (Or.inr rfl), twoOpt,
        exactPass_twoOptRefine sums⟩
  | localSearch2Opt =>
      rw [solveSums_eq complete nonempty rfl limited] at sums
      exact ⟨_, solve_twoOpt complete nonempty limited (Or.inl rfl), twoOpt,
        exactPass_twoOptRefine sums⟩
  | metaheuristicIteratedLocalSearch =>
      rw [solveSums_eq complete nonempty rfl limited] at sums
      exact ⟨_, solve_iteratedLocalSearch complete nonempty limited rfl,
        incumbent_iteratedLocalSearchBest model.toProblem _ _,
        exactPass_iteratedLocalSearchBest sums⟩
  | greedyNearestNeighbor => exact refined.elim
  | greedyCheapestInsertion => exact refined.elim
  | heldKarp => exact refined.elim
  | unlisted value => exact refined.elim

theorem edge_toProblem_symmetric {model : Model}
    (symmetric : ∀ source < model.size, ∀ target < model.size,
      model.entry source target = model.entry target source) (source target : ℕ) :
    model.toProblem.edge source target = model.toProblem.edge target source := by
  apply Problem.edge_comm model.isSquare_toProblem
  rw [size_toProblem]
  intro left leftLt right rightLt
  rw [Problem.edge, Problem.edge, distance_toProblem leftLt rightLt,
    distance_toProblem rightLt leftLt, symmetric left leftLt right rightLt]

/-- `n - 1` times the objective of a refined run is at most the sum of all distances. -/
theorem solve_le_average {model : Model} {options : Options} (reachable : model.Reachable)
    (complete : model.isComplete = true) (several : 2 ≤ model.size) (fewer : model.size < 2 ^ 32)
    (symmetric : ∀ source < model.size, ∀ target < model.size,
      model.entry source target = model.entry target source)
    (below : ∀ source < model.size, ∀ target < model.size, source ≠ target →
      ∀ distance, model.entry source target = some distance → distance < Int64.maxValue)
    (sums : ∀ sum ∈ model.solveSums options, Int64.Fits sum)
    (refined : Refined options.algorithm) (limited : options.timeLimitMs ≠ 0) :
    ∃ result, model.solve options = (.ok, some result) ∧
      ((model.size : ℤ) - 1) * result.objective.toInt ≤
        ∑ source ∈ Finset.range model.size, ∑ target ∈ (Finset.range model.size).erase source,
          model.toProblem.edge source target := by
  have wellFormed := reachable.wellFormed
  have nonempty : model.size ≠ 0 := by omega
  have problemNonempty : model.toProblem.size ≠ 0 := by simpa using nonempty
  rcases solve_refined complete nonempty limited sums refined with
    ⟨tour, answer, incumbent, exactPass⟩
  refine ⟨_, answer, ?_⟩
  have loopless (node : ℕ) : model.toProblem.edge node node = 0 := by
    rw [Problem.edge, distance_toProblem_self wellFormed]
    rfl
  have seedTour : model.toProblem.IsTour
      (buildNearestNeighborSeed model.toProblem (model.seedStartNode options.randomSeed)) :=
    isTour_buildNearestNeighborSeed_of_lt problemNonempty (by rwa [size_toProblem])
      (distance_lt_of_entries complete below) _
  have average := settled_le_average (edge_toProblem_symmetric symmetric) loopless exactPass
    (incumbent.rearranges.perm.trans seedTour) incumbent.rearranges.cost_eq incumbent.settled
  rw [size_toProblem] at average
  apply average.trans_eq
  apply Finset.sum_congr rfl
  intro source sourceMem
  rw [← Finset.add_sum_erase _ _ sourceMem, loopless, zero_add]

/-- A symmetric model of four nodes with costs of both signs. -/
theorem solve_le_average_four :
    let model := ofMatrix (fun source target => if source + target = 3 then -2 else 5) 4
    ∃ result, model.solve { algorithm := .metaheuristicIteratedLocalSearch, randomSeed := 9 } =
        (.ok, some result) ∧
      ((model.size : ℤ) - 1) * result.objective.toInt ≤
        ∑ source ∈ Finset.range model.size, ∑ target ∈ (Finset.range model.size).erase source,
          model.toProblem.edge source target := by
  intro model
  have sizeEq : model.size = 4 := size_ofMatrix (by decide)
  refine solve_le_average (reachable_ofMatrix _ 4) (isComplete_ofMatrix (by decide))
    (by decide) (by decide) (by decide) ?_ ?_ trivial (by decide)
  · intro source sourceLt target targetLt distinct distance present
    rw [sizeEq] at sourceLt targetLt
    rw [entry_ofMatrix (by decide) sourceLt targetLt, if_neg distinct] at present
    cases present
    split <;> decide
  · have bounded : model.Bounded 5 := by
      intro source sourceLt target targetLt distinct distance present
      rw [sizeEq] at sourceLt targetLt
      rw [entry_ofMatrix (by decide) sourceLt targetLt, if_neg distinct] at present
      cases present
      split <;> decide
    exact (exact_of_bounded _ (reachable_ofMatrix _ 4).wellFormed
      (isComplete_ofMatrix (by decide)) bounded (by rw [sizeEq]; decide)).1

end Model

end TspSolver
