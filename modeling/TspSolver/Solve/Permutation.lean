import TspSolver.Solve.Coherence
import TspSolver.Solve.Sums

/-!
# When a tour visits every node once

Refinement and perturbation only rearrange their seed, so a returned tour is a
permutation exactly when the seed is one, and the seed is one exactly when the
construction meets no dead end. Held-Karp returns permutations only.
-/

namespace TspSolver

namespace Model

/-- The construction behind a run meets no dead end. -/
def SeedCompletes (model : Model) (options : Options) : Prop :=
  if options.algorithm = .greedyCheapestInsertion then
    2 ≤ model.size →
      ¬CycleDeadEnd model.toProblem (options.randomSeed.toNat % model.size)
  else GreedyWalkCompletes model.toProblem (options.randomSeed.toNat % model.size)

theorem isTour_seedOrder_iff {model : Model} (options : Options) (reachable : model.Reachable)
    (nonempty : model.size ≠ 0) :
    model.toProblem.IsTour
        (seedOrder model.toProblem (model.seedStartNode options.randomSeed) options.algorithm) ↔
      model.size < 2 ^ 32 ∧ model.SeedCompletes options := by
  have wellFormed := reachable.wellFormed
  have startEq := normalizeStartNode_seedStartNode wellFormed.size_le nonempty options.randomSeed
  have problemNonempty : model.toProblem.size ≠ 0 := by simpa using nonempty
  have problemLe : model.toProblem.size ≤ 2 ^ 32 := by simpa using wellFormed.size_le
  unfold seedOrder SeedCompletes
  by_cases inserting : options.algorithm = .greedyCheapestInsertion
  · simp only [if_pos inserting]
    have seedIff := isTour_buildCheapestInsertionSeed_iff problemNonempty problemLe
      (model.seedStartNode options.randomSeed)
    rwa [startEq, size_toProblem] at seedIff
  · simp only [if_neg inserting]
    have seedIff := isTour_buildNearestNeighborSeed_iff problemNonempty problemLe
      (model.seedStartNode options.randomSeed)
    rwa [startEq, size_toProblem] at seedIff

/-- Every returned tour is a permutation exactly when the run cannot meet a dead end. -/
theorem solve_permutation_iff {model : Model} {options : Options} (reachable : model.Reachable)
    (complete : model.isComplete = true) (nonempty : model.size ≠ 0)
    (valid : isValidAlgorithm options.algorithm = true) (limited : options.timeLimitMs ≠ 0) :
    (∀ result, model.solve options = (.ok, some result) →
      result.tour.Perm (List.range model.size)) ↔
      options.algorithm = .heldKarp ∨ model.size < 2 ^ 32 ∧ model.SeedCompletes options := by
  have problemNonempty : model.toProblem.size ≠ 0 := by simpa using nonempty
  have tourIff (order : List ℕ) :
      model.toProblem.IsTour order ↔ order.Perm (List.range model.size) := by
    rw [Problem.IsTour, size_toProblem]
  by_cases searching : options.algorithm = .heldKarp
  · refine ⟨fun _ => Or.inl searching, fun _ result solved => ?_⟩
    rcases solve_eq_ok complete nonempty valid limited solved with
      ⟨heuristic, _⟩ | ⟨_, tour, rfl, returned⟩
    · exact absurd searching heuristic
    · exact (tourIff _).mp (heldKarpTour_tourFrom model.isSquare_toProblem problemNonempty
        returned).1.isTour
  · have seedIff := isTour_seedOrder_iff options reachable nonempty
    constructor
    · intro permutations
      rcases solve_heuristic complete nonempty valid limited searching with
        ⟨tour, answer, rearranges⟩
      have tourPerm := permutations _ answer
      exact Or.inr (seedIff.mp ((tourIff _).mpr (rearranges.perm.symm.trans tourPerm)))
    · rintro (searched | completes) result solved
      · exact absurd searched searching
      · rcases solve_eq_ok complete nonempty valid limited solved with
          ⟨_, tour, rfl, rearranges⟩ | ⟨searched, _⟩
        · exact rearranges.perm.trans ((tourIff _).mp (seedIff.mpr completes))
        · exact absurd searched searching

/-- Three nodes with large distances whose sums fit, seeded at node 2. -/
theorem solve_permutation_iff_three :
    let model := ofMatrix (fun source _ => if source = 0 then 2305843009213693951 else -1) 3
    let options : Options := { algorithm := .greedyNearestNeighbor, randomSeed := 5 }
    (∀ sum ∈ model.solveSums options, Int64.Fits sum) ∧
      ∀ result, model.solve options = (.ok, some result) → result.tour.Perm (List.range 3) := by
  intro model options
  refine ⟨by decide, ?_⟩
  apply (solve_permutation_iff (reachable_ofMatrix _ 3) (by decide) (by decide) (by decide)
    (by decide)).mpr
  right
  refine ⟨by decide, ?_⟩
  exact greedyWalkCompletes_of_lt (by decide) (by decide)

/--
Two nodes with the distance `INT64_MAX` from node 0: nearest neighbor goes from
node 0 to node 0, and no sum of the run overflows.
-/
theorem solve_not_permutation :
    let model := ({} : Model).run [.addNode none, .addNode none,
      .setDistance 0 1 9223372036854775807, .setDistance 1 0 0]
    let options : Options := { algorithm := .greedyNearestNeighbor }
    model.validate = .ok ∧ (∀ sum ∈ model.solveSums options, Int64.Fits sum) ∧
      model.solve options =
        (.ok, some
          { status := .feasible
            algorithm := .greedyNearestNeighbor
            objective := 0
            tour := [0, 0] }) ∧
      ¬[0, 0].Perm (List.range model.size) := by
  decide

end Model

end TspSolver
