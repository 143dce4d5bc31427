import TspSolver.Solve.ImprovementChain
import TspSolver.Solve.Recosting

/-!
# Re-costed runs in lock step

Two runs of one algorithm on a problem and on its re-costing hold twin tours
after every step: 2-opt takes the same hits in the same order, and iterated local
search draws the same perturbations and accepts the same candidates. So `solve`
returns one order for both, and the affine image of the objective.
-/

namespace TspSolver

/-- Related options are both empty or hold related values. -/
theorem rel_cases {Left Right : Type*} {related : Left → Right → Prop} {left : Option Left}
    {right : Option Right} (rel : Option.Rel related left right) :
    left = none ∧ right = none ∨
      ∃ value other, left = some value ∧ right = some other ∧ related value other := by
  cases rel with
  | none => exact Or.inl ⟨rfl, rfl⟩
  | some holds => exact Or.inr ⟨_, _, rfl, rfl, holds⟩

variable {problem recosted : Problem} {factor shift : ℤ}

namespace Recosted

variable (recosts : Recosted problem recosted factor shift) (several : 2 ≤ problem.size)

include recosts several

/-! ## 2-opt -/

theorem twoOptMove_twins {best bestTwin : Tour} (twins : TwinTours problem recosted best bestTwin)
    {i k : ℕ} (ordered : i ≤ k)
    (fit : ∀ sum ∈ routeSums problem (reverseSegment best.order i k), Int64.Fits sum)
    (recostedFit : ∀ sum ∈ routeSums recosted (reverseSegment best.order i k), Int64.Fits sum) :
    Option.Rel (TwinTours problem recosted) (twoOptMove problem best i k)
      (twoOptMove recosted bestTwin i k) := by
  have candidate := (reverseSegment_perm ordered best.order).trans twins.isTour
  have candidateTwins := twinTours_of_routeSums candidate fit recostedFit
  have sameTest := candidateTwins.lt_iff recosts several twins
  simp only [twoOptMove, twins.order_eq, sameTest]
  split
  · exact Option.Rel.some candidateTwins
  · exact Option.Rel.none

/-- Both scans reach their first hit at the same pair. -/
theorem findSome?_twins {best bestTwin : Tour} (twins : TwinTours problem recosted best bestTwin)
    {pairs : List (ℕ × ℕ)} (ordered : ∀ pair ∈ pairs, pair.1 ≤ pair.2)
    (fit : ∀ sum ∈ twoOptPassSums problem best pairs, Int64.Fits sum)
    (recostedFit : ∀ sum ∈ twoOptPassSums recosted bestTwin pairs, Int64.Fits sum) :
    Option.Rel (TwinTours problem recosted)
      (pairs.findSome? fun pair => twoOptMove problem best pair.1 pair.2)
      (pairs.findSome? fun pair => twoOptMove recosted bestTwin pair.1 pair.2) := by
  induction pairs with
  | nil => exact Option.Rel.none
  | cons head rest ih =>
      rcases head with ⟨i, k⟩
      rw [twoOptPassSums, List.forall_mem_append] at fit recostedFit
      rw [twins.order_eq] at recostedFit
      have move := recosts.twoOptMove_twins several twins (ordered (i, k) (by simp)) fit.1
        recostedFit.1
      rw [List.findSome?_cons, List.findSome?_cons]
      generalize twoOptMove problem best i k = hit at move fit ⊢
      generalize twoOptMove recosted bestTwin i k = hitTwin at move recostedFit ⊢
      cases move with
      | some found => exact Option.Rel.some found
      | none =>
          apply ih _ fit.2 recostedFit.2
          exact fun pair pairMem => ordered pair (by simp [pairMem])

theorem twoOptPass_twins {best bestTwin : Tour} (twins : TwinTours problem recosted best bestTwin)
    (fit : ∀ sum ∈ twoOptLoopSums problem best, Int64.Fits sum)
    (recostedFit : ∀ sum ∈ twoOptLoopSums recosted bestTwin, Int64.Fits sum) :
    Option.Rel (TwinTours problem recosted) (twoOptPass problem best)
      (twoOptPass recosted bestTwin) := by
  have passFit := fun sum sumMem => fit sum (twoOptPassSums_subset problem best sumMem)
  have twinFit := fun sum sumMem =>
    recostedFit sum (twoOptPassSums_subset recosted bestTwin sumMem)
  rw [twins.order_eq] at twinFit
  rw [twoOptPass_eq_findSome?, twoOptPass_eq_findSome?, twins.order_eq]
  exact recosts.findSome?_twins several twins (fun _ pairMem => twoOptPairs_ordered pairMem)
    passFit twinFit

theorem twoOptLoop_twins {best bestTwin : Tour} (twins : TwinTours problem recosted best bestTwin)
    (fit : ∀ sum ∈ twoOptLoopSums problem best, Int64.Fits sum)
    (recostedFit : ∀ sum ∈ twoOptLoopSums recosted bestTwin, Int64.Fits sum) :
    TwinTours problem recosted (twoOptLoop problem best) (twoOptLoop recosted bestTwin) := by
  rcases rel_cases (recosts.twoOptPass_twins several twins fit recostedFit) with
    ⟨none, twinNone⟩ | ⟨better, betterTwin, pass, twinPass, betterTwins⟩
  · rw [twoOptLoop_of_none none, twoOptLoop_of_none twinNone]
    exact twins
  · rw [twoOptLoop_of_some pass, twoOptLoop_of_some twinPass]
    rw [twoOptLoopSums_of_some pass, List.forall_mem_append] at fit
    rw [twoOptLoopSums_of_some twinPass, List.forall_mem_append] at recostedFit
    have lower := Tour.slack_lt (twoOptPass_lt pass)
    exact twoOptLoop_twins betterTwins fit.2 recostedFit.2
termination_by best.slack
decreasing_by exact lower

theorem twoOptRefine_twins {order : List ℕ} (tour : problem.IsTour order)
    (fit : ∀ sum ∈ twoOptRefineSums problem order, Int64.Fits sum)
    (recostedFit : ∀ sum ∈ twoOptRefineSums recosted order, Int64.Fits sum) :
    TwinTours problem recosted (twoOptRefine problem order) (twoOptRefine recosted order) := by
  rw [twoOptRefineSums, List.forall_mem_append] at fit recostedFit
  have seedTwins := twinTours_of_routeSums tour fit.1 recostedFit.1
  exact recosts.twoOptLoop_twins several seedTwins fit.2 recostedFit.2

/-! ## Iterated local search -/

/-- Twin incumbents with the same generator state. -/
structure TwinStates (problem recosted : Problem) (state twin : Tour × UInt64) : Prop where
  twins : TwinTours problem recosted state.1 twin.1
  generator_eq : twin.2 = state.2

theorem iteratedLocalSearchStep_twins {state twin : Tour × UInt64}
    (related : TwinStates problem recosted state twin)
    (fit : ∀ sum ∈ twoOptRefineSums problem (perturbTour state.1.order state.2).1, Int64.Fits sum)
    (recostedFit : ∀ sum ∈ twoOptRefineSums recosted (perturbTour twin.1.order twin.2).1,
      Int64.Fits sum) :
    TwinStates problem recosted (iteratedLocalSearchStep problem state)
      (iteratedLocalSearchStep recosted twin) := by
  rw [related.twins.order_eq, related.generator_eq] at recostedFit
  have perturbed := (perturbTour_perm state.1.order state.2).trans related.twins.isTour
  have candidateTwins := recosts.twoOptRefine_twins several perturbed fit recostedFit
  have sameTest := candidateTwins.lt_iff recosts several related.twins
  simp only [iteratedLocalSearchStep, related.twins.order_eq, related.generator_eq, sameTest]
  split
  · exact ⟨candidateTwins, rfl⟩
  · exact ⟨related.twins, rfl⟩

theorem iteratedLocalSearchBest_twins {startNode : ℕ} {randomSeed : UInt64}
    (seedTour : problem.IsTour (buildNearestNeighborSeed problem startNode))
    (sameSeed : buildNearestNeighborSeed recosted startNode =
      buildNearestNeighborSeed problem startNode)
    (fit : ∀ sum ∈ iteratedLocalSearchSums problem startNode randomSeed, Int64.Fits sum)
    (recostedFit : ∀ sum ∈ iteratedLocalSearchSums recosted startNode randomSeed,
      Int64.Fits sum) :
    TwinTours problem recosted (iteratedLocalSearchBest problem startNode randomSeed)
      (iteratedLocalSearchBest recosted startNode randomSeed) := by
  rw [iteratedLocalSearchSums, List.forall_mem_append] at fit
  rw [iteratedLocalSearchSums, sameSeed, recosts.normalizeStartNode_eq, recosts.size_eq,
    List.forall_mem_append] at recostedFit
  rw [iteratedLocalSearchBest, iteratedLocalSearchBest, sameSeed, recosts.normalizeStartNode_eq,
    recosts.size_eq]
  refine (Loop.iterate_related_of_entries (TwinStates problem recosted) Int64.Fits _ ?_ ?_
    fit.2 recostedFit.2).twins
  · exact ⟨recosts.twoOptRefine_twins several seedTour fit.1 recostedFit.1, rfl⟩
  · exact fun _ _ related => recosts.iteratedLocalSearchStep_twins several related

/-! ## The solvers -/

section Dispatch

variable (square : problem.isSquare = true) (recostedSquare : recosted.isSquare = true)
  (small : problem.size < 2 ^ 32)
  (below : ∀ source < problem.size, ∀ target < problem.size, source ≠ target →
    problem.distance source target < Int64.maxValue)
  (recostedBelow : ∀ source < problem.size, ∀ target < problem.size, source ≠ target →
    recosted.distance source target < Int64.maxValue)

include square recostedSquare small below recostedBelow

/-- Every selectable solver returns twin tours. -/
theorem dispatch_twins {startNode start : ℕ} {randomSeed : UInt64} {algorithm : Algorithm}
    (startEq : normalizeStartNode problem startNode = start)
    (valid : isValidAlgorithm algorithm = true)
    (fit : ∀ sum ∈ Model.dispatchSums problem startNode randomSeed (resolveAlgorithm algorithm),
      Int64.Fits sum)
    (recostedFit : ∀ sum ∈ Model.dispatchSums recosted startNode randomSeed
      (resolveAlgorithm algorithm), Int64.Fits sum)
    (cycles : algorithm = .greedyCheapestInsertion → ∀ node < problem.size, node ≠ start →
      problem.edge start node + problem.edge node start < Int64.maxValue.toInt ∧
        recosted.edge start node + recosted.edge node start < Int64.maxValue.toInt)
    (searched : algorithm = .heldKarp → problem.size ≤ kHeldKarpCutoff ∧
      problem.SumsIn start InsideInf ∧ recosted.SumsIn start InsideInf) :
    ∃ tour twin, Model.dispatch problem startNode randomSeed (resolveAlgorithm algorithm) =
        some (.ok tour) ∧
      Model.dispatch recosted startNode randomSeed (resolveAlgorithm algorithm) =
        some (.ok twin) ∧
      TwinTours problem recosted tour twin := by
  have nonempty : problem.size ≠ 0 := by omega
  have recostedNonempty : recosted.size ≠ 0 := recosts.size_eq ▸ nonempty
  have returned (tour : Tour) := congrArg some (guarded_of_nonempty square nonempty tour)
  have twinReturned (tour : Tour) :=
    congrArg some (guarded_of_nonempty recostedSquare recostedNonempty tour)
  rcases recosts.buildNearestNeighborSeed_eq nonempty small below recostedBelow startNode with
    ⟨seedTour, sameSeed⟩
  have twoOpt
      (seedFit : ∀ sum ∈ twoOptRefineSums problem (buildNearestNeighborSeed problem startNode),
        Int64.Fits sum)
      (twinFit : ∀ sum ∈ twoOptRefineSums recosted (buildNearestNeighborSeed recosted startNode),
        Int64.Fits sum) :
      TwinTours problem recosted
        (twoOptRefine problem (buildNearestNeighborSeed problem startNode))
        (twoOptRefine recosted (buildNearestNeighborSeed recosted startNode)) := by
    rw [sameSeed] at twinFit ⊢
    exact recosts.twoOptRefine_twins several seedTour seedFit twinFit
  cases algorithm with
  | default => exact ⟨_, _, returned _, twinReturned _, twoOpt fit recostedFit⟩
  | localSearch2Opt => exact ⟨_, _, returned _, twinReturned _, twoOpt fit recostedFit⟩
  | greedyNearestNeighbor =>
      refine ⟨_, _, returned _, twinReturned _, ?_⟩
      have routeFit : ∀ sum ∈ routeSums recosted (buildNearestNeighborSeed recosted startNode),
        Int64.Fits sum := recostedFit
      rw [sameSeed] at routeFit ⊢
      exact twinTours_of_routeSums seedTour fit routeFit
  | greedyCheapestInsertion =>
      refine ⟨_, _, returned _, twinReturned _, ?_⟩
      have below := cycles rfl
      rcases recosts.buildCheapestInsertionSeed_eq several small startEq fit
        (fun node nodeLt distinct => (below node nodeLt distinct).1) recostedFit
        (fun node nodeLt distinct => (below node nodeLt distinct).2) with ⟨builtTour, sameOrder⟩
      have routeFit := (List.forall_mem_append.mp fit).2
      have twinFit := (List.forall_mem_append.mp recostedFit).2
      rw [sameOrder] at twinFit ⊢
      exact twinTours_of_routeSums builtTour routeFit twinFit
  | heldKarp =>
      rcases searched rfl with ⟨few, sums, recostedSums⟩
      rw [← startEq] at sums recostedSums
      rcases recosts.heldKarpTour_twins square recostedSquare several few startNode sums
        recostedSums with ⟨tour, twin, found, twinFound, twins⟩
      exact ⟨tour, twin, congrArg some found, congrArg some twinFound, twins⟩
  | metaheuristicIteratedLocalSearch =>
      refine ⟨_, _, returned _, twinReturned _, ?_⟩
      exact recosts.iteratedLocalSearchBest_twins several seedTour sameSeed fit recostedFit
  | unlisted value => simp [isValidAlgorithm] at valid

end Dispatch

end Recosted

namespace Model

/--
What keeps a run of `solve` from its sentinels and from overflow: no distance and
no cycle through the start reaches `INT64_MAX`, all sums fit, and Held-Karp stays
inside its range.
-/
structure WithinLimits (model : Model) (options : Options) : Prop where
  below : ∀ source < model.size, ∀ target < model.size, source ≠ target →
    ∀ distance, model.entry source target = some distance → distance < Int64.maxValue
  sums : ∀ sum ∈ model.solveSums options, Int64.Fits sum
  cycles : options.algorithm = .greedyCheapestInsertion → ∀ start,
    options.randomSeed.toNat % model.size = start → ∀ node < model.size, node ≠ start →
    model.toProblem.edge start node + model.toProblem.edge node start < Int64.maxValue.toInt
  searched : options.algorithm = .heldKarp → model.size ≤ 18 ∧
    model.toProblem.SumsIn (options.randomSeed.toNat % model.size) InsideInf

/-- With `n` times the bound below `kInf` every selectable run is within its limits. -/
theorem Bounded.withinLimits {model : Model} {bound : ℕ} {options : Options}
    (bounded : model.Bounded bound) (wellFormed : model.WellFormed)
    (complete : model.isComplete = true) (several : 2 ≤ model.size)
    (limit : model.size * bound < 2 ^ 61 - 1)
    (few : options.algorithm = .heldKarp → model.size ≤ 18) : model.WithinLimits options := by
  have problemBounded := bounded.toProblem wellFormed complete
  have maximum : Int64.maxValue.toInt = 2 ^ 63 - 1 := rfl
  have twice : 2 * bound ≤ model.size * bound := Nat.mul_le_mul_right bound several
  constructor
  · intro source sourceLt target targetLt distinct distance present
    have distanceLe := abs_le.mp (bounded source sourceLt target targetLt distinct distance present)
    rw [Int64.lt_iff_toInt_lt, maximum]
    omega
  · exact (exact_of_bounded options wellFormed complete bounded (by omega)).1
  · intro _ start _ node _ _
    have forth := abs_le.mp (problemBounded start node)
    have back := abs_le.mp (problemBounded node start)
    omega
  · intro searching
    refine ⟨few searching, ?_⟩
    apply Problem.SumsIn.of_bounded _ (Int.natCast_nonneg bound)
      (fun source _ target _ => problemBounded source target)
    intro sum sumLe
    refine insideInf_of_abs_le ?_ sumLe
    rw [size_toProblem]
    have limitInt : ((model.size * bound : ℕ) : ℤ) < (2 ^ 61 - 1 : ℕ) := Int.ofNat_lt.mpr limit
    push_cast at limitInt
    linarith

section Runs

variable {model recosted : Model} {factor shift : ℤ} {options : Options}
  (recosts : Recosted model.toProblem recosted.toProblem factor shift)
  (complete : model.isComplete = true) (recostedComplete : recosted.isComplete = true)
  (several : 2 ≤ model.size) (small : model.size < 2 ^ 32)
  (valid : isValidAlgorithm options.algorithm = true) (limited : options.timeLimitMs ≠ 0)
  (within : model.WithinLimits options) (recostedWithin : recosted.WithinLimits options)

include recosts complete recostedComplete several small valid limited within recostedWithin

/-- Every solver returns twin tours. -/
theorem solve_twins :
    ∃ tour twin,
      model.solve options = (.ok, some (resultOf (resolveAlgorithm options.algorithm) tour)) ∧
      recosted.solve options = (.ok, some (resultOf (resolveAlgorithm options.algorithm) twin)) ∧
      TwinTours model.toProblem recosted.toProblem tour twin := by
  have nonempty : model.size ≠ 0 := by omega
  have sizeEq : recosted.size = model.size := by simpa using recosts.size_eq
  have recostedNonempty : recosted.size ≠ 0 := by omega
  have startEq := normalizeStartNode_seedStartNode small.le nonempty options.randomSeed
  have sameStart : recosted.seedStartNode options.randomSeed =
      model.seedStartNode options.randomSeed := by
    rw [seedStartNode, seedStartNode, sizeEq]
  have sums := within.sums
  have recostedSums := recostedWithin.sums
  rw [solveSums_eq complete nonempty valid limited] at sums
  rw [solveSums_eq recostedComplete recostedNonempty valid limited, sameStart] at recostedSums
  have recostedBelow := distance_lt_of_entries recostedComplete recostedWithin.below
  have cycles := recostedWithin.cycles
  have searched := recostedWithin.searched
  rw [recosts.size_eq] at recostedBelow
  rw [sizeEq] at cycles searched
  rcases recosts.dispatch_twins (by simpa using several) model.isSquare_toProblem
    recosted.isSquare_toProblem (by simpa using small)
    (distance_lt_of_entries complete within.below) recostedBelow startEq valid sums recostedSums
    (fun inserting node nodeLt distinct =>
      have inside : node < model.size := by simpa using nodeLt
      ⟨within.cycles inserting _ rfl node inside distinct,
        cycles inserting _ rfl node inside distinct⟩)
    (fun searching =>
      have few : model.toProblem.size ≤ 18 := by simpa using (within.searched searching).1
      ⟨few, (within.searched searching).2, (searched searching).2⟩) with
    ⟨tour, twin, outcome, twinOutcome, twins⟩
  refine ⟨tour, twin, solve_of_tour complete valid limited outcome, ?_, twins⟩
  rw [← sameStart] at twinOutcome
  exact solve_of_tour recostedComplete valid limited twinOutcome

end Runs

/--
A positive affine map of all distances leaves the order of every algorithm as it
is and maps the objective, with one shift for each of the `n` steps of the tour.
-/
theorem solve_recosted {model recosted : Model} {factor shift : ℤ} {options : Options}
    (recosts : Recosted model.toProblem recosted.toProblem factor shift)
    (complete : model.isComplete = true) (recostedComplete : recosted.isComplete = true)
    (several : 2 ≤ model.size) (small : model.size < 2 ^ 32)
    (valid : isValidAlgorithm options.algorithm = true) (limited : options.timeLimitMs ≠ 0)
    (within : model.WithinLimits options) (recostedWithin : recosted.WithinLimits options) :
    ∃ result recostedResult, model.solve options = (.ok, some result) ∧
      recosted.solve options = (.ok, some recostedResult) ∧
      recostedResult.tour = result.tour ∧
      recostedResult.objective.toInt =
        factor * result.objective.toInt + model.size * shift := by
  rcases solve_twins recosts complete recostedComplete several small valid limited within
    recostedWithin with ⟨tour, twin, answer, twinAnswer, twins⟩
  refine ⟨_, _, answer, twinAnswer, twins.order_eq, ?_⟩
  have objective := twins.toInt_eq recosts (by simpa using several)
  rw [size_toProblem] at objective
  exact objective

/-- Five nodes with an asymmetric matrix, stretched by 3 and lowered by 4. -/
theorem solve_recosted_five :
    let model := ofMatrix (fun source target => if source < target then 2 else 5) 5
    let recosted := ofMatrix (fun source target => if source < target then 2 else 11) 5
    ∃ result recostedResult,
      model.solve { algorithm := .metaheuristicIteratedLocalSearch, randomSeed := 8 } =
        (.ok, some result) ∧
      recosted.solve { algorithm := .metaheuristicIteratedLocalSearch, randomSeed := 8 } =
        (.ok, some recostedResult) ∧
      recostedResult.tour = result.tour ∧
      recostedResult.objective.toInt = 3 * result.objective.toInt + model.size * -4 := by
  intro model recosted
  have sizeEq (value : ℕ → ℕ → Cost) : (ofMatrix value 5).size = 5 := size_ofMatrix (by decide)
  have within {value : ℕ → ℕ → Cost} (bounded : ∀ source target, |(value source target).toInt| ≤ 11)
      {options : Options} : (ofMatrix value 5).WithinLimits options := by
    refine @Bounded.withinLimits _ 11 _ ?_ (reachable_ofMatrix _ 5).wellFormed
      (isComplete_ofMatrix (by decide)) (by rw [sizeEq]; decide) (by rw [sizeEq]; decide)
      (fun _ => by rw [sizeEq]; decide)
    intro source sourceLt target targetLt distinct distance present
    rw [sizeEq] at sourceLt targetLt
    rw [entry_ofMatrix (by decide) sourceLt targetLt, if_neg distinct] at present
    cases present
    exact bounded source target
  refine solve_recosted ⟨?_, by decide, ?_⟩ (isComplete_ofMatrix (by decide))
    (isComplete_ofMatrix (by decide)) (by rw [sizeEq]; decide) (by rw [sizeEq]; decide) rfl
    (by decide) (within ?_) (within ?_)
  · rw [size_toProblem, size_toProblem, sizeEq, sizeEq]
  · intro source sourceLt target targetLt distinct
    rw [size_toProblem, sizeEq] at sourceLt targetLt
    rw [edge_ofMatrix (by decide) sourceLt targetLt distinct,
      edge_ofMatrix (by decide) sourceLt targetLt distinct]
    split <;> decide
  · intro source target
    split <;> decide
  · intro source target
    split <;> decide

end Model

end TspSolver
