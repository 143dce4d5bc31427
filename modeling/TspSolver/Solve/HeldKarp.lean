import TspSolver.Solve.Coherence
import Mathlib.Data.List.Permutation
import Mathlib.Data.Finset.Max

/-!
# Held-Karp behind the C interface

The error codes of `solve` and its `OPTIMAL` status rest on the search. Both are
right as long as the sentinel does not get in the way: a failure is an honest
one only above 18 nodes, and the reported tour is cheapest only when the search
keeps some cheapest tour.
-/

namespace TspSolver

namespace Model

/-- Some ordered pair of distinct nodes has no distance. -/
def Undefined (model : Model) : Prop :=
  ∃ source < model.size, ∃ target < model.size, source ≠ target ∧
    model.entry source target = none

/-- The search keeps some tour from the seeded start. -/
def KeepsTour (model : Model) (randomSeed : UInt64) : Prop :=
  ∃ order, model.toProblem.TourFrom (randomSeed.toNat % model.size) order ∧
    model.toProblem.Live order

/-- The search keeps a tour from the seeded start that no tour undercuts. -/
def KeepsCheapestTour (model : Model) (randomSeed : UInt64) : Prop :=
  ∃ order, model.toProblem.TourFrom (randomSeed.toNat % model.size) order ∧
    model.toProblem.Live order ∧
    ∀ other, model.toProblem.IsTour other →
      model.toProblem.tourCost order ≤ model.toProblem.tourCost other

theorem isComplete_iff_not_undefined {calls : List Call}
    (succeed : ∀ call ∈ calls, call.AllocationsSucceed) :
    (({} : Model).run calls).isComplete = true ↔ ¬(({} : Model).run calls).Undefined := by
  have refines := refines_ofHistory calls succeed
  rw [refines.isComplete_iff, ← refines.size_eq]
  constructor
  · rintro written ⟨source, sourceLt, target, targetLt, distinct, missing⟩
    have present := written source sourceLt target targetLt distinct
    rw [← refines.cells source target distinct, missing] at present
    simp at present
  · intro defined source sourceLt target targetLt distinct
    rw [← refines.cells source target distinct]
    by_contra missing
    exact defined ⟨source, sourceLt, target, targetLt, distinct, by simpa using missing⟩

theorem KeepsCheapestTour.keepsTour {model : Model} {randomSeed : UInt64}
    (keeps : model.KeepsCheapestTour randomSeed) : model.KeepsTour randomSeed := by
  rcases keeps with ⟨order, tour, live, _⟩
  exact ⟨order, tour, live⟩

theorem exists_cheapest_tour (problem : Problem) :
    ∃ order, problem.IsTour order ∧
      ∀ other, problem.IsTour other → problem.tourCost order ≤ problem.tourCost other :=
  exists_least_rearrangement problem.tourCost (List.range problem.size)

/-- Sums inside the range of the sentinel keep a cheapest tour. -/
theorem keepsCheapestTour_of_insideInf {model : Model} (nonempty : model.size ≠ 0)
    {randomSeed : UInt64}
    (sums : model.toProblem.SumsIn (randomSeed.toNat % model.size) InsideInf) :
    model.KeepsCheapestTour randomSeed := by
  have startLt := Nat.mod_lt randomSeed.toNat (Nat.pos_of_ne_zero nonempty)
  rcases exists_cheapest_tour model.toProblem with ⟨order, tour, least⟩
  rcases tour.exists_tourFrom (show randomSeed.toNat % model.size < model.toProblem.size by
    rwa [size_toProblem]) with ⟨turned, turnedTour, sameCost⟩
  refine ⟨turned, turnedTour, sums.live turnedTour, ?_⟩
  intro other otherTour
  rw [sameCost]
  exact least other otherTour

/-! ## Error codes -/

/-- The code says exactly whether the model is incomplete or too large for the search. -/
structure ExactCode (model : Model) (options : Options) : Prop where
  invalidModel_iff : (model.solve options).1 = .invalidModel ↔ model.Undefined
  outOfRange_iff : ¬model.Undefined →
    ((model.solve options).1 = .outOfRange ↔
      options.algorithm = .heldKarp ∧ 18 < model.size)
  otherwise_ok : ¬model.Undefined → ¬(options.algorithm = .heldKarp ∧ 18 < model.size) →
    (model.solve options).1 = .ok
  not_internalError : (model.solve options).1 ≠ .internalError

theorem exactCode_of_undefined {model : Model} {options : Options} (undefined : model.Undefined)
    (answer : model.solve options = (.invalidModel, none)) : model.ExactCode options where
  invalidModel_iff := by simp [answer, undefined]
  outOfRange_iff defined := absurd undefined defined
  otherwise_ok defined := absurd undefined defined
  not_internalError := by simp [answer]

theorem exactCode_of_ok {model : Model} {options : Options} (defined : ¬model.Undefined)
    (inRange : ¬(options.algorithm = .heldKarp ∧ 18 < model.size))
    (answer : (model.solve options).1 = .ok) : model.ExactCode options where
  invalidModel_iff := by simp [answer, defined]
  outOfRange_iff _ := by
    rw [answer]
    exact ⟨fun impossible => by simp at impossible, fun large => absurd large inRange⟩
  otherwise_ok _ _ := answer
  not_internalError := by simp [answer]

theorem exactCode_of_outOfRange {model : Model} {options : Options} (defined : ¬model.Undefined)
    (large : options.algorithm = .heldKarp ∧ 18 < model.size)
    (answer : (model.solve options).1 = .outOfRange) : model.ExactCode options where
  invalidModel_iff := by simp [answer, defined]
  outOfRange_iff _ := by simp [answer, large]
  otherwise_ok _ small := absurd large small
  not_internalError := by simp [answer]

section Search

variable {model : Model} {options : Options} (reachable : model.Reachable)
  (complete : model.isComplete = true) (limited : options.timeLimitMs ≠ 0)
  (searching : options.algorithm = .heldKarp) (several : 2 ≤ model.size)
  (small : model.size ≤ 18)
  (sums : model.toProblem.SumsIn (options.randomSeed.toNat % model.size) Int64.Fits)

include reachable complete limited searching several small sums

/-- With a live tour from the start, the run returns a live one that costs no more. -/
theorem solve_of_live {order : List ℕ}
    (tour : model.toProblem.TourFrom (options.randomSeed.toNat % model.size) order)
    (live : model.toProblem.Live order) :
    ∃ found, model.solve options = (.ok, some (resultOf .heldKarp found)) ∧
      model.toProblem.TourFrom (options.randomSeed.toNat % model.size) found.order ∧
      model.toProblem.Live found.order ∧
      found.totalCost.toInt = model.toProblem.tourCost found.order ∧
      model.toProblem.tourCost found.order ≤ model.toProblem.tourCost order := by
  have problemSmall : model.toProblem.size ≤ kHeldKarpCutoff := by rwa [size_toProblem]
  rcases heldKarpTour_le model.isSquare_toProblem (by rwa [size_toProblem]) problemSmall
    (normalizeStartNode_seedStartNode reachable.wellFormed.size_le (by omega) options.randomSeed)
    sums tour live with ⟨found, returned, foundTour, foundLive, costEq, notAfter⟩
  have costLe : model.toProblem.tourCost found.order ≤ model.toProblem.tourCost order := by
    rcases notAfter with cheaper | ⟨tied, _⟩
    · exact cheaper.le
    · exact tied.le
  rcases solve_heldKarp complete limited searching with
    ⟨same, sameReturned, answer⟩ | ⟨_, failed, _⟩
  · rw [returned] at sameReturned
    cases sameReturned
    exact ⟨found, answer, foundTour, foundLive, costEq, costLe⟩
  · rw [returned] at failed
    cases failed

/-- How a Held-Karp run on 2 to 18 nodes ends, when no sum overflows. -/
theorem solve_heldKarp_code :
    (model.solve options).1 = .ok ↔ model.KeepsTour options.randomSeed := by
  have problemSmall : model.toProblem.size ≤ kHeldKarpCutoff := by rwa [size_toProblem]
  have errorIff := heldKarpTour_eq_error_iff model.isSquare_toProblem (by rwa [size_toProblem])
    problemSmall
    (normalizeStartNode_seedStartNode reachable.wellFormed.size_le (by omega) options.randomSeed)
    sums
  constructor
  · intro ok
    by_contra dropped
    have failed := errorIff.mpr fun order tour live => dropped ⟨order, tour, live⟩
    rcases solve_heldKarp complete limited searching with ⟨_, returned, _⟩ | ⟨_, _, answer⟩
    · rw [failed] at returned
      cases returned
    · rw [answer] at ok
      cases ok
  · rintro ⟨order, tour, live⟩
    rcases solve_of_live reachable complete limited searching several small sums tour live with
      ⟨_, answer, _⟩
    rw [answer]

end Search

/-- Without a search on 2 to 18 nodes the algorithm and the size settle the code. -/
theorem exactCode_outside_search {model : Model} {options : Options}
    (defined : ¬model.Undefined) (complete : model.isComplete = true)
    (valid : isValidAlgorithm options.algorithm = true) (limited : options.timeLimitMs ≠ 0)
    (outside : ¬(options.algorithm = .heldKarp ∧ 2 ≤ model.size ∧ model.size ≤ 18)) :
    model.ExactCode options := by
  by_cases empty : model.size = 0
  · apply exactCode_of_ok defined (by omega)
    rw [solve_of_empty complete empty valid limited]
  · by_cases searching : options.algorithm = .heldKarp
    · by_cases large : 18 < model.size
      · have failed := heldKarpTour_of_large model.isSquare_toProblem
          (show kHeldKarpCutoff < model.toProblem.size by rwa [size_toProblem])
          (model.seedStartNode options.randomSeed)
        apply exactCode_of_outOfRange defined ⟨searching, large⟩
        rcases solve_heldKarp complete limited searching with ⟨_, returned, _⟩ | ⟨_, _, answer⟩
        · rw [failed] at returned
          cases returned
        · rw [answer]
      · have single : model.toProblem.size = 1 := by
          rw [size_toProblem]
          by_contra other
          exact outside ⟨searching, by omega, by omega⟩
        have returned := heldKarpTour_of_single model.isSquare_toProblem single
          (model.seedStartNode options.randomSeed)
        apply exactCode_of_ok defined (fun both => large both.2)
        rcases solve_heldKarp complete limited searching with ⟨_, _, answer⟩ | ⟨_, failed, _⟩
        · rw [answer]
        · rw [returned] at failed
          cases failed
    · apply exactCode_of_ok defined (fun both => searching both.1)
      rcases solve_heuristic complete empty valid limited searching with ⟨_, answer, _⟩
      rw [answer]

/-- The code is exact unless a search on 2 to 18 nodes drops every tour. -/
theorem solve_exactCode_iff {calls : List Call}
    (succeed : ∀ call ∈ calls, call.AllocationsSucceed) {options : Options}
    (valid : isValidAlgorithm options.algorithm = true) (limited : options.timeLimitMs ≠ 0)
    (sums : (({} : Model).run calls).isComplete = true →
      (({} : Model).run calls).toProblem.SumsIn
        (options.randomSeed.toNat % (({} : Model).run calls).size) Int64.Fits) :
    (({} : Model).run calls).ExactCode options ↔
      ((({} : Model).run calls).isComplete = true → options.algorithm = .heldKarp →
        2 ≤ (({} : Model).run calls).size → (({} : Model).run calls).size ≤ 18 →
        (({} : Model).run calls).KeepsTour options.randomSeed) := by
  have completeIff := isComplete_iff_not_undefined succeed
  have reachable : (({} : Model).run calls).Reachable := ⟨calls, rfl⟩
  generalize ({} : Model).run calls = model at sums completeIff reachable ⊢
  constructor
  · intro exactCode complete searching several small
    have ok := exactCode.otherwise_ok (completeIff.mp complete) (by omega)
    exact (solve_heldKarp_code reachable complete limited searching several small
      (sums complete)).mp ok
  · intro keeps
    cases complete : model.isComplete with
    | false =>
        have undefined : model.Undefined := by
          by_contra defined
          simp [completeIff.mpr defined] at complete
        exact exactCode_of_undefined undefined (solve_of_incomplete complete options)
    | true =>
        have defined := completeIff.mp complete
        by_cases inside : options.algorithm = .heldKarp ∧ 2 ≤ model.size ∧ model.size ≤ 18
        · rcases inside with ⟨searching, several, small⟩
          apply exactCode_of_ok defined (fun both => absurd both.2 (not_lt.mpr small))
          exact (solve_heldKarp_code reachable complete limited searching several small
            (sums complete)).mpr (keeps complete searching several small)
        · exact exactCode_outside_search defined complete valid limited inside

/-- Distances of absolute value at most 7 between three nodes. -/
theorem sumsIn_of_seven {model : Model} (sizeEq : model.size = 3) (start : ℕ)
    (bounded : ∀ source < model.toProblem.size, ∀ target < model.toProblem.size,
      |model.toProblem.edge source target| ≤ 7) :
    model.toProblem.SumsIn start InsideInf := by
  apply Problem.SumsIn.of_bounded start (by decide) bounded
  intro sum sumLe
  rw [size_toProblem, sizeEq] at sumLe
  exact insideInf_of_abs_le (by decide) sumLe

/-- A complete history of three nodes with a negative distance, searched from node 1. -/
theorem solve_exactCode_iff_three :
    let calls : List Call := [.addNode none, .addNode none, .addNode none, .setDistance 0 1 7,
      .setDistance 1 0 (-3), .setDistance 0 2 4, .setDistance 2 0 2, .setDistance 1 2 5,
      .setDistance 2 1 1]
    (({} : Model).run calls).ExactCode { algorithm := .heldKarp, randomSeed := 4 } := by
  intro calls
  have sums : (({} : Model).run calls).toProblem.SumsIn
      ((4 : UInt64).toNat % (({} : Model).run calls).size) InsideInf :=
    sumsIn_of_seven (by decide) _ (by decide)
  apply (solve_exactCode_iff (by decide) (by decide) (by decide)
    (fun _ => sums.mono fun _ inside => inside.fits)).mpr
  intro _ _ _ _
  exact (keepsCheapestTour_of_insideInf (by decide) sums).keepsTour

/-- Two nodes with the distance `kInf` from node 0: the only tour is dropped. -/
theorem solve_not_exactCode :
    let model := ({} : Model).run [.addNode none, .addNode none,
      .setDistance 0 1 2305843009213693951, .setDistance 1 0 0]
    model.validate = .ok ∧ model.toProblem.SumsIn 0 Int64.Fits ∧
      model.solve { algorithm := .heldKarp } = (.outOfRange, none) ∧
      ¬model.ExactCode { algorithm := .heldKarp } := by
  intro model
  have answer : model.solve { algorithm := .heldKarp } = (.outOfRange, none) := by
    decide +kernel
  refine ⟨by decide, ?_, answer, ?_⟩
  · apply Problem.SumsIn.of_bounded 0 (show (0 : ℤ) ≤ 2 ^ 61 - 1 by decide) (by decide)
    exact fun sum sumLe => Int64.fits_of_abs_le (by decide) sumLe
  · intro exactCode
    have defined : ¬model.Undefined := (isComplete_iff_not_undefined (by decide)).mp (by decide)
    have ok := exactCode.otherwise_ok defined (by decide)
    rw [answer] at ok
    cases ok

/-! ## The status -/

/-- A result with status `OPTIMAL` has the least cost of all tours. -/
def OptimalIsTrue (model : Model) (options : Options) : Prop :=
  ∀ result, model.solve options = (.ok, some result) → result.status = .optimal →
    ∀ order, model.toProblem.IsTour order →
      result.objective.toInt ≤ model.toProblem.tourCost order

/-- Only a search with a time limit other than 0 reports `OPTIMAL`. -/
theorem solve_optimal {model : Model} {options : Options} {result : Result}
    (solved : model.solve options = (.ok, some result)) (optimal : result.status = .optimal) :
    options.algorithm = .heldKarp ∧ options.timeLimitMs ≠ 0 ∧
      ∃ tour, result = resultOf .heldKarp tour ∧
        heldKarpTour model.toProblem (model.seedStartNode options.randomSeed) = .ok tour := by
  by_cases noTime : options.timeLimitMs = 0
  · rw [result_of_no_time noTime solved] at optimal
    cases optimal
  · rcases dispatch_of_solve noTime solved with ⟨-, -, tour, outcome, rfl⟩
    have searched : resolveAlgorithm options.algorithm = .heldKarp := by
      by_contra other
      simp [resultOf, other] at optimal
    rw [searched, dispatch, Option.some.injEq] at outcome
    have requested := (resolveAlgorithm_eq_heldKarp_iff _).mp searched
    exact ⟨requested, noTime, tour, by rw [searched], outcome⟩

/--
`OPTIMAL` is true exactly when the search, on 2 to 18 nodes, keeps a cheapest
tour or drops all of them.
-/
theorem solve_optimalIsTrue_iff {model : Model} {options : Options} (reachable : model.Reachable)
    (complete : model.isComplete = true)
    (sums : model.toProblem.SumsIn (options.randomSeed.toNat % model.size) Int64.Fits) :
    model.OptimalIsTrue options ↔
      (options.algorithm = .heldKarp → options.timeLimitMs ≠ 0 → 2 ≤ model.size →
        model.size ≤ 18 → model.KeepsTour options.randomSeed →
        model.KeepsCheapestTour options.randomSeed) := by
  have problemSquare := model.isSquare_toProblem
  constructor
  · rintro optimalIsTrue searching limited several small ⟨order, tour, live⟩
    rcases solve_of_live reachable complete limited searching several small sums tour live with
      ⟨found, answer, foundTour, foundLive, costEq, _⟩
    refine ⟨found.order, foundTour, foundLive, ?_⟩
    intro other otherTour
    rw [← costEq]
    exact optimalIsTrue _ answer rfl other otherTour
  · intro keeps result solved optimal order orderTour
    rcases solve_optimal solved optimal with ⟨searching, limited, tour, rfl, returned⟩
    by_cases several : 2 ≤ model.size
    · by_cases small : model.size ≤ 18
      · have keepsTour : model.KeepsTour options.randomSeed :=
          (solve_heldKarp_code reachable complete limited searching several small sums).mp
            (by rw [solved])
        rcases keeps searching limited several small keepsTour with
          ⟨cheapest, cheapestTour, cheapestLive, least⟩
        rcases solve_of_live reachable complete limited searching several small sums
          cheapestTour cheapestLive with ⟨found, answer, _, _, costEq, costLe⟩
        rw [solved] at answer
        have sameResult := Option.some.inj (Prod.mk.inj answer).2
        have sameObjective := congrArg (fun result => result.objective.toInt) sameResult
        calc
          (resultOf .heldKarp tour).objective.toInt = found.totalCost.toInt := sameObjective
          _ = model.toProblem.tourCost found.order := costEq
          _ ≤ model.toProblem.tourCost cheapest := costLe
          _ ≤ model.toProblem.tourCost order := least order orderTour
      · rw [heldKarpTour_of_large problemSquare (by
          rw [size_toProblem]
          exact not_le.mp small)] at returned
        cases returned
    · have few : model.toProblem.size ≤ 1 := by
        rw [size_toProblem]
        omega
      have onlyTour := orderTour.eq_range few
      by_cases empty : model.toProblem.size = 0
      · rw [heldKarpTour_of_empty problemSquare empty] at returned
        cases returned
        rw [onlyTour, empty]
        exact le_rfl
      · have single : model.toProblem.size = 1 := by omega
        rw [heldKarpTour_of_single problemSquare single] at returned
        cases returned
        rw [onlyTour, single]
        simp [resultOf, Problem.tourCost, Walk.closedCost, Problem.edge]

/-- Three nodes with negative distances, searched from node 1. -/
theorem solve_optimalIsTrue_iff_three :
    (ofMatrix (fun source target => if source < target then 7 else -3) 3).OptimalIsTrue
      { algorithm := .heldKarp, randomSeed := 4 } := by
  have sums : (ofMatrix (fun source target => if source < target then 7 else -3) 3).toProblem.SumsIn
      ((4 : UInt64).toNat %
        (ofMatrix (fun source target => if source < target then 7 else -3) 3).size) InsideInf :=
    sumsIn_of_seven (by decide) _ (by decide)
  apply (solve_optimalIsTrue_iff (reachable_ofMatrix _ 3) (by decide)
    (sums.mono fun _ inside => inside.fits)).mpr
  intro _ _ _ _ _
  exact keepsCheapestTour_of_insideInf (by decide) sums

/--
Three nodes where the tour over `kInf` and back over `-kInf` costs 0: the search
drops it and reports the other one, of cost 1, as optimal.
-/
theorem solve_not_optimalIsTrue :
    let model := ({} : Model).run [.addNode none, .addNode none, .addNode none,
      .setDistance 0 1 0, .setDistance 1 2 2305843009213693951,
      .setDistance 2 0 (-2305843009213693951), .setDistance 0 2 1, .setDistance 2 1 0,
      .setDistance 1 0 0]
    model.validate = .ok ∧ model.toProblem.SumsIn 0 Int64.Fits ∧
      model.solve { algorithm := .heldKarp } =
        (.ok, some
          { status := .optimal
            algorithm := .heldKarp
            objective := 1
            tour := [0, 2, 1] }) ∧
      model.toProblem.IsTour [0, 1, 2] ∧ model.toProblem.tourCost [0, 1, 2] = 0 := by
  intro model
  refine ⟨by decide, ?_, by decide +kernel, by decide, by decide⟩
  apply Problem.SumsIn.of_bounded 0 (show (0 : ℤ) ≤ 2 ^ 61 - 1 by decide) (by decide)
  exact fun sum sumLe => Int64.fits_of_abs_le (by decide) sumLe

end Model

end TspSolver
