import TspSolver.HeldKarp.Exhaustive

/-!
# Outcomes of `held_karp_tour`

What the function returns for up to 18 nodes: a tour from the normalized start
with its own route cost, or the error that no tour could be constructed. When no
sum overflows, the tour is the least live one, and there is an error only when no
tour is live.
-/

namespace TspSolver

open HeldKarpTables

variable {problem : Problem}

theorem size_lt_of_le_cutoff (small : problem.size ≤ kHeldKarpCutoff) :
    problem.size < 2 ^ 32 := by
  rw [kHeldKarpCutoff] at small
  omega

theorem heldKarpTour_of_large (square : problem.isSquare = true)
    (large : kHeldKarpCutoff < problem.size) (startNode : ℕ) :
    heldKarpTour problem startNode =
      .error (.outOfRange "problem size exceeds held-karp cutoff of 18 nodes") := by
  have nonempty : problem.size ≠ 0 := by
    intro empty
    rw [empty] at large
    exact absurd large (Nat.not_lt_zero _)
  simp [heldKarpTour, square, nonempty, large]

theorem heldKarpTour_of_single (square : problem.isSquare = true) (single : problem.size = 1)
    (startNode : ℕ) :
    heldKarpTour problem startNode = .ok { order := [0], totalCost := problem.distance 0 0 } := by
  simp [heldKarpTour, square, single, kHeldKarpCutoff, normalizeStartNode, toNodeId, Nat.mod_one]

theorem heldKarpTour_of_empty (square : problem.isSquare = true) (empty : problem.size = 0)
    (startNode : ℕ) : heldKarpTour problem startNode = .ok {} := by
  simp [heldKarpTour, square, empty]

/-- On a square matrix the only error is the one that becomes `OUT_OF_RANGE`. -/
theorem heldKarpTour_ok_or_outOfRange (square : problem.isSquare = true) (startNode : ℕ) :
    (∃ tour, heldKarpTour problem startNode = .ok tour) ∨
      ∃ what, heldKarpTour problem startNode = .error (.outOfRange what) := by
  unfold heldKarpTour
  rw [square, Bool.not_true, if_neg Bool.false_ne_true]
  split
  · exact Or.inl ⟨_, rfl⟩
  · split
    · exact Or.inr ⟨_, rfl⟩
    · dsimp only
      split
      · exact Or.inl ⟨_, rfl⟩
      · split
        · exact Or.inr ⟨_, rfl⟩
        · exact Or.inl ⟨_, rfl⟩

/-- The tables behind a call, filled for the normalized start. -/
def searchTables (problem : Problem) (start : ℕ) : HeldKarpTables :=
  heldKarpTables problem start (heldKarpNodes problem start)

/-- The `(best_total, best_last)` behind a call. -/
def searchBest (problem : Problem) (start : ℕ) : Cost × ℕ :=
  closingBest problem start (heldKarpNodes problem start) (searchTables problem start)

/-- The tour of a trail that ends in the best last position. -/
def searchTour (problem : Problem) (start : ℕ) (rest : List ℕ) : Tour where
  order := trailRoute start (heldKarpNodes problem start) ((searchBest problem start).2 :: rest)
  totalCost := (searchBest problem start).1

theorem heldKarpTour_of_several (square : problem.isSquare = true) (several : 2 ≤ problem.size)
    (small : problem.size ≤ kHeldKarpCutoff) {startNode start : ℕ}
    (startEq : normalizeStartNode problem startNode = start) :
    (heldKarpTour problem startNode =
        .error (.outOfRange "held-karp solver could not construct a tour") ∧
      (searchBest problem start).1 = kInf) ∨
    ∃ rest, heldKarpTour problem startNode = .ok (searchTour problem start rest) ∧
      Winner problem start (heldKarpNodes problem start) (searchTables problem start) rest := by
  have nonempty : problem.size ≠ 0 := by omega
  have notSingle : problem.size ≠ 1 := by omega
  have startLt := normalizeStartNode_lt nonempty startNode
  rw [startEq] at startLt
  have sizeLt := size_lt_of_le_cutoff small
  have unfolded : heldKarpTour problem startNode =
      if (searchBest problem start).1 = kInf then
        .error (.outOfRange "held-karp solver could not construct a tour")
      else .ok
        { order := start :: (heldKarpBacktrack start (heldKarpNodes problem start).length
            (searchTables problem start) (heldKarpNodes problem start).length
            (1 <<< (heldKarpNodes problem start).length - 1) (searchBest problem start).2
            [(heldKarpNodes problem start).getD (searchBest problem start).2 0]).reverse
          totalCost := (searchBest problem start).1 } := by
    rw [heldKarpTour, square, if_neg nonempty, if_neg (not_lt.mpr small), if_neg notSingle,
      startEq]
    rfl
  by_cases found : (searchBest problem start).1 = kInf
  · left
    exact ⟨by rw [unfolded, if_pos found], found⟩
  · right
    rcases (filled_heldKarpTables problem start (heldKarpNodes problem start)).exists_winner
      found with ⟨rest, winner⟩
    have lengthEq := (Mask.lists_full_iff.mp winner.chain.lists).length_eq
    rw [List.length_range, List.length_cons] at lengthEq
    have backtracked := winner.chain.backtrack (positionsRecovered_heldKarpNodes sizeLt startLt)
      (full_lt _) (show rest.length ≤ (heldKarpNodes problem start).length by omega)
      [(heldKarpNodes problem start).getD (searchBest problem start).2 0]
    refine ⟨rest, ?_, winner⟩
    rw [unfolded, if_neg found]
    exact congrArg (fun order => Except.ok (Tour.mk (start :: List.reverse order) _)) backtracked

/-- Whatever the sums do, a returned order is a tour from the start with its own route cost. -/
theorem heldKarpTour_tourFrom (square : problem.isSquare = true) (nonempty : problem.size ≠ 0)
    {startNode : ℕ} {tour : Tour} (returned : heldKarpTour problem startNode = .ok tour) :
    problem.TourFrom (normalizeStartNode problem startNode) tour.order ∧
      tour.totalCost = routeCost problem tour.order := by
  by_cases small : problem.size ≤ kHeldKarpCutoff
  · by_cases single : problem.size = 1
    · rw [heldKarpTour_of_single square single] at returned
      cases returned
      refine ⟨⟨?_, ?_⟩, ?_⟩
      · rw [Problem.IsTour, single]
        exact List.Perm.refl _
      · simp [normalizeStartNode, single, toNodeId, Nat.mod_one]
      · simp [routeCost, routeEdge]
    · rcases heldKarpTour_of_several square (by omega) small rfl with
        ⟨failed, _⟩ | ⟨rest, found, winner⟩
      · rw [failed] at returned
        cases returned
      · rw [found] at returned
        cases returned
        have startLt := normalizeStartNode_lt nonempty startNode
        have sizeLt := size_lt_of_le_cutoff small
        refine ⟨tourFrom_trailRoute sizeLt startLt winner.chain.lists, ?_⟩
        rw [routeCost_eq_ofInt]
        exact winner.total.symm.trans (closedTrailCost_eq_ofInt (by simp))
  · rw [heldKarpTour_of_large square (not_le.mp small)] at returned
    cases returned

theorem append_le_append_right {front back : List ℕ} (lengthEq : front.length = back.length)
    (ordered : front ≤ back) (tail : List ℕ) : front ++ tail ≤ back ++ tail := by
  induction front generalizing back with
  | nil =>
      rw [List.length_nil] at lengthEq
      rw [List.length_eq_zero_iff.mp lengthEq.symm]
  | cons left front ih =>
      rcases back with _ | ⟨right, back⟩
      · simp at lengthEq
      · rw [List.cons_append, List.cons_append]
        apply (toLex_cons_le_iff _ _ _ _).mpr
        rcases (toLex_cons_le_iff _ _ _ _).mp ordered with before | ⟨same, rest⟩
        · exact Or.inl before
        · exact Or.inr ⟨same, ih (by simpa using lengthEq) rest⟩

section Exact

variable {start startNode : ℕ} (square : problem.isSquare = true) (several : 2 ≤ problem.size)
  (small : problem.size ≤ kHeldKarpCutoff)
  (startEq : normalizeStartNode problem startNode = start)
  (sums : problem.SumsIn start Int64.Fits)

include square several small startEq sums

/-- Without overflow a live tour makes the call return one that is not after it. -/
theorem heldKarpTour_le {other : List ℕ} (otherTour : problem.TourFrom start other)
    (otherLive : problem.Live other) :
    ∃ tour, heldKarpTour problem startNode = .ok tour ∧ problem.TourFrom start tour.order ∧
      problem.Live tour.order ∧ tour.totalCost.toInt = problem.tourCost tour.order ∧
      (problem.tourCost tour.order < problem.tourCost other ∨
        problem.tourCost tour.order = problem.tourCost other ∧
          tour.order.reverse ≤ other.reverse) := by
  have startLt := normalizeStartNode_lt (show problem.size ≠ 0 by omega) startNode
  rw [startEq] at startLt
  have sizeLt := size_lt_of_le_cutoff small
  have fits := TrailSumsFit.of_sumsIn sizeLt startLt sums
  have tours := TourSumsFit.of_sumsIn sizeLt startLt sums
  rcases exists_trail_of_tourFrom sizeLt startLt otherTour with ⟨trail, lists, rfl⟩
  have trailTour := (liveTour_iff sizeLt startLt several sums lists).mpr otherLive
  rcases (filled_heldKarpTables problem start (heldKarpNodes problem start)).winner_le
    (nodesIncreasing_heldKarpNodes sizeLt startLt) fits tours trailTour with ⟨found, least⟩
  rcases heldKarpTour_of_several square several small startEq with
    ⟨_, missing⟩ | ⟨rest, returned, winner⟩
  · exact absurd missing found
  · have winnerLists := winner.chain.lists
    have trailNonempty : trail ≠ [] := by
      rintro rfl
      exact trailTour.live
    have winnerCost : (searchTour problem start rest).totalCost.toInt =
        problem.tourCost (searchTour problem start rest).order := by
      have closedCost := toInt_closedTrailCost tours winnerLists (by simp)
      rw [winner.total] at closedCost
      exact closedCost
    have trailCost := toInt_closedTrailCost tours lists trailNonempty
    refine ⟨_, returned, tourFrom_trailRoute sizeLt startLt winnerLists,
      (liveTour_iff sizeLt startLt several sums winnerLists).mp winner.tour, winnerCost, ?_⟩
    rw [← trailCost, ← winnerCost]
    rcases Prod.Lex.toLex_le_toLex.mp (least rest winner) with cheaper | ⟨tied, nodesLe⟩
    · exact Or.inl (Int64.lt_iff_toInt_lt.mp cheaper)
    · right
      refine ⟨congrArg Int64.toInt tied, ?_⟩
      simp only [searchTour, trailRoute, List.reverse_cons, List.reverse_reverse]
      apply append_le_append_right _ nodesLe
      have sameLength := (Mask.lists_full_iff.mp winnerLists).length_eq.trans
        (Mask.lists_full_iff.mp lists).length_eq.symm
      simpa [trailNodes] using sameLength

/-- Without overflow the call fails exactly when the search drops every tour. -/
theorem heldKarpTour_eq_error_iff :
    heldKarpTour problem startNode =
        .error (.outOfRange "held-karp solver could not construct a tour") ↔
      ∀ order, problem.TourFrom start order → ¬problem.Live order := by
  constructor
  · intro failed order tour live
    rcases heldKarpTour_le square several small startEq sums tour live with ⟨_, returned, _⟩
    rw [failed] at returned
    cases returned
  · intro noneLive
    have startLt := normalizeStartNode_lt (show problem.size ≠ 0 by omega) startNode
    rw [startEq] at startLt
    have sizeLt := size_lt_of_le_cutoff small
    rcases heldKarpTour_of_several square several small startEq with
      ⟨failed, _⟩ | ⟨rest, _, winner⟩
    · exact failed
    · have lists := winner.chain.lists
      have live := (liveTour_iff sizeLt startLt several sums lists).mp winner.tour
      exact absurd live (noneLive _ (tourFrom_trailRoute sizeLt startLt lists))

end Exact

/-! ## Inside the range of the sentinel -/

/-- The range that the sentinel leaves usable. -/
def InsideInf (sum : ℤ) : Prop := -kInf.toInt < sum ∧ sum < kInf.toInt

theorem insideInf_of_abs_le {bound sum : ℤ} (boundLt : bound < 2 ^ 61 - 1)
    (sumLe : |sum| ≤ bound) : InsideInf sum := by
  have infEq : kInf.toInt = 2 ^ 61 - 1 := by decide
  rw [InsideInf, infEq]
  rcases abs_le.mp sumLe with ⟨lower, upper⟩
  constructor <;> omega

theorem InsideInf.fits {sum : ℤ} (inside : InsideInf sum) : Int64.Fits sum := by
  have infEq : kInf.toInt = 2 ^ 61 - 1 := by decide
  rcases inside with ⟨lower, upper⟩
  rw [infEq] at lower upper
  constructor <;> omega

/-- Where all sums stay inside the range, the search drops no tour. -/
theorem Problem.SumsIn.live {start : ℕ} (sums : problem.SumsIn start InsideInf) {order : List ℕ}
    (tour : problem.TourFrom start order) : problem.Live order := by
  have path {route : List ℕ} (isPrefix : route <+: order) (nonempty : 2 ≤ route.length) :
      Walk.cost problem.edge route < kInf.toInt := by
    refine (sums.paths route ⟨?_, ?_, ?_⟩).2
    · rcases isPrefix with ⟨rest, rfl⟩
      rcases route with _ | ⟨first, route⟩
      · simp at nonempty
      · simpa using tour.head_eq
    · exact tour.isTour.nodup.sublist isPrefix.sublist
    · intro node nodeMem
      exact (tour.isTour.mem_iff node).mp (isPrefix.subset nodeMem)
  exact
    { first_edge := fun route isPrefix lengthEq => (path isPrefix lengthEq.ge).ne
      prefixes := fun route isPrefix longer => path isPrefix (by omega)
      closed := (sums.tours order tour.isTour).2 }

/-- Inside the range of the sentinel the call returns a tour that no other is before. -/
theorem exists_least_tour (square : problem.isSquare = true) (several : 2 ≤ problem.size)
    (small : problem.size ≤ kHeldKarpCutoff) (startNode : ℕ)
    (sums : problem.SumsIn (normalizeStartNode problem startNode) InsideInf) :
    ∃ tour, heldKarpTour problem startNode = .ok tour ∧
      problem.TourFrom (normalizeStartNode problem startNode) tour.order ∧
      tour.totalCost.toInt = problem.tourCost tour.order ∧
      ∀ other, problem.TourFrom (normalizeStartNode problem startNode) other →
        problem.tourCost tour.order < problem.tourCost other ∨
          problem.tourCost tour.order = problem.tourCost other ∧
            tour.order.reverse ≤ other.reverse := by
  have startLt := normalizeStartNode_lt (show problem.size ≠ 0 by omega) startNode
  have fits := sums.mono fun _ inside => inside.fits
  have least {other : List ℕ}
      (otherTour : problem.TourFrom (normalizeStartNode problem startNode) other) :=
    heldKarpTour_le square several small rfl fits otherTour (sums.live otherTour)
  rcases problem.isTour_range.exists_tourFrom startLt with ⟨first, firstTour, _⟩
  rcases least firstTour with ⟨tour, returned, tourFrom, _, costEq, _⟩
  refine ⟨tour, returned, tourFrom, costEq, ?_⟩
  intro other otherTour
  rcases least otherTour with ⟨same, sameReturned, _, _, _, ordered⟩
  rw [returned] at sameReturned
  cases sameReturned
  exact ordered

/--
Inside the range of the sentinel the call returns a tour from the normalized
start. Its total is the least cost of all tours, and read backwards it is the
lexicographically least of the cheapest tours from there.
-/
theorem heldKarpTour_eq_exhaustive_search (square : problem.isSquare = true)
    (nonempty : 1 ≤ problem.size) (small : problem.size ≤ 18) (startNode : ℕ)
    (sums : problem.SumsIn (normalizeStartNode problem startNode) InsideInf) :
    ∃ tour, heldKarpTour problem startNode = .ok tour ∧
      IsLeast {cost | ∃ order, problem.IsTour order ∧ problem.tourCost order = cost}
        tour.totalCost.toInt ∧
      IsLeast {backwards | ∃ order,
          problem.TourFrom (normalizeStartNode problem startNode) order ∧
          problem.tourCost order = tour.totalCost.toInt ∧ order.reverse = backwards}
        tour.order.reverse := by
  by_cases single : problem.size = 1
  · have returned := heldKarpTour_of_single square single startNode
    have orderOf {order : List ℕ} (tour : problem.IsTour order) : order = [0] := by
      rw [tour.eq_range single.le, single]
      rfl
    have onlyTour := problem.isTour_range
    rw [single] at onlyTour
    have startEq : normalizeStartNode problem startNode = 0 := by
      simp [normalizeStartNode, single, toNodeId, Nat.mod_one]
    have costEq : problem.tourCost [0] = (problem.distance 0 0).toInt := by
      simp [Problem.tourCost, Walk.closedCost, Problem.edge]
    rw [startEq]
    refine ⟨_, returned, ⟨⟨[0], onlyTour, costEq⟩, ?_⟩,
      ⟨⟨[0], ⟨onlyTour, rfl⟩, costEq, rfl⟩, ?_⟩⟩
    · rintro _ ⟨order, tour, rfl⟩
      rw [orderOf tour, costEq]
    · rintro _ ⟨order, tour, _, rfl⟩
      rw [orderOf tour.isTour]
  · have startLt := normalizeStartNode_lt (show problem.size ≠ 0 by omega) startNode
    rcases exists_least_tour square (by omega) small startNode sums with
      ⟨tour, returned, tourFrom, costEq, below⟩
    refine ⟨tour, returned, ⟨⟨tour.order, tourFrom.isTour, costEq.symm⟩, ?_⟩,
      ⟨⟨tour.order, tourFrom, costEq.symm, rfl⟩, ?_⟩⟩
    · rintro _ ⟨order, isTour, rfl⟩
      rcases isTour.exists_tourFrom startLt with ⟨turned, turnedTour, turnedCost⟩
      rw [costEq, ← turnedCost]
      rcases below turned turnedTour with cheaper | ⟨tied, _⟩
      · exact cheaper.le
      · exact tied.le
    · rintro _ ⟨order, orderTour, orderCost, rfl⟩
      rcases below order orderTour with cheaper | ⟨_, ordered⟩
      · rw [orderCost, costEq] at cheaper
        exact absurd cheaper (lt_irrefl _)
      · exact ordered

/-- An asymmetric matrix with a negative entry and tied tours, searched from node 2. -/
theorem heldKarpTour_eq_exhaustive_search_four :
    let problem : Problem :=
      { distances := [[0, 1, 1, 4], [-3, 0, 1, 1], [1, 1, 0, 1], [1, 4, 1, 0]] }
    ∃ tour, heldKarpTour problem 2 = .ok tour ∧
      IsLeast {cost | ∃ order, problem.IsTour order ∧ problem.tourCost order = cost}
        tour.totalCost.toInt ∧
      IsLeast {backwards | ∃ order, problem.TourFrom (normalizeStartNode problem 2) order ∧
          problem.tourCost order = tour.totalCost.toInt ∧ order.reverse = backwards}
        tour.order.reverse := by
  refine heldKarpTour_eq_exhaustive_search (by decide) (by decide) (by decide) 2 ?_
  apply Problem.SumsIn.of_bounded _ (show (0 : ℤ) ≤ 4 by decide) (by decide)
  exact fun sum sumLe => insideInf_of_abs_le (by decide) sumLe

end TspSolver
