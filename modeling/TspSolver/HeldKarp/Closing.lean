import TspSolver.HeldKarp.Trails
import Mathlib.Data.List.Nodup
import Mathlib.Data.List.Range

/-!
# Closing and backtracking

The closing scan returns from every last position to the start; the
backtracking follows the parent entries of the winner. Together they produce a
live trail over all positions of the reported cost, and the least one when no
sum overflows.
-/

namespace TspSolver

open HeldKarpTables

variable {problem : Problem} {start : ℕ} {nodes : List ℕ} {tables : HeldKarpTables}

/-! ## The closing scan -/

/-- A trail with the edge back to the start, on machine words. -/
def closedTrailCost (problem : Problem) (start : ℕ) (nodes : List ℕ) : List ℕ → Cost
  | [] => 0
  | last :: rest =>
      trailCost problem start nodes (last :: rest) + problem.distance (nodes.getD last 0) start

theorem tourCost_trailRoute (last : ℕ) (rest : List ℕ) :
    problem.tourCost (trailRoute start nodes (last :: rest)) =
      Walk.cost problem.edge (trailRoute start nodes (last :: rest)) +
        problem.edge (nodes.getD last 0) start := by
  have route : trailRoute start nodes (last :: rest) =
      (start :: (trailNodes nodes rest).reverse) ++ [nodes.getD last 0] := by
    simp [trailRoute, trailNodes]
  have closed : problem.tourCost (trailRoute start nodes (last :: rest)) =
      Walk.cost problem.edge (trailRoute start nodes (last :: rest) ++ [start]) := rfl
  rw [closed, route, List.append_assoc, List.singleton_append, Walk.cost_concat_concat]

theorem closedTrailCost_eq_ofInt {trail : List ℕ} (nonempty : trail ≠ []) :
    closedTrailCost problem start nodes trail =
      Int64.ofInt (problem.tourCost (trailRoute start nodes trail)) := by
  cases trail with
  | nil => exact absurd rfl nonempty
  | cons last rest =>
      rw [closedTrailCost, trailCost_eq_ofInt (by simp), tourCost_trailRoute, Problem.edge,
        Int64.ofInt_add_toInt]

/-- A trail over all positions that the search does not drop. -/
structure LiveTour (problem : Problem) (start : ℕ) (nodes : List ℕ) (trail : List ℕ) : Prop where
  lists : Mask.Lists (1 <<< nodes.length - 1) trail
  live : LiveTrail problem start nodes trail
  closed : closedTrailCost problem start nodes trail < kInf

/-- What the closing scan minimizes: the closed cost first, then the last position. -/
def closingKey (problem : Problem) (start : ℕ) (nodes : List ℕ) (tables : HeldKarpTables)
    (last : ℕ) : Option (Cost ×ₗ ℕ) :=
  if tables.cost nodes.length (1 <<< nodes.length - 1) last = kInf then none
  else some (toLex (tables.cost nodes.length (1 <<< nodes.length - 1) last +
    problem.distance (nodes.getD last 0) start, last))

theorem heldKarpClosing_eq (problem : Problem) (start : ℕ) (nodes : List ℕ)
    (tables : HeldKarpTables) (best : Cost × ℕ) (last : ℕ) :
    toLex (heldKarpClosing problem start nodes tables best last) =
      Scan.improve (closingKey problem start nodes tables) (toLex best) last := by
  unfold heldKarpClosing Scan.improve closingKey
  by_cases unreached : tables.cost nodes.length (1 <<< nodes.length - 1) last = kInf
  · simp only [if_pos unreached]
  · simp only [if_neg unreached, Prod.Lex.toLex_lt_toLex]
    split <;> rfl

/-- The `(best_total, best_last)` with which the closing scan ends. -/
def closingBest (problem : Problem) (start : ℕ) (nodes : List ℕ) (tables : HeldKarpTables) :
    Cost × ℕ :=
  (List.range nodes.length).foldl (heldKarpClosing problem start nodes tables) (kInf, 0)

theorem closingBest_eq_least (problem : Problem) (start : ℕ) (nodes : List ℕ)
    (tables : HeldKarpTables) :
    toLex (closingBest problem start nodes tables) =
      Scan.least (closingKey problem start nodes tables) (toLex (kInf, 0))
        (List.range nodes.length) :=
  Scan.foldl_eq_least toLex (heldKarpClosing_eq problem start nodes tables) (kInf, 0)

/-- The closing scan considers every reached last position. -/
theorem closingBest_le (problem : Problem) (start : ℕ) {last : ℕ} (lastLt : last < nodes.length)
    (reached : tables.cost nodes.length (1 <<< nodes.length - 1) last ≠ kInf) :
    toLex (closingBest problem start nodes tables) ≤
      toLex (tables.cost nodes.length (1 <<< nodes.length - 1) last +
        problem.distance (nodes.getD last 0) start, last) := by
  rw [closingBest_eq_least]
  apply Scan.least_le_key (List.mem_range.mpr lastLt)
  rw [closingKey, if_neg reached]

theorem full_lt (nodes : List ℕ) : 1 <<< nodes.length - 1 < 1 <<< nodes.length := by
  have positive : 0 < 1 <<< nodes.length := by
    rw [Nat.one_shiftLeft]
    exact Nat.two_pow_pos _
  omega

/-- The trail behind the outcome of the closing scan, without its last position. -/
structure Winner (problem : Problem) (start : ℕ) (nodes : List ℕ) (tables : HeldKarpTables)
    (rest : List ℕ) : Prop where
  chain : Chain nodes tables (1 <<< nodes.length - 1)
    ((closingBest problem start nodes tables).2 :: rest)
  tour : LiveTour problem start nodes ((closingBest problem start nodes tables).2 :: rest)
  total : closedTrailCost problem start nodes
    ((closingBest problem start nodes tables).2 :: rest) =
      (closingBest problem start nodes tables).1

/-- A total other than `kInf` is the cost of a live tour that the parent table spells out. -/
theorem Filled.exists_winner (filled : Filled problem start nodes tables)
    (found : (closingBest problem start nodes tables).1 ≠ kInf) :
    ∃ rest, Winner problem start nodes tables rest := by
  have leastEq := closingBest_eq_least problem start nodes tables
  have belowSentinel : toLex (closingBest problem start nodes tables) ≤ toLex (kInf, 0) := by
    rw [leastEq]
    exact Scan.least_le_sentinel
  have below : (closingBest problem start nodes tables).1 < kInf := by
    rcases Prod.Lex.toLex_le_toLex.mp belowSentinel with smaller | ⟨same, _⟩
    · exact smaller
    · exact absurd same found
  rcases Scan.least_eq_sentinel_or_key (closingKey problem start nodes tables)
    (toLex (kInf, 0)) (List.range nodes.length) with atSentinel | ⟨last, lastMem, keyed⟩
  · rw [← leastEq] at atSentinel
    exact absurd (congrArg (fun pair => (ofLex pair).1) atSentinel) found
  · rw [← leastEq] at keyed
    have lastLt := List.mem_range.mp lastMem
    by_cases unreached : tables.cost nodes.length (1 <<< nodes.length - 1) last = kInf
    · rw [closingKey, if_pos unreached] at keyed
      exact absurd keyed (by simp)
    · rw [closingKey, if_neg unreached] at keyed
      have keyEq := toLex.injective (Option.some.inj keyed)
      have member : (1 <<< nodes.length - 1).testBit last = true := by
        rw [Mask.testBit_full]
        exact decide_eq_true lastLt
      rcases filled.exists_chain (full_lt nodes) member unreached with ⟨rest, chain, live, costEq⟩
      have closedEq : closedTrailCost problem start nodes (last :: rest) =
          (closingBest problem start nodes tables).1 := by
        rw [closedTrailCost, costEq]
        exact congrArg Prod.fst keyEq
      have lastEq : last = (closingBest problem start nodes tables).2 := congrArg Prod.snd keyEq
      subst lastEq
      exact ⟨rest, chain, ⟨chain.lists, live, closedEq ▸ below⟩, closedEq⟩

/-- No tour sum leaves the 64-bit range. -/
def TourSumsFit (problem : Problem) (start : ℕ) (nodes : List ℕ) : Prop :=
  ∀ trail, Mask.Lists (1 <<< nodes.length - 1) trail →
    Int64.Fits (problem.tourCost (trailRoute start nodes trail))

theorem toInt_closedTrailCost (tours : TourSumsFit problem start nodes) {trail : List ℕ}
    (lists : Mask.Lists (1 <<< nodes.length - 1) trail) (nonempty : trail ≠ []) :
    (closedTrailCost problem start nodes trail).toInt =
      problem.tourCost (trailRoute start nodes trail) := by
  rw [closedTrailCost_eq_ofInt nonempty, Int64.toInt_ofInt_of_fits (tours trail lists)]

theorem toInt_closedTrailCost_cons (fits : TrailSumsFit problem start nodes)
    (tours : TourSumsFit problem start nodes) {last : ℕ} {rest : List ℕ}
    (lists : Mask.Lists (1 <<< nodes.length - 1) (last :: rest)) :
    (closedTrailCost problem start nodes (last :: rest)).toInt =
      (trailCost problem start nodes (last :: rest)).toInt +
        problem.edge (nodes.getD last 0) start := by
  rw [toInt_closedTrailCost tours lists (by simp), tourCost_trailRoute,
    toInt_trailCost fits (full_lt nodes) lists (by simp)]

/-- Without overflow a live tour makes the search succeed with a tour that is not after it. -/
theorem Filled.winner_le (filled : Filled problem start nodes tables)
    (increasing : NodesIncreasing nodes) (fits : TrailSumsFit problem start nodes)
    (tours : TourSumsFit problem start nodes) {trail : List ℕ}
    (tour : LiveTour problem start nodes trail) :
    (closingBest problem start nodes tables).1 ≠ kInf ∧
      ∀ rest, Winner problem start nodes tables rest →
        toLex ((closingBest problem start nodes tables).1,
            trailNodes nodes ((closingBest problem start nodes tables).2 :: rest)) ≤
          toLex (closedTrailCost problem start nodes trail, trailNodes nodes trail) := by
  rcases trail with _ | ⟨last, front⟩
  · exact tour.live.elim
  · have lists := tour.lists
    have lastLt := Mask.lt_width_of_testBit (full_lt nodes) lists.head
    rcases filled.chain_le increasing fits (full_lt nodes) lists tour.live with ⟨reached, least⟩
    rcases filled.exists_chain (full_lt nodes) lists.head reached with
      ⟨best, bestChain, _, bestCost⟩
    have bestSum := toInt_closedTrailCost_cons fits tours bestChain.lists
    have trailSum := toInt_closedTrailCost_cons fits tours lists
    have totalLe := closingBest_le problem start lastLt reached
    rw [← bestCost] at totalLe
    have candidateLe : closedTrailCost problem start nodes (last :: best) ≤
        closedTrailCost problem start nodes (last :: front) := by
      have costLe := Prod.Lex.monotone_fst _ _ (least best bestChain)
      rw [← bestCost] at costLe
      exact (Int64.le_iff_of_toInt_add bestSum trailSum).mpr costLe
    rcases Scan.le_and_rank_le_of_le totalLe candidateLe with ⟨totalCostLe, ties⟩
    refine ⟨(lt_of_le_of_lt totalCostLe tour.closed).ne, ?_⟩
    intro rest winner
    have chain := winner.chain
    apply Prod.Lex.toLex_le_toLex.mpr
    rcases lt_or_eq_of_le totalCostLe with cheaper | tied
    · exact Or.inl cheaper
    · right
      refine ⟨tied, ?_⟩
      rcases ties tied with ⟨candidateTied, lastLe⟩
      rcases lt_or_eq_of_le lastLe with before | same
      · simp only [trailNodes, List.map_cons]
        apply (toLex_cons_le_iff _ _ _ _).mpr
        exact Or.inl (increasing _ _ before lastLt)
      · rw [same] at chain ⊢
        have costTied : tables.cost nodes.length (1 <<< nodes.length - 1) last =
            trailCost problem start nodes (last :: front) := by
          rw [← bestCost]
          exact (Int64.eq_iff_of_toInt_add bestSum trailSum).mp candidateTied
        rcases Prod.Lex.toLex_le_toLex.mp (least rest chain) with cheaper | ⟨_, nodesLe⟩
        · exact absurd costTied cheaper.ne
        · exact nodesLe

/-! ## Backtracking -/

/-- `heldKarpPosition` undoes the naming of positions. -/
def PositionsRecovered (start : ℕ) (nodes : List ℕ) : Prop :=
  ∀ position < nodes.length, heldKarpPosition start (nodes.getD position 0) = position

/-- The loop of the backtracking appends the nodes of a chain behind its first one. -/
theorem Chain.backtrack (recovered : PositionsRecovered start nodes) {mask last : ℕ}
    {rest : List ℕ} (maskLt : mask < 1 <<< nodes.length)
    (chain : Chain nodes tables mask (last :: rest)) {turns : ℕ}
    (enough : rest.length ≤ turns) (reversedOrder : List ℕ) :
    heldKarpBacktrack start nodes.length tables turns mask last reversedOrder =
      reversedOrder ++ trailNodes nodes rest := by
  induction rest generalizing mask last turns reversedOrder with
  | nil =>
      have single := Mask.clear_eq_zero_iff.mpr
        (chain.lists.mask_eq (Mask.Lists.singleton last))
      cases turns with
      | zero => simp [heldKarpBacktrack, trailNodes]
      | succ turns => simp [heldKarpBacktrack, trailNodes, single]
  | cons previous rest ih =>
      have several : mask ^^^ 1 <<< last ≠ 0 := by
        intro single
        simpa using chain.eq_nil single
      rcases chain.exists_parent several with ⟨parent, shorter, restEq, parentEq, furtherChain⟩
      cases restEq
      cases turns with
      | zero => simp at enough
      | succ turns =>
          have smaller := (Mask.clear_lt chain.lists.head).trans maskLt
          have previousLt := Mask.lt_width_of_testBit smaller furtherChain.lists.head
          simp only [heldKarpBacktrack, if_neg several, parentEq, recovered previous previousLt]
          rw [ih smaller furtherChain (by simpa using enough)]
          simp [trailNodes]

end TspSolver
