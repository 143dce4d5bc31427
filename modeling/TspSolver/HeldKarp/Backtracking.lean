import TspSolver.HeldKarp.Optimality

/-!
# Safety of the backtracking

The `while (true)` loop of the backtracking as a state machine. Whatever the
sums do, a cell other than `kInf` starts a chain of parent entries, and every
state of the loop lies on the chain of the winner. So no turn reads an entry
without a parent, and the loop breaks when all positions are used up.
-/

namespace TspSolver

open HeldKarpTables

/-! ## The loop as a state machine -/

/-- The variables of the loop. -/
structure BacktrackState where
  mask : ℕ
  last : ℕ
  reversedOrder : List ℕ

/-- The loop starts at the full mask and the best last position. -/
def backtrackStart (nodes : List ℕ) (bestLast : ℕ) : BacktrackState where
  mask := 1 <<< nodes.length - 1
  last := bestLast
  reversedOrder := [nodes.getD bestLast 0]

/-- One turn of the loop, or `none` where it breaks. -/
def backtrackStep (start width : ℕ) (tables : HeldKarpTables) (state : BacktrackState) :
    Option BacktrackState :=
  let previousMask := state.mask ^^^ 1 <<< state.last
  if previousMask = 0 then none
  else
    let previous := tables.parentOf width state.mask state.last
    some
      { mask := previousMask
        last := heldKarpPosition start previous
        reversedOrder := state.reversedOrder ++ [previous] }

/-- The loop goes from one state to another in a number of turns. -/
inductive BacktrackRun (start width : ℕ) (tables : HeldKarpTables) :
    ℕ → BacktrackState → BacktrackState → Prop where
  | refl (state : BacktrackState) : BacktrackRun start width tables 0 state state
  | turn {turns : ℕ} {state next reached : BacktrackState}
      (step : backtrackStep start width tables state = some next)
      (later : BacktrackRun start width tables turns next reached) :
      BacktrackRun start width tables (turns + 1) state reached

/--
What holds whenever the loop tests its break condition: the last position is in
the mask, and unless the loop breaks it reads a table entry that names a node of
the remaining mask.
-/
structure SafeTurn (problem : Problem) (start : ℕ) (nodes : List ℕ) (tables : HeldKarpTables)
    (state : BacktrackState) : Prop where
  last_mem : state.mask.testBit state.last = true
  inside : index nodes.length state.mask state.last < tables.parent.size
  parent_set : state.mask ^^^ 1 <<< state.last ≠ 0 →
    tables.parentOf nodes.length state.mask state.last ≠ noParent
  parent_node : state.mask ^^^ 1 <<< state.last ≠ 0 →
    tables.parentOf nodes.length state.mask state.last < problem.size ∧
      tables.parentOf nodes.length state.mask state.last ≠ start
  parent_remains : state.mask ^^^ 1 <<< state.last ≠ 0 →
    (state.mask ^^^ 1 <<< state.last).testBit
      (heldKarpPosition start (tables.parentOf nodes.length state.mask state.last)) = true

variable {problem : Problem} {start : ℕ} {nodes : List ℕ} {tables : HeldKarpTables}

theorem heldKarpBacktrack_of_none {width turns : ℕ} {state : BacktrackState}
    (stops : backtrackStep start width tables state = none) :
    heldKarpBacktrack start width tables turns state.mask state.last state.reversedOrder =
      state.reversedOrder := by
  unfold backtrackStep at stops
  dsimp only at stops
  split at stops
  · next single =>
      cases turns with
      | zero => rfl
      | succ turns => exact if_pos single
  · cases stops

theorem heldKarpBacktrack_of_some {width turns : ℕ} {state next : BacktrackState}
    (step : backtrackStep start width tables state = some next) :
    heldKarpBacktrack start width tables (turns + 1) state.mask state.last state.reversedOrder =
      heldKarpBacktrack start width tables turns next.mask next.last next.reversedOrder := by
  unfold backtrackStep at step
  dsimp only at step
  split at step
  · cases step
  · next several =>
      cases step
      exact if_neg several

/-- A run up to the break is what the recursion returns, when its bound allows for the turns. -/
theorem BacktrackRun.backtrack_eq {width turns : ℕ} {state final : BacktrackState}
    (run : BacktrackRun start width tables turns state final)
    (stops : backtrackStep start width tables final = none) {bound : ℕ} (enough : turns ≤ bound) :
    heldKarpBacktrack start width tables bound state.mask state.last state.reversedOrder =
      final.reversedOrder := by
  induction run generalizing bound with
  | refl => exact heldKarpBacktrack_of_none stops
  | turn step _ ih =>
      cases bound with
      | zero => exact absurd enough (Nat.not_succ_le_zero _)
      | succ bound =>
          rw [heldKarpBacktrack_of_some step]
          exact ih stops (Nat.le_of_succ_le_succ enough)

/-! ## The invariant -/

/-- The loop has listed the front of a trail, and the rest of the trail is a chain. -/
structure OnTrail (nodes : List ℕ) (tables : HeldKarpTables) (front rest : List ℕ)
    (state : BacktrackState) : Prop where
  mask_lt : state.mask < 1 <<< nodes.length
  chain : Chain nodes tables state.mask (state.last :: rest)
  listed : state.reversedOrder = trailNodes nodes (front ++ [state.last])

/-- The loop breaks at the end of the trail and goes one position further before it. -/
theorem OnTrail.step (recovered : PositionsRecovered start nodes) {front rest : List ℕ}
    {state : BacktrackState} (onTrail : OnTrail nodes tables front rest state) :
    (rest = [] ∧ backtrackStep start nodes.length tables state = none) ∨
    ∃ next shorter, backtrackStep start nodes.length tables state = some next ∧
      rest = next.last :: shorter ∧
      OnTrail nodes tables (front ++ [state.last]) shorter next := by
  by_cases single : state.mask ^^^ 1 <<< state.last = 0
  · left
    exact ⟨onTrail.chain.eq_nil single, if_pos single⟩
  · right
    rcases onTrail.chain.exists_parent single with ⟨previous, shorter, restEq, parent, chain⟩
    have smaller := (Mask.clear_lt onTrail.chain.lists.head).trans onTrail.mask_lt
    have previousLt := Mask.lt_width_of_testBit smaller chain.lists.head
    have lastEq : heldKarpPosition start
        (tables.parentOf nodes.length state.mask state.last) = previous := by
      rw [parent, recovered previous previousLt]
    refine ⟨_, shorter, if_neg single, ?_, smaller, ?_, ?_⟩
    · rw [restEq, lastEq]
    · rwa [lastEq]
    · rw [onTrail.listed, lastEq, parent]
      simp [trailNodes]

/-- Every state of a run is on the trail, as many positions further as the run has turns. -/
theorem OnTrail.run (recovered : PositionsRecovered start nodes) {front rest : List ℕ}
    {turns : ℕ} {state reached : BacktrackState}
    (run : BacktrackRun start nodes.length tables turns state reached)
    (onTrail : OnTrail nodes tables front rest state) :
    ∃ listed remaining, OnTrail nodes tables listed remaining reached ∧
      turns + remaining.length = rest.length := by
  induction run generalizing front rest with
  | refl => exact ⟨front, rest, onTrail, Nat.zero_add _⟩
  | turn step _ ih =>
      rcases onTrail.step recovered with ⟨_, stops⟩ | ⟨next, shorter, taken, restEq, further⟩
      · rw [stops] at step
        cases step
      · rw [taken] at step
        cases step
        rcases ih further with ⟨listed, remaining, reachedOn, lengthEq⟩
        refine ⟨listed, remaining, reachedOn, ?_⟩
        rw [restEq, List.length_cons, ← lengthEq]
        omega

/-- The loop breaks after the whole trail is listed. -/
theorem OnTrail.exists_stop (recovered : PositionsRecovered start nodes) {front rest : List ℕ}
    {state : BacktrackState} (onTrail : OnTrail nodes tables front rest state) :
    ∃ final, BacktrackRun start nodes.length tables rest.length state final ∧
      backtrackStep start nodes.length tables final = none ∧
      final.reversedOrder = trailNodes nodes (front ++ state.last :: rest) := by
  induction rest generalizing front state with
  | nil =>
      rcases onTrail.step recovered with ⟨_, stops⟩ | ⟨_, _, _, restEq, _⟩
      · exact ⟨state, BacktrackRun.refl state, stops, onTrail.listed⟩
      · cases restEq
  | cons position rest ih =>
      rcases onTrail.step recovered with ⟨restEq, _⟩ | ⟨next, shorter, taken, restEq, further⟩
      · cases restEq
      · cases restEq
        rcases ih further with ⟨final, later, stops, listed⟩
        refine ⟨final, BacktrackRun.turn taken later, stops, ?_⟩
        rw [listed, List.append_assoc, List.singleton_append]

/-! ## Safety -/

theorem OnTrail.safeTurn (small : problem.size < 2 ^ 32) (startLt : start < problem.size)
    (sized : tables.Sized (heldKarpNodes problem start).length) {front rest : List ℕ}
    {state : BacktrackState}
    (onTrail : OnTrail (heldKarpNodes problem start) tables front rest state) :
    SafeTurn problem start (heldKarpNodes problem start) tables state := by
  have member := onTrail.chain.lists.head
  have lastLt := Mask.lt_width_of_testBit onTrail.mask_lt member
  have parents : state.mask ^^^ 1 <<< state.last ≠ 0 → ∃ previous,
      (state.mask ^^^ 1 <<< state.last).testBit previous = true ∧
        previous < (heldKarpNodes problem start).length ∧
        tables.parentOf (heldKarpNodes problem start).length state.mask state.last =
          (heldKarpNodes problem start).getD previous 0 := by
    intro several
    rcases onTrail.chain.exists_parent several with ⟨previous, _, _, parent, chain⟩
    have smaller := (Mask.clear_lt member).trans onTrail.mask_lt
    have previousMem := chain.lists.head
    exact ⟨previous, previousMem, Mask.lt_width_of_testBit smaller previousMem, parent⟩
  refine ⟨member, ?_, ?_, ?_, ?_⟩
  · rw [sized.parent_size]
    exact index_lt onTrail.mask_lt lastLt
  all_goals
    intro several
    rcases parents several with ⟨previous, previousMem, previousLt, parent⟩
    have node := (mem_heldKarpNodes_iff small).mp (getD_mem_heldKarpNodes previousLt)
    rw [parent]
  · rw [noParent]
    omega
  · exact node
  · rwa [positionsRecovered_heldKarpNodes small startLt previous previousLt]

/--
Either the search fails before the backtracking, or the backtracking reads set
parent entries of remaining nodes only, breaks with all nodes but the start
listed, and the returned order is a permutation from the start.
-/
def BacktrackingSafe (problem : Problem) (startNode : ℕ) : Prop :=
  let start := normalizeStartNode problem startNode
  let nodes := heldKarpNodes problem start
  let tables := heldKarpTables problem start nodes
  let best := closingBest problem start nodes tables
  (best.1 = kInf ∧ heldKarpTour problem startNode =
    .error (.outOfRange "held-karp solver could not construct a tour")) ∨
  ∃ tour final, heldKarpTour problem startNode = .ok tour ∧
    BacktrackRun start nodes.length tables (problem.size - 2) (backtrackStart nodes best.2) final ∧
    backtrackStep start nodes.length tables final = none ∧
    heldKarpBacktrack start nodes.length tables nodes.length (1 <<< nodes.length - 1) best.2
      [nodes.getD best.2 0] = final.reversedOrder ∧
    final.reversedOrder.length = problem.size - 1 ∧
    tour.order = start :: final.reversedOrder.reverse ∧
    problem.TourFrom start tour.order ∧
    ∀ turns state,
      BacktrackRun start nodes.length tables turns (backtrackStart nodes best.2) state →
      turns ≤ problem.size - 2 ∧ SafeTurn problem start nodes tables state

theorem heldKarpTour_backtrackingSafe {problem : Problem} (square : problem.isSquare = true)
    (several : 2 ≤ problem.size) (small : problem.size ≤ 18) (startNode : ℕ) :
    BacktrackingSafe problem startNode := by
  unfold BacktrackingSafe
  intro start nodes tables best
  have nonempty : problem.size ≠ 0 := by omega
  have sizeLt := size_lt_of_le_cutoff small
  have startLt : start < problem.size := normalizeStartNode_lt nonempty startNode
  have recovered : PositionsRecovered start nodes :=
    positionsRecovered_heldKarpNodes sizeLt startLt
  rcases heldKarpTour_of_several square several small rfl with
    ⟨failed, noTotal⟩ | ⟨rest, returned, winner⟩
  · exact Or.inl ⟨noTotal, failed⟩
  · right
    have onTrail : OnTrail nodes tables [] rest (backtrackStart nodes best.2) :=
      ⟨full_lt nodes, winner.chain, rfl⟩
    have nodesEq : nodes.length = problem.size - 1 := length_heldKarpNodes sizeLt startLt
    have lengthEq := (Mask.lists_full_iff.mp winner.chain.lists).length_eq
    rw [List.length_range, List.length_cons, nodesEq] at lengthEq
    have turnsEq : rest.length = problem.size - 2 := by omega
    rcases onTrail.exists_stop recovered with ⟨final, run, stops, listed⟩
    rw [turnsEq] at run
    refine ⟨_, final, returned, run, stops, run.backtrack_eq stops (by omega), ?_, ?_,
      (heldKarpTour_tourFrom square nonempty returned).1, ?_⟩
    · rw [listed]
      simp only [trailNodes, List.length_map, List.nil_append, List.length_cons]
      omega
    · rw [listed]
      rfl
    · intro turns state reachedRun
      rcases onTrail.run recovered reachedRun with ⟨front, remaining, reachedOn, countEq⟩
      refine ⟨by omega, ?_⟩
      exact reachedOn.safeTurn sizeLt startLt (sized_heldKarpTables problem start nodes)

/-- Three nodes where one way around avoids the edges at the sentinel value and the one above. -/
theorem heldKarpTour_backtrackingSafe_three :
    let problem : Problem :=
      { distances := [[0, kInf, 1], [1, 0, kInf], [kInf + 1, 1, 0]] }
    heldKarpTour problem 1 = .ok { order := [1, 0, 2], totalCost := 3 } ∧
      BacktrackingSafe problem 1 := by
  intro problem
  exact ⟨by decide, heldKarpTour_backtrackingSafe (by decide) (by decide) (by decide) 1⟩

end TspSolver
