import TspSolver.LocalSearch.Visited
import TspSolver.Loop.Scan

/-!
# Nearest neighbor

The scan is a running minimum of `(distance, id)` pairs in lexicographic order
with the sentinel `(INT64_MAX, 0)`. It finds the nearest unvisited node unless
every unvisited node is at distance `INT64_MAX` and node 0 is already placed;
then the sentinel wins and node 0 is placed again. The order built is a tour
exactly when the greedy walk never runs into such a dead end.
-/

namespace TspSolver

/-- Distance first, node id second: the order in which candidates are preferred. -/
def Problem.preference (problem : Problem) (current candidate : ℕ) : Cost ×ₗ ℕ :=
  toLex (problem.distance current candidate, candidate)

/-- The unplaced node that the greedy rule takes after `current`. -/
structure IsNearest (problem : Problem) (placed : List ℕ) (current next : ℕ) : Prop where
  next_lt : next < problem.size
  next_notMem : next ∉ placed
  least : ∀ node < problem.size, node ∉ placed →
    problem.preference current next ≤ problem.preference current node

/-- The prefixes of the greedy walk from `start`. -/
inductive GreedyWalk (problem : Problem) (start : ℕ) : List ℕ → ℕ → Prop where
  | start : GreedyWalk problem start [start] start
  | extend {placed : List ℕ} {current next : ℕ} (walk : GreedyWalk problem start placed current)
      (nearest : IsNearest problem placed current next) :
      GreedyWalk problem start (placed ++ [next]) next

/-- Node 0 and `current` are placed, some node is not, and all those are at `INT64_MAX`. -/
structure DeadEnd (problem : Problem) (placed : List ℕ) (current : ℕ) : Prop where
  zero_mem : 0 ∈ placed
  unfinished : placed.length < problem.size
  unreachable : ∀ node < problem.size, node ∉ placed →
    problem.distance current node = Int64.maxValue

/-- The greedy walk from `start` has no dead end. -/
def GreedyWalkCompletes (problem : Problem) (start : ℕ) : Prop :=
  ∀ placed current, GreedyWalk problem start placed current →
    ¬DeadEnd problem placed current

theorem IsNearest.unique {problem : Problem} {placed : List ℕ} {current left right : ℕ}
    (leftNearest : IsNearest problem placed current left)
    (rightNearest : IsNearest problem placed current right) : left = right := by
  have same := le_antisymm
    (leftNearest.least right rightNearest.next_lt rightNearest.next_notMem)
    (rightNearest.least left leftNearest.next_lt leftNearest.next_notMem)
  exact congrArg (fun pair => (ofLex pair).2) same

/-! ## The scan -/

/-- The key of a candidate: none for a visited node. -/
def nearestKey (problem : Problem) (visited : List Bool) (current candidate : ℕ) :
    Option (Cost ×ₗ ℕ) :=
  if visited.getD candidate false then none else some (problem.preference current candidate)

theorem nearestNeighborScan_eq (problem : Problem) (visited : List Bool) (current : ℕ)
    (best : Cost × ℕ) (candidate : ℕ) :
    toLex (nearestNeighborScan problem visited current best candidate) =
      Scan.improve (nearestKey problem visited current) (toLex best) candidate := by
  unfold nearestNeighborScan Scan.improve nearestKey Problem.preference
  by_cases flagged : visited.getD candidate false = true
  · simp only [flagged, if_true]
  · simp only [flagged, Bool.false_eq_true, if_false, Prod.Lex.toLex_lt_toLex]
    split <;> rfl

theorem nearestNeighborNext_eq (problem : Problem) (visited : List Bool) (current : ℕ) :
    nearestNeighborNext problem visited current =
      (ofLex (Scan.least (nearestKey problem visited current) (toLex (Int64.maxValue, 0))
        (List.range (toNodeId problem.size)))).2 := by
  rw [← Scan.foldl_eq_least toLex (nearestNeighborScan_eq problem visited current)
    (Int64.maxValue, 0)]
  rfl

theorem nearestKey_eq_some {problem : Problem} {visited : List Bool} {placed : List ℕ}
    (marks : Marks visited problem.size placed) {current candidate : ℕ}
    (candidateLt : candidate < problem.size) (key : Cost ×ₗ ℕ) :
    nearestKey problem visited current candidate = some key ↔
      candidate ∉ placed ∧ problem.preference current candidate = key := by
  have flag := marks.flag_iff candidate candidateLt
  by_cases here : candidate ∈ placed
  · rw [nearestKey, if_pos (flag.mpr here)]
    simp [here]
  · have unflagged : ¬visited.getD candidate false = true := fun flagged =>
      here (flag.mp flagged)
    rw [nearestKey, if_neg unflagged]
    simp [here]

/-- The next node is a node of the problem, visited or not. -/
theorem nearestNeighborNext_lt {problem : Problem} (nonempty : problem.size ≠ 0)
    (visited : List Bool) (current : ℕ) :
    nearestNeighborNext problem visited current < problem.size := by
  rw [nearestNeighborNext_eq]
  rcases Scan.least_eq_sentinel_or_key (nearestKey problem visited current)
    (toLex (Int64.maxValue, 0)) (List.range (toNodeId problem.size)) with
    sentinel | ⟨candidate, candidateMem, keyed⟩
  · rw [sentinel]
    exact Nat.pos_of_ne_zero nonempty
  · have inRange := List.mem_range.mp candidateMem
    have bounded := toNodeId_le problem.size
    generalize Scan.least (nearestKey problem visited current) (toLex (Int64.maxValue, 0))
      (List.range (toNodeId problem.size)) = key at keyed
    simp only [nearestKey] at keyed
    split at keyed
    · exact absurd keyed (by simp)
    · rw [← Option.some.inj keyed]
      exact inRange.trans_le bounded

/-- Away from dead ends the scan finds the nearest unplaced node; in one it returns node 0. -/
theorem nearestNeighborNext_spec {problem : Problem} (small : problem.size < 2 ^ 32)
    {visited : List Bool} {placed : List ℕ} (marks : Marks visited problem.size placed)
    (unfinished : placed.length < problem.size) (current : ℕ) :
    (IsNearest problem placed current (nearestNeighborNext problem visited current) ∧
      ¬DeadEnd problem placed current) ∨
    (nearestNeighborNext problem visited current = 0 ∧ DeadEnd problem placed current) := by
  rw [nearestNeighborNext_eq, toNodeId_of_lt small]
  have below (node : ℕ) (nodeLt : node < problem.size) (notPlaced : node ∉ placed) :
      Scan.least (nearestKey problem visited current) (toLex (Int64.maxValue, 0))
        (List.range problem.size) ≤ problem.preference current node :=
    Scan.least_le_key (List.mem_range.mpr nodeLt)
      ((nearestKey_eq_some marks nodeLt _).mpr ⟨notPlaced, rfl⟩)
  rcases Scan.least_eq_sentinel_or_key (nearestKey problem visited current)
    (toLex (Int64.maxValue, 0)) (List.range problem.size) with
    sentinel | ⟨candidate, candidateMem, keyed⟩
  · -- The sentinel is below every key, so all unplaced nodes are at the largest cost.
    rw [sentinel] at below ⊢
    have farAway (node : ℕ) (nodeLt : node < problem.size) (notPlaced : node ∉ placed) :
        problem.distance current node = Int64.maxValue := by
      have atMost := Int64.le_iff_toInt_le.mpr (Int64.toInt_le (problem.distance current node))
      rcases Prod.Lex.toLex_le_toLex.mp (below node nodeLt notPlaced) with smaller | ⟨same, _⟩
      · exact absurd smaller (not_lt.mpr atMost)
      · exact same.symm
    by_cases zeroPlaced : 0 ∈ placed
    · exact Or.inr ⟨rfl, zeroPlaced, unfinished, farAway⟩
    · left
      have zeroLt : 0 < problem.size := by omega
      have zeroFar := farAway 0 zeroLt zeroPlaced
      refine ⟨⟨zeroLt, zeroPlaced, ?_⟩, fun deadEnd => zeroPlaced deadEnd.zero_mem⟩
      intro node nodeLt notPlaced
      have nodeFar := farAway node nodeLt notPlaced
      simp only [Problem.preference]
      exact Prod.Lex.toLex_le_toLex.mpr (Or.inr ⟨zeroFar.trans nodeFar.symm, Nat.zero_le _⟩)
  · left
    have candidateLt := List.mem_range.mp candidateMem
    rcases (nearestKey_eq_some marks candidateLt _).mp keyed with ⟨notPlaced, keyEq⟩
    rw [← keyEq] at below ⊢
    refine ⟨⟨candidateLt, notPlaced, below⟩, ?_⟩
    intro deadEnd
    -- In a dead end the candidate's key would be `(INT64_MAX, candidate)` with `0 < candidate`.
    have bound : problem.preference current candidate ≤ toLex (Int64.maxValue, 0) := by
      rw [keyEq]
      exact Scan.least_le_sentinel
    have far := deadEnd.unreachable candidate candidateLt notPlaced
    simp only [Problem.preference, far] at bound
    rcases Prod.Lex.toLex_le_toLex.mp bound with smaller | ⟨_, isZero⟩
    · exact absurd smaller (lt_irrefl _)
    · have candidateEq : candidate = 0 := Nat.le_zero.mp isZero
      exact notPlaced (candidateEq ▸ deadEnd.zero_mem)

/-! ## The built order -/

/-- What every turn keeps: the flags mark the order, which goes from `start` to `current`. -/
structure NearestNeighborState.Coherent (problem : Problem) (start turns : ℕ)
    (state : NearestNeighborState) : Prop where
  marks : Marks state.visited problem.size state.order
  length_eq : state.order.length = turns + 1
  head_eq : state.order.head? = some start
  inRange : ∀ node ∈ state.order, node < problem.size

theorem nearestNeighborStart_coherent {problem : Problem} (nonempty : problem.size ≠ 0)
    (startNode : ℕ) :
    (nearestNeighborStart problem startNode).Coherent problem
      (normalizeStartNode problem startNode) 0 where
  marks := (Marks.nil problem.size).set (normalizeStartNode_lt nonempty startNode)
    (by simp [nearestNeighborStart])
  length_eq := rfl
  head_eq := rfl
  inRange node nodeMem := by
    simp only [nearestNeighborStart, List.mem_singleton] at nodeMem
    rw [nodeMem]
    exact normalizeStartNode_lt nonempty startNode

theorem NearestNeighborState.Coherent.step {problem : Problem} {start turns : ℕ}
    {state : NearestNeighborState} (coherent : state.Coherent problem start turns)
    (nonempty : problem.size ≠ 0) :
    (nearestNeighborStep problem state).Coherent problem start (turns + 1) where
  marks := coherent.marks.set (nearestNeighborNext_lt nonempty _ _) (by
    intro node
    simp only [nearestNeighborStep, List.mem_append, List.mem_singleton]
    exact or_comm)
  length_eq := by simp [nearestNeighborStep, coherent.length_eq]
  head_eq := by
    have first := coherent.head_eq
    simp only [nearestNeighborStep, List.head?_append, first, Option.some_or]
  inRange node nodeMem := by
    simp only [nearestNeighborStep, List.mem_append, List.mem_singleton] at nodeMem
    rcases nodeMem with old | rfl
    · exact coherent.inRange node old
    · exact nearestNeighborNext_lt nonempty _ _

theorem iterate_nearestNeighborStep_coherent {problem : Problem} (nonempty : problem.size ≠ 0)
    (startNode turns : ℕ) :
    ((nearestNeighborStep problem)^[turns] (nearestNeighborStart problem startNode)).Coherent
      problem (normalizeStartNode problem startNode) turns :=
  Loop.iterate_induction
    (fun count (state : NearestNeighborState) =>
      state.Coherent problem (normalizeStartNode problem startNode) count)
    turns (nearestNeighborStart_coherent nonempty startNode)
    (fun _ _ _ coherent => coherent.step nonempty)

theorem length_buildNearestNeighborSeed {problem : Problem} (nonempty : problem.size ≠ 0)
    (startNode : ℕ) : (buildNearestNeighborSeed problem startNode).length = problem.size := by
  have lengthEq :=
    (iterate_nearestNeighborStep_coherent nonempty startNode (problem.size - 1)).length_eq
  simp only [buildNearestNeighborSeed, lengthEq]
  omega

theorem head?_buildNearestNeighborSeed {problem : Problem} (nonempty : problem.size ≠ 0)
    (startNode : ℕ) :
    (buildNearestNeighborSeed problem startNode).head? =
      some (normalizeStartNode problem startNode) :=
  (iterate_nearestNeighborStep_coherent nonempty startNode (problem.size - 1)).head_eq

theorem lt_of_mem_buildNearestNeighborSeed {problem : Problem} (nonempty : problem.size ≠ 0)
    {startNode node : ℕ} (nodeMem : node ∈ buildNearestNeighborSeed problem startNode) :
    node < problem.size :=
  (iterate_nearestNeighborStep_coherent nonempty startNode (problem.size - 1)).inRange
    node nodeMem

/-! ## Dead ends decide -/

theorem GreedyWalk.length_pos {problem : Problem} {start current : ℕ} {placed : List ℕ}
    (walk : GreedyWalk problem start placed current) : 0 < placed.length := by
  cases walk <;> simp

theorem GreedyWalk.nodup {problem : Problem} {start current : ℕ} {placed : List ℕ}
    (walk : GreedyWalk problem start placed current) : placed.Nodup := by
  induction walk with
  | start => simp
  | extend walk nearest ih =>
      rw [List.nodup_append]
      refine ⟨ih, by simp, ?_⟩
      intro node nodeMem other otherMem same
      rw [List.mem_singleton.mp otherMem] at same
      exact nearest.next_notMem (same ▸ nodeMem)

/-- A walk without dead ends is exactly what the loop builds, turn by turn. -/
theorem greedyWalk_of_completes {problem : Problem} (nonempty : problem.size ≠ 0)
    (small : problem.size < 2 ^ 32) {startNode turns : ℕ} (turnsLt : turns < problem.size)
    (completes : GreedyWalkCompletes problem (normalizeStartNode problem startNode)) :
    GreedyWalk problem (normalizeStartNode problem startNode)
      ((nearestNeighborStep problem)^[turns] (nearestNeighborStart problem startNode)).order
      ((nearestNeighborStep problem)^[turns]
        (nearestNeighborStart problem startNode)).current := by
  induction turns with
  | zero => exact GreedyWalk.start
  | succ turns ih =>
      have walk := ih (by omega)
      have coherent := iterate_nearestNeighborStep_coherent nonempty startNode turns
      have unfinished : ((nearestNeighborStep problem)^[turns]
          (nearestNeighborStart problem startNode)).order.length < problem.size := by
        rw [coherent.length_eq]
        omega
      rw [Function.iterate_succ_apply']
      rcases nearestNeighborNext_spec small coherent.marks unfinished
        ((nearestNeighborStep problem)^[turns]
          (nearestNeighborStart problem startNode)).current with
        ⟨nearest, _⟩ | ⟨_, deadEnd⟩
      · exact walk.extend nearest
      · exact absurd deadEnd (completes _ _ walk)

theorem GreedyWalk.lt_of_mem {problem : Problem} {start current : ℕ} {placed : List ℕ}
    (startLt : start < problem.size) (walk : GreedyWalk problem start placed current) :
    ∀ node ∈ placed, node < problem.size := by
  induction walk with
  | start => simpa using startLt
  | extend walk nearest ih =>
      intro node nodeMem
      rcases List.mem_append.mp nodeMem with old | new
      · exact ih node old
      · rw [List.mem_singleton.mp new]
        exact nearest.next_lt

/-- Later turns only append, so a repetition is never repaired. -/
theorem not_nodup_iterate_of_le {problem : Problem} {state : NearestNeighborState}
    {turns later : ℕ} (turnsLe : turns ≤ later)
    (repeated : ¬((nearestNeighborStep problem)^[turns] state).order.Nodup) :
    ¬((nearestNeighborStep problem)^[later] state).order.Nodup := by
  induction later, turnsLe using Nat.le_induction with
  | base => exact repeated
  | succ later _ ih =>
      rw [Function.iterate_succ_apply']
      exact fun nodup => ih (List.nodup_append.mp nodup).1

/--
The choices of a greedy walk are forced: the loop builds the same prefix, unless
an earlier dead end has already made it repeat node 0.
-/
theorem GreedyWalk.iterate_eq_or_repeated {problem : Problem} (nonempty : problem.size ≠ 0)
    (small : problem.size < 2 ^ 32) {startNode current : ℕ} {placed : List ℕ}
    (walk : GreedyWalk problem (normalizeStartNode problem startNode) placed current) :
    (((nearestNeighborStep problem)^[placed.length - 1]
        (nearestNeighborStart problem startNode)).order = placed ∧
      ((nearestNeighborStep problem)^[placed.length - 1]
        (nearestNeighborStart problem startNode)).current = current) ∨
    ¬((nearestNeighborStep problem)^[placed.length - 1]
        (nearestNeighborStart problem startNode)).order.Nodup := by
  have startLt := normalizeStartNode_lt nonempty startNode
  induction walk with
  | start => exact Or.inl ⟨rfl, rfl⟩
  | @extend placed current next walk nearest ih =>
      have turns : (placed ++ [next]).length - 1 = (placed.length - 1) + 1 := by
        have positive := walk.length_pos
        simp only [List.length_append, List.length_singleton]
        omega
      have extended := (walk.extend nearest).nodup
      have inRange := (walk.extend nearest).lt_of_mem startLt
      have coherent :=
        iterate_nearestNeighborStep_coherent nonempty startNode (placed.length - 1)
      rw [turns]
      rcases ih with ⟨orderEq, currentEq⟩ | repeated
      · rw [Function.iterate_succ_apply']
        generalize (nearestNeighborStep problem)^[placed.length - 1]
          (nearestNeighborStart problem startNode) = state at orderEq currentEq coherent ⊢
        subst orderEq currentEq
        have unfinished : state.order.length < problem.size := by
          have fits := (List.subperm_of_subset extended
            (fun node nodeMem => List.mem_range.mpr (inRange node nodeMem))).length_le
          simp only [List.length_append, List.length_singleton, List.length_range] at fits
          omega
        rcases nearestNeighborNext_spec small coherent.marks unfinished state.current with
          ⟨found, _⟩ | ⟨zero, deadEnd⟩
        · left
          simp only [nearestNeighborStep, found.unique nearest, and_self]
        · right
          simp only [nearestNeighborStep, zero]
          intro nodup
          exact (List.nodup_append.mp nodup).2.2 0 deadEnd.zero_mem 0 (by simp) rfl
      · exact Or.inr (not_nodup_iterate_of_le (Nat.le_succ _) repeated)

theorem isTour_buildNearestNeighborSeed_of_completes {problem : Problem}
    (nonempty : problem.size ≠ 0) (small : problem.size < 2 ^ 32) {startNode : ℕ}
    (completes : GreedyWalkCompletes problem (normalizeStartNode problem startNode)) :
    problem.IsTour (buildNearestNeighborSeed problem startNode) := by
  have last : problem.size - 1 < problem.size := by omega
  exact isTour_of_nodup (length_buildNearestNeighborSeed nonempty startNode)
    (greedyWalk_of_completes nonempty small last completes).nodup
    (fun _ nodeMem => lt_of_mem_buildNearestNeighborSeed nonempty nodeMem)

theorem completes_of_isTour_buildNearestNeighborSeed {problem : Problem}
    (nonempty : problem.size ≠ 0) (small : problem.size < 2 ^ 32) {startNode : ℕ}
    (tour : problem.IsTour (buildNearestNeighborSeed problem startNode)) :
    GreedyWalkCompletes problem (normalizeStartNode problem startNode) := by
  intro placed current walk deadEnd
  have positive := walk.length_pos
  have unfinished := deadEnd.unfinished
  have coherent := iterate_nearestNeighborStep_coherent nonempty startNode (placed.length - 1)
  have repeated : ¬((nearestNeighborStep problem)^[placed.length - 1 + 1]
      (nearestNeighborStart problem startNode)).order.Nodup := by
    rcases walk.iterate_eq_or_repeated nonempty small with ⟨orderEq, currentEq⟩ | repeated
    · rw [Function.iterate_succ_apply']
      generalize (nearestNeighborStep problem)^[placed.length - 1]
        (nearestNeighborStart problem startNode) = state at orderEq currentEq coherent ⊢
      subst orderEq currentEq
      rcases nearestNeighborNext_spec small coherent.marks unfinished state.current with
        ⟨_, alive⟩ | ⟨zero, _⟩
      · exact absurd deadEnd alive
      · simp only [nearestNeighborStep, zero]
        intro nodup
        exact (List.nodup_append.mp nodup).2.2 0 deadEnd.zero_mem 0 (by simp) rfl
    · exact not_nodup_iterate_of_le (Nat.le_succ _) repeated
  have within : placed.length - 1 + 1 ≤ problem.size - 1 := by omega
  exact not_nodup_iterate_of_le within repeated tour.nodup

/-- At 2^32 nodes no candidate is scanned and every turn appends node 0. -/
theorem not_isTour_buildNearestNeighborSeed_of_limit {problem : Problem}
    (limit : problem.size = 2 ^ 32) (startNode : ℕ) :
    ¬problem.IsTour (buildNearestNeighborSeed problem startNode) := by
  have chooseZero (visited : List Bool) (current : ℕ) :
      nearestNeighborNext problem visited current = 0 := by
    simp only [nearestNeighborNext, limit, toNodeId_limit]
    rfl
  have repeated : ¬((nearestNeighborStep problem)^[2]
      (nearestNeighborStart problem startNode)).order.Nodup := by
    simp [nearestNeighborStep, chooseZero, nearestNeighborStart]
  intro tour
  have within : 2 ≤ problem.size - 1 := by omega
  exact not_nodup_iterate_of_le within repeated tour.nodup

/-- The order built is a tour exactly when the greedy walk has no dead end. -/
theorem isTour_buildNearestNeighborSeed_iff {problem : Problem} (nonempty : problem.size ≠ 0)
    (sizeLe : problem.size ≤ 2 ^ 32) (startNode : ℕ) :
    problem.IsTour (buildNearestNeighborSeed problem startNode) ↔
      problem.size < 2 ^ 32 ∧
        GreedyWalkCompletes problem (normalizeStartNode problem startNode) := by
  constructor
  · intro tour
    have small : problem.size < 2 ^ 32 := by
      refine lt_of_le_of_ne sizeLe ?_
      intro limit
      exact not_isTour_buildNearestNeighborSeed_of_limit limit startNode tour
    exact ⟨small, completes_of_isTour_buildNearestNeighborSeed nonempty small tour⟩
  · rintro ⟨small, completes⟩
    exact isTour_buildNearestNeighborSeed_of_completes nonempty small completes

/-- Below the sentinel every greedy walk completes. -/
theorem greedyWalkCompletes_of_lt {problem : Problem} {start : ℕ}
    (startLt : start < problem.size)
    (below : ∀ source < problem.size, ∀ target < problem.size, source ≠ target →
      problem.distance source target < Int64.maxValue) :
    GreedyWalkCompletes problem start := by
  intro placed current walk deadEnd
  have currentMem : current ∈ placed := by cases walk <;> simp
  have currentLt := walk.lt_of_mem startLt current currentMem
  rcases exists_notMem_of_length_lt deadEnd.unfinished with ⟨node, nodeLt, notPlaced⟩
  have distinct : current ≠ node := fun same => notPlaced (same ▸ currentMem)
  have short := below current currentLt node nodeLt distinct
  rw [deadEnd.unreachable node nodeLt notPlaced] at short
  exact lt_irrefl _ short

theorem isTour_buildNearestNeighborSeed_of_lt {problem : Problem} (nonempty : problem.size ≠ 0)
    (small : problem.size < 2 ^ 32)
    (below : ∀ source < problem.size, ∀ target < problem.size, source ≠ target →
      problem.distance source target < Int64.maxValue) (startNode : ℕ) :
    problem.IsTour (buildNearestNeighborSeed problem startNode) := by
  apply isTour_buildNearestNeighborSeed_of_completes nonempty small
  exact greedyWalkCompletes_of_lt (normalizeStartNode_lt nonempty startNode) below

end TspSolver
