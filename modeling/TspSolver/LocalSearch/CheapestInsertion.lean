import TspSolver.LocalSearch.Visited
import TspSolver.Loop.Scan

/-!
# Cheapest insertion

The second node is a running minimum of `(cycle cost, id)` pairs with the
sentinel `(INT64_MAX, first)`. The sentinel wins only against candidates with a
larger id whose two-edge cycle costs `INT64_MAX`, so only when the first node is
0. Every later insertion has a `found` flag and always places an unvisited node
behind the first position.
-/

namespace TspSolver

/-! ## The second node -/

/-- Cycle cost first, node id second. -/
def Problem.cyclePreference (problem : Problem) (first candidate : ℕ) : Cost ×ₗ ℕ :=
  toLex (cycleCost problem first candidate, candidate)

/-- The key of a candidate for the second node: none for a visited node. -/
def secondKey (problem : Problem) (visited : List Bool) (first candidate : ℕ) :
    Option (Cost ×ₗ ℕ) :=
  if visited.getD candidate false then none else some (problem.cyclePreference first candidate)

theorem secondNodeScan_eq (problem : Problem) (visited : List Bool) (first : ℕ)
    (best : Cost × ℕ) (candidate : ℕ) :
    toLex (secondNodeScan problem visited first best candidate) =
      Scan.improve (secondKey problem visited first) (toLex best) candidate := by
  unfold secondNodeScan Scan.improve secondKey Problem.cyclePreference
  by_cases flagged : visited.getD candidate false = true
  · simp only [flagged, if_true]
  · simp only [flagged, Bool.false_eq_true, if_false, Prod.Lex.toLex_lt_toLex]
    split <;> rfl

theorem secondNode_eq (problem : Problem) (visited : List Bool) (first : ℕ) :
    secondNode problem visited first =
      (ofLex (Scan.least (secondKey problem visited first) (toLex (Int64.maxValue, first))
        (List.range (toNodeId problem.size)))).2 := by
  rw [← Scan.foldl_eq_least toLex (secondNodeScan_eq problem visited first)
    (Int64.maxValue, first)]
  rfl

theorem secondKey_eq_some {problem : Problem} {visited : List Bool} {first : ℕ}
    (marks : Marks visited problem.size [first]) {candidate : ℕ}
    (candidateLt : candidate < problem.size) (key : Cost ×ₗ ℕ) :
    secondKey problem visited first candidate = some key ↔
      candidate ≠ first ∧ problem.cyclePreference first candidate = key := by
  have flag := marks.flag_iff candidate candidateLt
  rw [List.mem_singleton] at flag
  by_cases here : candidate = first
  · rw [secondKey, if_pos (flag.mpr here)]
    simp [here]
  · have unflagged : ¬visited.getD candidate false = true := fun flagged => here (flag.mp flagged)
    rw [secondKey, if_neg unflagged]
    simp [here]

/-- All two-edge cycles through node 0 cost `INT64_MAX`, and the seed starts there. -/
structure CycleDeadEnd (problem : Problem) (first : ℕ) : Prop where
  first_eq : first = 0
  unreachable : ∀ node < problem.size, node ≠ first →
    cycleCost problem first node = Int64.maxValue

theorem secondNode_lt {problem : Problem} {first : ℕ} (firstLt : first < problem.size)
    {visited : List Bool} (marks : Marks visited problem.size [first]) :
    secondNode problem visited first < problem.size := by
  rw [secondNode_eq]
  rcases Scan.least_eq_sentinel_or_key (secondKey problem visited first)
    (toLex (Int64.maxValue, first)) (List.range (toNodeId problem.size)) with
    sentinel | ⟨candidate, candidateMem, keyed⟩
  · rw [sentinel]
    exact firstLt
  · have candidateLt := (List.mem_range.mp candidateMem).trans_le (toNodeId_le problem.size)
    rcases (secondKey_eq_some marks candidateLt _).mp keyed with ⟨_, keyEq⟩
    rw [← keyEq]
    exact candidateLt

theorem secondNode_eq_first_iff {problem : Problem} (small : problem.size < 2 ^ 32)
    {first : ℕ} (firstLt : first < problem.size) {visited : List Bool}
    (marks : Marks visited problem.size [first]) :
    secondNode problem visited first = first ↔ CycleDeadEnd problem first := by
  rw [secondNode_eq, toNodeId_of_lt small]
  have below (node : ℕ) (nodeLt : node < problem.size) (distinct : node ≠ first) :
      Scan.least (secondKey problem visited first) (toLex (Int64.maxValue, first))
        (List.range problem.size) ≤ problem.cyclePreference first node :=
    Scan.least_le_key (List.mem_range.mpr nodeLt)
      ((secondKey_eq_some marks nodeLt _).mpr ⟨distinct, rfl⟩)
  rcases Scan.least_eq_sentinel_or_key (secondKey problem visited first)
    (toLex (Int64.maxValue, first)) (List.range problem.size) with
    sentinel | ⟨candidate, candidateMem, keyed⟩
  · rw [sentinel] at below ⊢
    have dominated (node : ℕ) (nodeLt : node < problem.size) (distinct : node ≠ first) :
        cycleCost problem first node = Int64.maxValue ∧ first ≤ node := by
      have atMost := Int64.le_iff_toInt_le.mpr (Int64.toInt_le (cycleCost problem first node))
      rcases Prod.Lex.toLex_le_toLex.mp (below node nodeLt distinct) with smaller | ⟨same, le⟩
      · exact absurd smaller (not_lt.mpr atMost)
      · exact ⟨same.symm, le⟩
    refine ⟨fun _ => ⟨?_, fun node nodeLt distinct => (dominated node nodeLt distinct).1⟩,
      fun _ => rfl⟩
    by_contra positive
    have zeroLt : 0 < problem.size := by omega
    have least := (dominated 0 zeroLt (Ne.symm positive)).2
    omega
  · have candidateLt := List.mem_range.mp candidateMem
    rcases (secondKey_eq_some marks candidateLt _).mp keyed with ⟨distinct, keyEq⟩
    constructor
    · intro same
      rw [← keyEq] at same
      exact absurd same distinct
    · intro deadEnd
      have bound : problem.cyclePreference first candidate ≤ toLex (Int64.maxValue, first) := by
        rw [keyEq]
        exact Scan.least_le_sentinel
      have far := deadEnd.unreachable candidate candidateLt distinct
      simp only [Problem.cyclePreference, far] at bound
      rcases Prod.Lex.toLex_le_toLex.mp bound with smaller | ⟨_, atMost⟩
      · exact absurd smaller (lt_irrefl _)
      · have zero := deadEnd.first_eq
        have candidateLe : candidate ≤ first := atMost
        omega

/-! ## The insertion loop -/

/-- A found insertion places an unvisited node behind an existing position. -/
structure Insertion.Valid (problem : Problem) (visited : List Bool) (order : List ℕ)
    (best : Insertion) : Prop where
  node_lt : best.bestNode < problem.size
  unvisited : ¬visited.getD best.bestNode false = true
  position_pos : 1 ≤ best.bestPosition
  position_le : best.bestPosition ≤ order.length
  delta_eq : best.bestDelta =
    insertionDelta problem order best.bestNode (best.bestPosition - 1)

theorem insertionScan_found (problem : Problem) (order : List ℕ) (candidate : ℕ)
    (best : Insertion) (position : ℕ) :
    (insertionScan problem order candidate best position).found = true := by
  simp only [insertionScan]
  split
  · rfl
  · next kept =>
      simp only [not_or, Bool.not_eq_true', Bool.not_eq_false] at kept
      exact kept.1

theorem insertionScan_valid {problem : Problem} {visited : List Bool} {order : List ℕ}
    {candidate position : ℕ} (candidateLt : candidate < problem.size)
    (unvisited : ¬visited.getD candidate false = true) (positionLt : position < order.length)
    {best : Insertion} (valid : best.found = true → best.Valid problem visited order) :
    (insertionScan problem order candidate best position).Valid problem visited order := by
  have found := insertionScan_found problem order candidate best position
  simp only [insertionScan] at found ⊢
  split
  · exact
      { node_lt := candidateLt
        unvisited := unvisited
        position_pos := Nat.succ_pos position
        position_le := positionLt
        delta_eq := rfl }
  · next kept =>
      rw [if_neg kept] at found
      exact valid found

theorem insertionCandidate_valid {problem : Problem} {visited : List Bool} {order : List ℕ}
    {candidate : ℕ} (candidateLt : candidate < problem.size) {best : Insertion}
    (valid : best.found = true → best.Valid problem visited order)
    (found : (insertionCandidate problem visited order best candidate).found = true) :
    (insertionCandidate problem visited order best candidate).Valid problem visited order := by
  unfold insertionCandidate at found ⊢
  split at found
  · next flagged =>
      rw [if_pos flagged]
      exact valid found
  · next unflagged =>
      rw [if_neg unflagged]
      refine Loop.foldl_induction
        (fun state : Insertion => state.found = true → state.Valid problem visited order)
        valid ?_ found
      intro state position positionMem stateValid _
      exact insertionScan_valid candidateLt unflagged (List.mem_range.mp positionMem) stateValid

/-- Once an insertion is found, the scan never forgets that it has one. -/
theorem foldl_insertionScan_found {problem : Problem} {order : List ℕ} {candidate : ℕ}
    {best : Insertion} {positions : List ℕ} (some : positions ≠ [] ∨ best.found = true) :
    (positions.foldl (insertionScan problem order candidate) best).found = true := by
  induction positions generalizing best with
  | nil => exact some.resolve_left (fun nonempty => nonempty rfl)
  | cons position rest ih => exact ih (Or.inr (insertionScan_found _ _ _ _ _))

theorem insertionCandidate_found {problem : Problem} {visited : List Bool} {order : List ℕ}
    {candidate : ℕ} {best : Insertion} (nonempty : order ≠ [])
    (some : ¬visited.getD candidate false = true ∨ best.found = true) :
    (insertionCandidate problem visited order best candidate).found = true := by
  unfold insertionCandidate
  split
  · next flagged => exact some.resolve_left (not_not.mpr flagged)
  · apply foldl_insertionScan_found
    left
    simpa [List.range_eq_nil] using nonempty

theorem bestInsertion_found {problem : Problem} {visited : List Bool} {order : List ℕ}
    (small : problem.size < 2 ^ 32) (nonempty : order ≠ []) {node : ℕ}
    (nodeLt : node < problem.size) (unvisited : ¬visited.getD node false = true) :
    (bestInsertion problem visited order).found = true := by
  have scan (candidates : List ℕ) (best : Insertion)
      (some : node ∈ candidates ∨ best.found = true) :
      (candidates.foldl (insertionCandidate problem visited order) best).found = true := by
    induction candidates generalizing best with
    | nil => exact some.resolve_left (by simp)
    | cons candidate rest ih =>
        apply ih
        rcases some with nodeMem | found
        · rcases List.mem_cons.mp nodeMem with rfl | later
          · exact Or.inr (insertionCandidate_found nonempty (Or.inl unvisited))
          · exact Or.inl later
        · exact Or.inr (insertionCandidate_found nonempty (Or.inr found))
  apply scan
  left
  rw [toNodeId_of_lt small]
  exact List.mem_range.mpr nodeLt

theorem bestInsertion_valid {problem : Problem} {visited : List Bool} {order : List ℕ}
    (found : (bestInsertion problem visited order).found = true) :
    (bestInsertion problem visited order).Valid problem visited order := by
  refine Loop.foldl_induction
    (fun state : Insertion => state.found = true → state.Valid problem visited order)
    (fun impossible => absurd impossible (by simp)) ?_ found
  intro state candidate candidateMem stateValid
  apply insertionCandidate_valid _ stateValid
  exact (List.mem_range.mp candidateMem).trans_le (toNodeId_le problem.size)

theorem bestInsertion_node_lt {problem : Problem} (nonempty : problem.size ≠ 0)
    (visited : List Bool) (order : List ℕ) :
    (bestInsertion problem visited order).bestNode < problem.size := by
  rcases Bool.eq_false_or_eq_true (bestInsertion problem visited order).found with
    found | missing
  · exact (bestInsertion_valid found).node_lt
  · -- Nothing found leaves the default node 0.
    have untouched : (bestInsertion problem visited order).found = true ∨
        (bestInsertion problem visited order).bestNode = 0 := by
      refine Loop.foldl_induction
        (fun state : Insertion => state.found = true ∨ state.bestNode = 0) (Or.inr rfl) ?_
      intro state candidate _ reached
      unfold insertionCandidate
      split
      · exact reached
      · refine Loop.foldl_induction
          (fun state : Insertion => state.found = true ∨ state.bestNode = 0) reached ?_
        intro inner position _ _
        exact Or.inl (insertionScan_found _ _ _ _ _)
    rcases untouched with found | zero
    · simp [found] at missing
    · omega

theorem insertAt_perm (order : List ℕ) (position node : ℕ) :
    (insertAt order position node).Perm (node :: order) := by
  have middle : (insertAt order position node).Perm
      (node :: (order.take position ++ order.drop position)) := List.perm_middle
  rwa [List.take_append_drop] at middle

theorem head?_insertAt {order : List ℕ} {position : ℕ} (behind : 1 ≤ position)
    (nonempty : order ≠ []) (node : ℕ) :
    (insertAt order position node).head? = order.head? := by
  rcases order with _ | ⟨first, rest⟩
  · exact absurd rfl nonempty
  · rcases position with _ | position
    · omega
    · simp [insertAt]

/-- What every turn of the insertion loop keeps. -/
structure InsertionState (problem : Problem) (visited : List Bool) (order : List ℕ) : Prop where
  marks : Marks visited problem.size order
  nonempty : order ≠ []
  length_le : order.length ≤ problem.size
  inRange : ∀ node ∈ order, node < problem.size

theorem InsertionState.step {problem : Problem} {visited : List Bool} {order : List ℕ}
    (state : InsertionState problem visited order) (unfinished : order.length < problem.size) :
    InsertionState problem
      (visited.set (bestInsertion problem visited order).bestNode true)
      (insertAt order (bestInsertion problem visited order).bestPosition
        (bestInsertion problem visited order).bestNode) := by
  have nonzero : problem.size ≠ 0 := by omega
  have nodeLt := bestInsertion_node_lt nonzero visited order
  have placed := insertAt_perm order (bestInsertion problem visited order).bestPosition
    (bestInsertion problem visited order).bestNode
  refine
    { marks := state.marks.set nodeLt (fun node => by rw [placed.mem_iff, List.mem_cons])
      nonempty := fun empty => ?_
      length_le := by rw [length_insertAt]; omega
      inRange := ?_ }
  · have lengthEq := length_insertAt order (bestInsertion problem visited order).bestPosition
      (bestInsertion problem visited order).bestNode
    simp [empty] at lengthEq
  · intro node nodeMem
    rcases List.mem_cons.mp (placed.mem_iff.mp nodeMem) with rfl | old
    · exact nodeLt
    · exact state.inRange node old

/-- Below 2^32 nodes every turn finds an unvisited node. -/
theorem InsertionState.valid {problem : Problem} {visited : List Bool} {order : List ℕ}
    (state : InsertionState problem visited order) (small : problem.size < 2 ^ 32)
    (unfinished : order.length < problem.size) :
    (bestInsertion problem visited order).Valid problem visited order := by
  rcases exists_notMem_of_length_lt unfinished with ⟨node, nodeLt, notPlaced⟩
  apply bestInsertion_valid
  apply bestInsertion_found small state.nonempty nodeLt
  exact fun flagged => notPlaced ((state.marks.flag_iff node nodeLt).mp flagged)

theorem insertionLoop_eq_of_lt {problem : Problem} {order : List ℕ}
    (unfinished : order.length < problem.size) (visited : List Bool) :
    insertionLoop problem visited order =
      insertionLoop problem (visited.set (bestInsertion problem visited order).bestNode true)
        (insertAt order (bestInsertion problem visited order).bestPosition
          (bestInsertion problem visited order).bestNode) := by
  rw [insertionLoop, if_pos unfinished]

theorem insertionLoop_eq_of_le {problem : Problem} {order : List ℕ}
    (finished : problem.size ≤ order.length) (visited : List Bool) :
    insertionLoop problem visited order = order := by
  rw [insertionLoop, if_neg (by omega)]

/-- An invariant of one turn holds of the flags and order with which the loop ends. -/
theorem insertionLoop_induction {problem : Problem}
    (invariant : List Bool → List ℕ → Prop)
    (turn : ∀ visited order, order.length < problem.size → invariant visited order →
      invariant (visited.set (bestInsertion problem visited order).bestNode true)
        (insertAt order (bestInsertion problem visited order).bestPosition
          (bestInsertion problem visited order).bestNode))
    {visited : List Bool} {order : List ℕ} (base : invariant visited order) :
    ∃ finalVisited, problem.size ≤ (insertionLoop problem visited order).length ∧
      invariant finalVisited (insertionLoop problem visited order) := by
  by_cases unfinished : order.length < problem.size
  · rw [insertionLoop_eq_of_lt unfinished]
    exact insertionLoop_induction invariant turn (turn visited order unfinished base)
  · rw [insertionLoop_eq_of_le (by omega)]
    exact ⟨visited, by omega, base⟩
termination_by problem.size - order.length
decreasing_by
  rw [length_insertAt]
  omega

/-! ## The built order -/

theorem buildCheapestInsertionSeed_singleton {problem : Problem} (single : problem.size = 1)
    (startNode : ℕ) :
    buildCheapestInsertionSeed problem startNode = [normalizeStartNode problem startNode] := by
  simp [buildCheapestInsertionSeed, single]

theorem marks_start {problem : Problem} {first : ℕ} (firstLt : first < problem.size) :
    Marks ((List.replicate problem.size false).set first true) problem.size [first] :=
  (Marks.nil problem.size).set firstLt (by simp)

/-- The flags and the order in front of the insertion loop. -/
theorem insertionState_second {problem : Problem} (several : 2 ≤ problem.size) {first : ℕ}
    (firstLt : first < problem.size) {flags : List Bool}
    (marks : Marks flags problem.size [first]) :
    InsertionState problem (flags.set (secondNode problem flags first) true)
      [first, secondNode problem flags first] where
  marks := marks.set (secondNode_lt firstLt marks) (by simp [or_comm])
  nonempty := by simp
  length_le := several
  inRange := by
    intro node nodeMem
    simp only [List.mem_cons, List.not_mem_nil, or_false] at nodeMem
    rcases nodeMem with rfl | rfl
    · exact firstLt
    · exact secondNode_lt firstLt marks

theorem buildCheapestInsertionSeed_of_several {problem : Problem} (several : 2 ≤ problem.size)
    {startNode first : ℕ} (firstEq : normalizeStartNode problem startNode = first)
    {flags : List Bool} (flagsEq : (List.replicate problem.size false).set first true = flags) :
    buildCheapestInsertionSeed problem startNode =
      insertionLoop problem (flags.set (secondNode problem flags first) true)
        [first, secondNode problem flags first] := by
  have nonempty : problem.size ≠ 0 := by omega
  have notSingle : problem.size ≠ 1 := by omega
  simp only [buildCheapestInsertionSeed, if_neg nonempty, if_neg notSingle, firstEq, flagsEq]

/-- The state in which the insertion loop starts. -/
theorem insertionState_start {problem : Problem} (several : 2 ≤ problem.size) (startNode : ℕ) :
    ∃ visited second, (second < problem.size ∧
      (problem.size < 2 ^ 32 →
        (second = normalizeStartNode problem startNode ↔
          CycleDeadEnd problem (normalizeStartNode problem startNode))) ∧
      (problem.size = 2 ^ 32 → second = normalizeStartNode problem startNode)) ∧
      InsertionState problem visited [normalizeStartNode problem startNode, second] ∧
      buildCheapestInsertionSeed problem startNode =
        insertionLoop problem visited [normalizeStartNode problem startNode, second] := by
  have firstLt := normalizeStartNode_lt (show problem.size ≠ 0 by omega) startNode
  have marks := marks_start firstLt
  refine ⟨_, _, ⟨secondNode_lt firstLt marks,
    fun small => secondNode_eq_first_iff small firstLt marks, ?_⟩,
    insertionState_second several firstLt marks,
    buildCheapestInsertionSeed_of_several several rfl rfl⟩
  intro limit
  simp only [secondNode, limit, toNodeId_limit]
  rfl

theorem buildCheapestInsertionSeed_spec {problem : Problem} (nonempty : problem.size ≠ 0)
    (startNode : ℕ) :
    (buildCheapestInsertionSeed problem startNode).length = problem.size ∧
      ∀ node ∈ buildCheapestInsertionSeed problem startNode, node < problem.size := by
  by_cases single : problem.size = 1
  · have firstLt := normalizeStartNode_lt nonempty startNode
    rw [buildCheapestInsertionSeed_singleton single]
    exact ⟨by simp [single], by simpa using firstLt⟩
  · rcases insertionState_start (show 2 ≤ problem.size by omega) startNode with
      ⟨visited, second, _, state, built⟩
    rw [built]
    rcases insertionLoop_induction (InsertionState problem)
      (fun _ _ unfinished state => state.step unfinished) state with ⟨_, reached, final⟩
    exact ⟨le_antisymm final.length_le reached, final.inRange⟩

theorem head?_buildCheapestInsertionSeed {problem : Problem} (nonempty : problem.size ≠ 0)
    (small : problem.size < 2 ^ 32) (startNode : ℕ) :
    (buildCheapestInsertionSeed problem startNode).head? =
      some (normalizeStartNode problem startNode) := by
  by_cases single : problem.size = 1
  · rw [buildCheapestInsertionSeed_singleton single]
    rfl
  · rcases insertionState_start (show 2 ≤ problem.size by omega) startNode with
      ⟨visited, second, _, state, built⟩
    rw [built]
    rcases insertionLoop_induction
      (fun visited order => InsertionState problem visited order ∧
        order.head? = some (normalizeStartNode problem startNode))
      (fun visited order unfinished invariant => by
        rcases invariant with ⟨state, head⟩
        have valid := state.valid small unfinished
        refine ⟨state.step unfinished, ?_⟩
        rw [head?_insertAt valid.position_pos state.nonempty, head])
      ⟨state, rfl⟩ with ⟨_, _, _, head⟩
    exact head

theorem nodup_insertionLoop_iff {problem : Problem} (small : problem.size < 2 ^ 32)
    {visited : List Bool} {order : List ℕ} (state : InsertionState problem visited order) :
    (insertionLoop problem visited order).Nodup ↔ order.Nodup := by
  constructor
  · -- Each order is contained in the next one, repetitions included.
    intro final
    by_contra repeated
    rcases insertionLoop_induction (fun _ order => ¬order.Nodup)
      (fun visited order _ repeated nodup => by
        have placed := insertAt_perm order (bestInsertion problem visited order).bestPosition
          (bestInsertion problem visited order).bestNode
        exact repeated (List.nodup_cons.mp (placed.nodup_iff.mp nodup)).2)
      (show (fun _ order => ¬order.Nodup) visited order from repeated) with ⟨_, _, still⟩
    exact still final
  · intro nodup
    rcases insertionLoop_induction
      (fun visited order => InsertionState problem visited order ∧ order.Nodup)
      (fun visited order unfinished invariant => by
        rcases invariant with ⟨state, nodup⟩
        have valid := state.valid small unfinished
        have placed := insertAt_perm order (bestInsertion problem visited order).bestPosition
          (bestInsertion problem visited order).bestNode
        refine ⟨state.step unfinished, placed.nodup_iff.mpr (List.nodup_cons.mpr ⟨?_, nodup⟩)⟩
        exact fun nodeMem =>
          valid.unvisited ((state.marks.flag_iff _ valid.node_lt).mpr nodeMem))
      ⟨state, nodup⟩ with ⟨_, _, _, final⟩
    exact final

/-- At 2^32 nodes no candidate is scanned: the second node repeats the first. -/
theorem not_nodup_buildCheapestInsertionSeed_of_limit {problem : Problem}
    (limit : problem.size = 2 ^ 32) (startNode : ℕ) :
    ¬(buildCheapestInsertionSeed problem startNode).Nodup := by
  rcases insertionState_start (show 2 ≤ problem.size by omega) startNode with
    ⟨visited, second, ⟨_, _, repeats⟩, _, built⟩
  rw [built, repeats limit]
  rcases insertionLoop_induction (fun _ order => ¬order.Nodup)
    (fun visited order _ repeated nodup => by
      have placed := insertAt_perm order (bestInsertion problem visited order).bestPosition
        (bestInsertion problem visited order).bestNode
      exact repeated (List.nodup_cons.mp (placed.nodup_iff.mp nodup)).2)
    (show (fun _ order => ¬order.Nodup) visited
      [normalizeStartNode problem startNode, normalizeStartNode problem startNode] by simp) with
    ⟨_, _, still⟩
  exact still

/-- The order built is a tour exactly when the choice of the second node is no dead end. -/
theorem isTour_buildCheapestInsertionSeed_iff {problem : Problem} (nonempty : problem.size ≠ 0)
    (sizeLe : problem.size ≤ 2 ^ 32) (startNode : ℕ) :
    problem.IsTour (buildCheapestInsertionSeed problem startNode) ↔
      problem.size < 2 ^ 32 ∧
        (2 ≤ problem.size → ¬CycleDeadEnd problem (normalizeStartNode problem startNode)) := by
  rcases buildCheapestInsertionSeed_spec nonempty startNode with ⟨lengthEq, inRange⟩
  have tourIff : problem.IsTour (buildCheapestInsertionSeed problem startNode) ↔
      (buildCheapestInsertionSeed problem startNode).Nodup :=
    ⟨fun tour => tour.nodup, fun nodup => isTour_of_nodup lengthEq nodup inRange⟩
  rw [tourIff]
  by_cases single : problem.size = 1
  · rw [buildCheapestInsertionSeed_singleton single]
    simp [single]
  · have several : 2 ≤ problem.size := by omega
    rcases Nat.lt_or_eq_of_le sizeLe with small | limit
    · rcases insertionState_start several startNode with
        ⟨visited, second, ⟨_, deadIff, _⟩, state, built⟩
      rw [built, nodup_insertionLoop_iff small state]
      have pair : [normalizeStartNode problem startNode, second].Nodup ↔
          second ≠ normalizeStartNode problem startNode := by
        simp [eq_comm]
      rw [pair, Ne, deadIff small]
      exact ⟨fun alive => ⟨small, fun _ => alive⟩, fun both => both.2 several⟩
    · have repeated := not_nodup_buildCheapestInsertionSeed_of_limit limit startNode
      constructor
      · exact fun nodup => absurd nodup repeated
      · rintro ⟨small, _⟩
        omega

end TspSolver
