import TspSolver.LocalSearch.CheapestInsertion
import TspSolver.Solve.Overflow
import Mathlib.Order.WithBot

/-!
# The greedy specification of cheapest insertion

Every turn inserts the node and takes the edge of the current cycle that
increase its cost the least, ties by node id and then by position. The scan
computes each increase from three edges and stores positions shifted by one;
where its sums are exact it selects by the true increase of the closed route.
-/

namespace TspSolver

/-- The cost that a node adds to the closed route when it is put on the edge at a position. -/
def Problem.insertionIncrease (problem : Problem) (order : List ℕ) (node position : ℕ) : ℤ :=
  problem.tourCost (insertAt order (position + 1) node) - problem.tourCost order

/-- The increase first, then the node id, then the position of the edge. -/
def Problem.insertionPreference (problem : Problem) (order : List ℕ) (node position : ℕ) :
    ℤ ×ₗ ℕ ×ₗ ℕ :=
  toLex (problem.insertionIncrease order node position, toLex (node, position))

/-- The unplaced node and the edge of the cycle that the greedy rule selects. -/
structure IsCheapestInsertion (problem : Problem) (order : List ℕ) (node position : ℕ) : Prop where
  node_lt : node < problem.size
  node_notMem : node ∉ order
  position_lt : position < order.length
  least : ∀ other < problem.size, other ∉ order → ∀ place < order.length,
    problem.insertionPreference order node position ≤
      problem.insertionPreference order other place

/-- Cheapest insertions from one order to a complete one, with the increase of each. -/
inductive InsertionSteps (problem : Problem) : List ℕ → List ℤ → List ℕ → Prop where
  | done {order : List ℕ} (complete : order.length = problem.size) :
      InsertionSteps problem order [] order
  | insert {order final : List ℕ} {increases : List ℤ} {node position : ℕ}
      (cheapest : IsCheapestInsertion problem order node position)
      (later : InsertionSteps problem (insertAt order (position + 1) node) increases final) :
      InsertionSteps problem order (problem.insertionIncrease order node position :: increases)
        final

/-- The other node of the cheapest two-edge cycle through `first`, ties by node id. -/
structure IsCheapestSecond (problem : Problem) (first second : ℕ) : Prop where
  second_lt : second < problem.size
  second_ne : second ≠ first
  least : ∀ node < problem.size, node ≠ first →
    (toLex (problem.edge first second + problem.edge second first, second) : ℤ ×ₗ ℕ) ≤
      toLex (problem.edge first node + problem.edge node first, node)

variable {problem : Problem}

/-! ## Uniqueness -/

theorem IsCheapestInsertion.unique {order : List ℕ} {node position otherNode otherPosition : ℕ}
    (left : IsCheapestInsertion problem order node position)
    (right : IsCheapestInsertion problem order otherNode otherPosition) :
    node = otherNode ∧ position = otherPosition := by
  have same := le_antisymm
    (left.least otherNode right.node_lt right.node_notMem otherPosition right.position_lt)
    (right.least node left.node_lt left.node_notMem position left.position_lt)
  have ranks := congrArg (fun preference => ofLex (ofLex preference).2) same
  exact Prod.ext_iff.mp ranks

theorem IsCheapestSecond.unique {first left right : ℕ}
    (leftCheapest : IsCheapestSecond problem first left)
    (rightCheapest : IsCheapestSecond problem first right) : left = right := by
  have same := le_antisymm
    (leftCheapest.least right rightCheapest.second_lt rightCheapest.second_ne)
    (rightCheapest.least left leftCheapest.second_lt leftCheapest.second_ne)
  exact congrArg (fun pair => (ofLex pair).2) same

theorem InsertionSteps.length_le {order final : List ℕ} {increases : List ℤ}
    (steps : InsertionSteps problem order increases final) : order.length ≤ problem.size := by
  induction steps with
  | done complete => exact complete.le
  | insert cheapest later ih =>
      rw [length_insertAt] at ih
      omega

/-- The greedy rule leaves no choice. -/
theorem InsertionSteps.unique {order final otherFinal : List ℕ} {increases otherIncreases : List ℤ}
    (left : InsertionSteps problem order increases final)
    (right : InsertionSteps problem order otherIncreases otherFinal) : final = otherFinal := by
  induction left generalizing otherIncreases with
  | done complete =>
      cases right with
      | done => rfl
      | insert cheapest later =>
          have further := later.length_le
          rw [length_insertAt] at further
          omega
  | @insert order final increases node position cheapest later ih =>
      cases right with
      | done complete =>
          have further := later.length_le
          rw [length_insertAt] at further
          omega
      | insert otherCheapest otherLater =>
          rcases cheapest.unique otherCheapest with ⟨rfl, rfl⟩
          exact ih otherLater

/-! ## Increases -/

/-- An insertion replaces one edge of the cycle by two. -/
theorem insertionIncrease_eq {order : List ℕ} {position : ℕ} (inside : position < order.length)
    (node : ℕ) :
    problem.insertionIncrease order node position =
      problem.edge (order.getD position 0) node +
        problem.edge node (order.getD ((position + 1) % order.length) 0) -
        problem.edge (order.getD position 0) (order.getD ((position + 1) % order.length) 0) := by
  have front : order.take (position + 1) = order.take position ++ [order.getD position 0] := by
    rw [List.getD_eq_getElem _ _ inside, List.take_append_getElem]
  rcases Walk.exists_next inside (Nat.le_add_left 1 position) 0 with ⟨tail, next⟩
  rw [front, ← List.append_assoc] at next
  have exchanged := Walk.closedCost_insert problem.edge (order.take position)
    (order.drop (position + 1)) (order.getD position 0) node next
  have inserted : insertAt order (position + 1) node =
      order.take position ++ order.getD position 0 :: node :: order.drop (position + 1) := by
    rw [insertAt, front, List.append_assoc, List.singleton_append]
  have whole : order =
      order.take position ++ order.getD position 0 :: order.drop (position + 1) := by
    conv_lhs => rw [← List.take_append_drop (position + 1) order, front, List.append_assoc,
      List.singleton_append]
  rw [← inserted, ← whole] at exchanged
  simp only [Problem.insertionIncrease, Problem.tourCost]
  omega

theorem insertionDelta_eq_ofInt {order : List ℕ} {position : ℕ}
    (inside : position < order.length) (node : ℕ) :
    insertionDelta problem order node position =
      Int64.ofInt (problem.insertionIncrease order node position) := by
  rw [insertionIncrease_eq inside]
  simp only [insertionDelta, Problem.edge, Int64.ofInt_sub, Int64.ofInt_add, Int64.ofInt_toInt]

/-- On machine words the delta is the increase of the route cost, even where sums wrap. -/
theorem insertionDelta_eq {order : List ℕ} {position : ℕ} (inside : position < order.length)
    (node : ℕ) :
    insertionDelta problem order node position =
      routeCost problem (insertAt order (position + 1) node) - routeCost problem order := by
  rw [insertionDelta_eq_ofInt inside, routeCost_eq_ofInt, routeCost_eq_ofInt, ← Int64.ofInt_sub]
  rfl

theorem toInt_insertionDelta {order : List ℕ} {node position : ℕ}
    (inside : position < order.length)
    (fit : ∀ sum ∈ insertionDeltaSums problem order node position, Int64.Fits sum) :
    (insertionDelta problem order node position).toInt =
      problem.insertionIncrease order node position := by
  have sumFit := fit _ List.mem_cons_self
  have deltaFit := fit _ (List.mem_cons_of_mem _ List.mem_cons_self)
  have detour := Int64.toInt_add_of_fits sumFit
  rw [detour] at deltaFit
  rw [insertionDelta_eq_ofInt inside, Int64.toInt_ofInt_of_fits]
  rw [insertionIncrease_eq inside]
  exact deltaFit

/-! ## The scan -/

/-- The pairs of an unvisited node and a position, in scan order. -/
def insertionPairs (problem : Problem) (visited : List Bool) (order : List ℕ) : List (ℕ × ℕ) :=
  (List.range (toNodeId problem.size)).flatMap fun candidate =>
    if visited.getD candidate false then []
    else (List.range order.length).map fun position => (candidate, position)

theorem mem_insertionPairs {visited : List Bool} {order : List ℕ}
    (marks : Marks visited problem.size order) (small : problem.size < 2 ^ 32)
    {node position : ℕ} :
    (node, position) ∈ insertionPairs problem visited order ↔
      node < problem.size ∧ node ∉ order ∧ position < order.length := by
  simp only [insertionPairs, List.mem_flatMap, toNodeId_of_lt small, List.mem_range]
  constructor
  · rintro ⟨candidate, candidateLt, pairMem⟩
    split at pairMem
    · simp at pairMem
    · next unvisited =>
        rw [List.mem_map] at pairMem
        rcases pairMem with ⟨place, placeMem, pairEq⟩
        cases pairEq
        refine ⟨candidateLt, ?_, List.mem_range.mp placeMem⟩
        exact fun placed => unvisited ((marks.flag_iff _ candidateLt).mpr placed)
  · rintro ⟨nodeLt, notPlaced, positionLt⟩
    refine ⟨node, nodeLt, ?_⟩
    rw [if_neg (fun flagged => notPlaced ((marks.flag_iff node nodeLt).mp flagged))]
    exact List.mem_map.mpr ⟨position, List.mem_range.mpr positionLt, rfl⟩

/-- The two nested scans as one over the pairs. -/
theorem bestInsertion_eq_foldl (visited : List Bool) (order : List ℕ) :
    bestInsertion problem visited order =
      (insertionPairs problem visited order).foldl
        (fun best pair => insertionScan problem order pair.1 best pair.2) {} := by
  rw [bestInsertion, insertionPairs, List.foldl_flatMap]
  congr 1
  funext best candidate
  rw [insertionCandidate]
  split
  · rfl
  · rw [List.foldl_map]

/-- What the scan minimizes: the delta, then the node, then the unshifted position. -/
def insertionKey (problem : Problem) (order : List ℕ) (pair : ℕ × ℕ) : Cost ×ₗ ℕ ×ₗ ℕ :=
  toLex (insertionDelta problem order pair.1 pair.2, toLex pair)

/-- The key that an incumbent stands for; nothing found is above all keys. -/
def Insertion.key (best : Insertion) : WithTop (Cost ×ₗ ℕ ×ₗ ℕ) :=
  if best.found then
    ((toLex (best.bestDelta, toLex (best.bestNode, best.bestPosition - 1)) : Cost ×ₗ ℕ ×ₗ ℕ) :
      WithTop (Cost ×ₗ ℕ ×ₗ ℕ))
  else ⊤

theorem key_of_found {best : Insertion} (found : best.found = true) :
    best.key =
      ((toLex (best.bestDelta, toLex (best.bestNode, best.bestPosition - 1)) : Cost ×ₗ ℕ ×ₗ ℕ) :
        WithTop (Cost ×ₗ ℕ ×ₗ ℕ)) :=
  if_pos found

theorem insertionKey_lt_iff {order : List ℕ} {best : Insertion} (found : best.found = true)
    {candidate position : ℕ} :
    (insertionKey problem order (candidate, position) : WithTop (Cost ×ₗ ℕ ×ₗ ℕ)) < best.key ↔
      insertionDelta problem order candidate position < best.bestDelta ∨
        insertionDelta problem order candidate position = best.bestDelta ∧
          (candidate < best.bestNode ∨
            candidate = best.bestNode ∧ position < best.bestPosition - 1) := by
  rw [key_of_found found, WithTop.coe_lt_coe, insertionKey, Prod.Lex.toLex_lt_toLex,
    Prod.Lex.toLex_lt_toLex]

/-- The shifted position of the incumbent makes no difference: a tie replaces it by itself. -/
theorem key_insertionScan (order : List ℕ) (best : Insertion) (pair : ℕ × ℕ) :
    (insertionScan problem order pair.1 best pair.2).key =
      Scan.improve (fun pair => some (insertionKey problem order pair :
        WithTop (Cost ×ₗ ℕ ×ₗ ℕ))) best.key pair := by
  rcases pair with ⟨candidate, position⟩
  simp only [Scan.improve]
  cases foundEq : best.found with
  | false => simp [insertionScan, Insertion.key, foundEq, insertionKey]
  | true =>
      simp only [insertionKey_lt_iff foundEq]
      simp only [insertionScan, foundEq]
      split
      · next replaced =>
          split
          · rfl
          · next notLower =>
              -- Only the third test can differ: at the stored position itself.
              have tied : insertionDelta problem order candidate position = best.bestDelta ∧
                  candidate = best.bestNode ∧ position = best.bestPosition - 1 := by
                grind
              rw [key_of_found foundEq, ← tied.1, ← tied.2.1, ← tied.2.2]
              rfl
      · next kept =>
          rw [if_neg]
          grind

/-- The scan selects a pair of least key. -/
theorem key_bestInsertion_le {visited : List Bool} {order : List ℕ} {pair : ℕ × ℕ}
    (pairMem : pair ∈ insertionPairs problem visited order) :
    (bestInsertion problem visited order).key ≤
      (insertionKey problem order pair : WithTop (Cost ×ₗ ℕ ×ₗ ℕ)) := by
  rw [bestInsertion_eq_foldl, Scan.foldl_eq_least Insertion.key (key_insertionScan order)]
  exact Scan.least_le_key pairMem rfl

theorem insertionDeltaSums_subset {visited : List Bool} {order : List ℕ}
    (marks : Marks visited problem.size order) (small : problem.size < 2 ^ 32) {node position : ℕ}
    (nodeLt : node < problem.size) (notPlaced : node ∉ order) (inside : position < order.length) :
    insertionDeltaSums problem order node position ⊆ bestInsertionSums problem visited order := by
  intro sum sumMem
  apply List.mem_flatMap.mpr
  refine ⟨node, List.mem_range.mpr (by rwa [toNodeId_of_lt small]), ?_⟩
  rw [if_neg (fun flagged => notPlaced ((marks.flag_iff node nodeLt).mp flagged))]
  exact List.mem_flatMap.mpr ⟨position, List.mem_range.mpr inside, sumMem⟩

/-- Where the deltas are exact, machine keys and preferences order the pairs alike. -/
theorem insertionPreference_le_iff {order : List ℕ} {node position other place : ℕ}
    (left : (insertionDelta problem order node position).toInt =
      problem.insertionIncrease order node position)
    (right : (insertionDelta problem order other place).toInt =
      problem.insertionIncrease order other place) :
    problem.insertionPreference order node position ≤
        problem.insertionPreference order other place ↔
      insertionKey problem order (node, position) ≤ insertionKey problem order (other, place) := by
  rw [Problem.insertionPreference, Problem.insertionPreference, ← left, ← right]
  exact Int64.toLex_toInt_le_iff

/-- One turn inserts the cheapest node on the cheapest edge. -/
theorem isCheapestInsertion_bestInsertion {visited : List Bool} {order : List ℕ}
    (state : InsertionState problem visited order) (small : problem.size < 2 ^ 32)
    (unfinished : order.length < problem.size)
    (fit : ∀ sum ∈ bestInsertionSums problem visited order, Int64.Fits sum) :
    IsCheapestInsertion problem order (bestInsertion problem visited order).bestNode
      ((bestInsertion problem visited order).bestPosition - 1) := by
  have valid := state.valid small unfinished
  rcases exists_notMem_of_length_lt unfinished with ⟨some, someLt, someNotPlaced⟩
  have found := bestInsertion_found small state.nonempty someLt
    (fun flagged => someNotPlaced ((state.marks.flag_iff some someLt).mp flagged))
  have least := @key_bestInsertion_le problem visited order
  generalize bestInsertion problem visited order = best at valid found least ⊢
  have notPlaced : best.bestNode ∉ order := fun placed =>
    valid.unvisited ((state.marks.flag_iff _ valid.node_lt).mpr placed)
  have inside : best.bestPosition - 1 < order.length := by
    have positive := valid.position_pos
    have bound := valid.position_le
    omega
  have exact {node position : ℕ} (nodeLt : node < problem.size) (nodeNotPlaced : node ∉ order)
      (positionLt : position < order.length) :
      (insertionDelta problem order node position).toInt =
        problem.insertionIncrease order node position :=
    toInt_insertionDelta positionLt fun sum sumMem => fit sum
      (insertionDeltaSums_subset state.marks small nodeLt nodeNotPlaced positionLt sumMem)
  refine ⟨valid.node_lt, notPlaced, inside, ?_⟩
  intro other otherLt otherNotPlaced place placeLt
  have keyLe := least ((mem_insertionPairs state.marks small).mpr
    ⟨otherLt, otherNotPlaced, placeLt⟩)
  rw [key_of_found found, valid.delta_eq, WithTop.coe_le_coe] at keyLe
  exact (insertionPreference_le_iff (exact valid.node_lt notPlaced inside)
    (exact otherLt otherNotPlaced placeLt)).mpr keyLe

/-! ## The loop -/

theorem insertionSteps_insertionLoop (small : problem.size < 2 ^ 32) {visited : List Bool}
    {order : List ℕ} (state : InsertionState problem visited order)
    (fit : ∀ sum ∈ insertionLoopSums problem visited order, Int64.Fits sum) :
    ∃ increases, InsertionSteps problem order increases (insertionLoop problem visited order) := by
  by_cases unfinished : order.length < problem.size
  · rw [insertionLoopSums, if_pos unfinished] at fit
    rcases List.forall_mem_append.mp fit with ⟨turnFit, laterFit⟩
    have cheapest := isCheapestInsertion_bestInsertion state small unfinished turnFit
    rcases insertionSteps_insertionLoop small (state.step unfinished) laterFit with
      ⟨increases, later⟩
    have shifted : (bestInsertion problem visited order).bestPosition - 1 + 1 =
        (bestInsertion problem visited order).bestPosition :=
      Nat.sub_add_cancel (state.valid small unfinished).position_pos
    rw [insertionLoop_eq_of_lt unfinished]
    refine ⟨_ :: increases, InsertionSteps.insert cheapest ?_⟩
    rw [shifted]
    exact later
  · rw [insertionLoop_eq_of_le (not_lt.mp unfinished)]
    exact ⟨[], InsertionSteps.done (le_antisymm state.length_le (not_lt.mp unfinished))⟩
termination_by problem.size - order.length
decreasing_by
  rw [length_insertAt]
  omega

theorem InsertionSteps.head_eq {order final : List ℕ} {increases : List ℤ}
    (steps : InsertionSteps problem order increases final) (nonempty : order ≠ []) :
    final.head? = order.head? := by
  induction steps with
  | done => rfl
  | insert cheapest later ih =>
      rw [ih (by simp [insertAt]), head?_insertAt (Nat.le_add_left 1 _) nonempty]

/-- An unplaced node keeps an order free of repetitions and within the nodes. -/
theorem insertAt_spec {order : List ℕ} {node : ℕ} (nodup : order.Nodup)
    (inRange : ∀ other ∈ order, other < problem.size) (nodeLt : node < problem.size)
    (unplaced : node ∉ order) (position : ℕ) :
    (insertAt order position node).Nodup ∧
      ∀ other ∈ insertAt order position node, other < problem.size := by
  have placed := insertAt_perm order position node
  constructor
  · exact placed.nodup_iff.mpr (List.nodup_cons.mpr ⟨unplaced, nodup⟩)
  · intro other otherMem
    rcases List.mem_cons.mp (placed.mem_iff.mp otherMem) with rfl | old
    · exact nodeLt
    · exact inRange other old

theorem IsCheapestSecond.pair_spec {first second : ℕ}
    (cheapest : IsCheapestSecond problem first second) (firstLt : first < problem.size) :
    [first, second].Nodup ∧ ∀ node ∈ [first, second], node < problem.size := by
  constructor
  · simpa using Ne.symm cheapest.second_ne
  · simpa using ⟨firstLt, cheapest.second_lt⟩

/-- Insertions of unplaced nodes complete a repetition-free order to a tour. -/
theorem InsertionSteps.isTour {order final : List ℕ} {increases : List ℤ}
    (steps : InsertionSteps problem order increases final) (nodup : order.Nodup)
    (inRange : ∀ node ∈ order, node < problem.size) : problem.IsTour final := by
  induction steps with
  | done complete => exact isTour_of_nodup complete nodup inRange
  | insert cheapest later ih =>
      rcases insertAt_spec nodup inRange cheapest.node_lt cheapest.node_notMem _ with
        ⟨placedNodup, placedLt⟩
      exact ih placedNodup placedLt

theorem IsCheapestSecond.isTour {first second : ℕ} {increases : List ℤ} {final : List ℕ}
    (cheapest : IsCheapestSecond problem first second) (firstLt : first < problem.size)
    (steps : InsertionSteps problem [first, second] increases final) : problem.IsTour final := by
  rcases cheapest.pair_spec firstLt with ⟨nodup, inRange⟩
  exact steps.isTour nodup inRange

/-- The increases add up to what the cycle costs in the end. -/
theorem InsertionSteps.tourCost_eq {order final : List ℕ} {increases : List ℤ}
    (steps : InsertionSteps problem order increases final) :
    problem.tourCost final = problem.tourCost order + increases.sum := by
  induction steps with
  | done => simp
  | insert cheapest later ih =>
      rw [ih, List.sum_cons, Problem.insertionIncrease]
      omega

/-! ## The second node -/

theorem fits_cycle {visited : List Bool} {first : ℕ}
    (marks : Marks visited problem.size [first]) (small : problem.size < 2 ^ 32)
    (fit : ∀ sum ∈ secondNodeSums problem visited first, Int64.Fits sum) {node : ℕ}
    (nodeLt : node < problem.size) (distinct : node ≠ first) :
    Int64.Fits (problem.edge first node + problem.edge node first) := by
  apply fit
  apply List.mem_flatMap.mpr
  refine ⟨node, List.mem_range.mpr (by rwa [toNodeId_of_lt small]), ?_⟩
  have unplaced : node ∉ [first] := by simpa using distinct
  rw [if_neg (fun flagged => unplaced ((marks.flag_iff node nodeLt).mp flagged))]
  exact List.mem_singleton.mpr rfl

theorem toInt_cycleCost {visited : List Bool} {first : ℕ}
    (marks : Marks visited problem.size [first]) (small : problem.size < 2 ^ 32)
    (fit : ∀ sum ∈ secondNodeSums problem visited first, Int64.Fits sum) {node : ℕ}
    (nodeLt : node < problem.size) (distinct : node ≠ first) :
    (cycleCost problem first node).toInt =
      problem.edge first node + problem.edge node first :=
  Int64.toInt_add_of_fits (fits_cycle marks small fit nodeLt distinct)

/-- Below the sentinel the scan finds the cheapest two-edge cycle. -/
theorem isCheapestSecond_secondNode {visited : List Bool} {first : ℕ}
    (several : 2 ≤ problem.size) (small : problem.size < 2 ^ 32)
    (marks : Marks visited problem.size [first])
    (fit : ∀ sum ∈ secondNodeSums problem visited first, Int64.Fits sum)
    (below : ∀ node < problem.size, node ≠ first →
      problem.edge first node + problem.edge node first < Int64.maxValue.toInt) :
    IsCheapestSecond problem first (secondNode problem visited first) := by
  rw [secondNode_eq, toNodeId_of_lt small]
  have least (node : ℕ) (nodeLt : node < problem.size) (distinct : node ≠ first) :
      Scan.least (secondKey problem visited first) (toLex (Int64.maxValue, first))
        (List.range problem.size) ≤ problem.cyclePreference first node :=
    Scan.least_le_key (List.mem_range.mpr nodeLt)
      ((secondKey_eq_some marks nodeLt _).mpr ⟨distinct, rfl⟩)
  rcases Scan.least_eq_sentinel_or_key (secondKey problem visited first)
    (toLex (Int64.maxValue, first)) (List.range problem.size) with
    sentinel | ⟨candidate, candidateMem, keyed⟩
  · rw [sentinel] at least
    rcases exists_notMem_of_length_lt (show [first].length < problem.size from several) with
      ⟨node, nodeLt, notFirst⟩
    have distinct : node ≠ first := by simpa using notFirst
    have costLe := Prod.Lex.monotone_fst _ _ (least node nodeLt distinct)
    have cheaper := below node nodeLt distinct
    rw [← toInt_cycleCost marks small fit nodeLt distinct] at cheaper
    exact absurd (Int64.le_iff_toInt_le.mp costLe) (not_le.mpr cheaper)
  · have candidateLt := List.mem_range.mp candidateMem
    rcases (secondKey_eq_some marks candidateLt _).mp keyed with ⟨distinct, keyEq⟩
    rw [← keyEq] at least ⊢
    refine ⟨candidateLt, distinct, ?_⟩
    intro node nodeLt nodeDistinct
    rw [← toInt_cycleCost marks small fit nodeLt nodeDistinct]
    have ordered := Int64.toLex_toInt_le_iff.mpr (least node nodeLt nodeDistinct)
    rw [toInt_cycleCost marks small fit candidateLt distinct] at ordered
    exact ordered

/-! ## The whole run -/

/-- What the construction does from the start, where its sums are exact. -/
theorem insertionSteps_buildCheapestInsertionSeed (several : 2 ≤ problem.size)
    (small : problem.size < 2 ^ 32) {startNode first : ℕ}
    (firstEq : normalizeStartNode problem startNode = first)
    (fit : ∀ sum ∈ cheapestInsertionSums problem startNode, Int64.Fits sum)
    (below : ∀ node < problem.size, node ≠ first →
      problem.edge first node + problem.edge node first < Int64.maxValue.toInt) :
    ∃ second increases, IsCheapestSecond problem first second ∧
      InsertionSteps problem [first, second] increases
        (buildCheapestInsertionSeed problem startNode) := by
  have firstLt := normalizeStartNode_lt (show problem.size ≠ 0 by omega) startNode
  rw [firstEq] at firstLt
  have marks := marks_start firstLt
  have notSingle : problem.size ≠ 1 := by omega
  rw [cheapestInsertionSums, if_neg notSingle, firstEq, List.forall_mem_append,
    List.forall_mem_append] at fit
  have built := buildCheapestInsertionSeed_of_several several firstEq rfl
  generalize (List.replicate problem.size false).set first true = flags at marks fit built
  rcases fit with ⟨⟨secondFit, loopFit⟩, _⟩
  rcases insertionSteps_insertionLoop small (insertionState_second several firstLt marks)
    loopFit with ⟨increases, steps⟩
  rw [← built] at steps
  exact ⟨_, increases, isCheapestSecond_secondNode several small marks secondFit below, steps⟩

theorem toInt_routeCost_buildCheapestInsertionSeed {startNode : ℕ}
    (fit : ∀ sum ∈ cheapestInsertionSums problem startNode, Int64.Fits sum) :
    (routeCost problem (buildCheapestInsertionSeed problem startNode)).toInt =
      problem.tourCost (buildCheapestInsertionSeed problem startNode) :=
  toInt_routeCost_of_routeSums_fit (List.forall_mem_append.mp fit).2

/--
The returned tour begins with the start and the cheapest second node, grows by
cheapest insertions only, and costs the first cycle plus all increases.
-/
theorem cheapestInsertionTour_greedy {problem : Problem} (square : problem.isSquare = true)
    (several : 2 ≤ problem.size) (small : problem.size < 2 ^ 32) {startNode first : ℕ}
    (firstEq : startNode % problem.size = first)
    (fit : ∀ sum ∈ cheapestInsertionSums problem startNode, Int64.Fits sum)
    (below : ∀ node < problem.size, node ≠ first →
      problem.edge first node + problem.edge node first < Int64.maxValue.toInt) :
    ∃ tour second increases, cheapestInsertionTour problem startNode = .ok tour ∧
      IsCheapestSecond problem first second ∧
      InsertionSteps problem [first, second] increases tour.order ∧
      tour.order.head? = some first ∧ problem.IsTour tour.order ∧
      tour.totalCost.toInt =
        problem.edge first second + problem.edge second first + increases.sum ∧
      ∀ order node position, position < order.length →
        insertionDelta problem order node position =
          routeCost problem (insertAt order (position + 1) node) - routeCost problem order := by
  have nonempty : problem.size ≠ 0 := by omega
  rw [← normalizeStartNode_eq nonempty small.le] at firstEq
  rcases insertionSteps_buildCheapestInsertionSeed several small firstEq fit below with
    ⟨second, increases, cheapestSecond, steps⟩
  have firstLt := normalizeStartNode_lt nonempty startNode
  rw [firstEq] at firstLt
  refine ⟨_, second, increases, guarded_of_nonempty square nonempty _, cheapestSecond, steps,
    ?_, cheapestSecond.isTour firstLt steps, ?_,
    fun _ node _ inside => insertionDelta_eq inside node⟩
  · rw [steps.head_eq (by simp), List.head?_cons]
  · have cycle : problem.tourCost [first, second] =
        problem.edge first second + problem.edge second first := by
      simp [Problem.tourCost, Walk.closedCost]
    rw [toInt_routeCost_buildCheapestInsertionSeed fit, steps.tourCost_eq, cycle]

theorem cheapestInsertionTour_greedy_four :
    let problem : Problem :=
      { distances := [[0, 5, -2, 7], [1, 0, 3, 3], [4, 2, 0, 1], [6, 3, 1, 0]] }
    (problem.isSquare = true ∧ 2 ≤ problem.size ∧ problem.size < 2 ^ 32 ∧ 6 % problem.size = 2 ∧
      (∀ sum ∈ cheapestInsertionSums problem 6, Int64.Fits sum) ∧
      ∀ node < problem.size, node ≠ 2 →
        problem.edge 2 node + problem.edge node 2 < Int64.maxValue.toInt) ∧
    ∃ tour second increases, cheapestInsertionTour problem 6 = .ok tour ∧
      IsCheapestSecond problem 2 second ∧
      InsertionSteps problem [2, second] increases tour.order ∧
      tour.order.head? = some 2 ∧ problem.IsTour tour.order ∧
      tour.totalCost.toInt = problem.edge 2 second + problem.edge second 2 + increases.sum ∧
      ∀ order node position, position < order.length →
        insertionDelta problem order node position =
          routeCost problem (insertAt order (position + 1) node) - routeCost problem order := by
  intro problem
  have bounded : problem.Bounded 7 := Problem.bounded_of_rows (by decide) (by decide)
  have fit := cheapestInsertionSums_fit bounded (by decide) (by decide) 6
  exact ⟨⟨by decide, by decide, by decide, by decide, fit, by decide⟩,
    cheapestInsertionTour_greedy (by decide) (by decide) (by decide) (by decide) fit (by decide)⟩

end TspSolver
