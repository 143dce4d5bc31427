import TspSolver.Checked.LocalSearch
import TspSolver.HeldKarp.Optimality

/-!
# Held-Karp stays inside its tables

Masks stay below the number of subsets and positions below the number of nodes,
so every cell of the two flat tables exists. The backtracking follows the chain
behind the best last position: it reads entries of the parent table only and
breaks at the end of the chain. No sum is assumed to fit.
-/

namespace TspSolver

namespace Checked

open Loop HeldKarpTables

/-! ## Shifts and cells -/

theorem bit_of_lt {position : ℕ} (positionLt : position < 64) :
    bit position = some (1 <<< position) := if_pos positionLt

variable {problem : Problem} {start : ℕ} {nodes : List ℕ} {tables : HeldKarpTables} {mask last : ℕ}

theorem cost_eq (sized : tables.Sized nodes.length) (maskLt : mask < 1 <<< nodes.length)
    (lastLt : last < nodes.length) :
    cost tables nodes.length mask last = some (tables.cost nodes.length mask last) := by
  have inside : index nodes.length mask last < tables.dp.size := by
    rw [sized.dp_size]
    exact index_lt maskLt lastLt
  simp [cost, HeldKarpTables.cost, inside]

theorem parentOf_eq (sized : tables.Sized nodes.length) (maskLt : mask < 1 <<< nodes.length)
    (lastLt : last < nodes.length) :
    parentOf tables nodes.length mask last = some (tables.parentOf nodes.length mask last) := by
  have inside : index nodes.length mask last < tables.parent.size := by
    rw [sized.parent_size]
    exact index_lt maskLt lastLt
  simp [parentOf, HeldKarpTables.parentOf, inside]

theorem setCost_eq (sized : tables.Sized nodes.length) (maskLt : mask < 1 <<< nodes.length)
    (lastLt : last < nodes.length) (value : Cost) :
    setCost tables nodes.length mask last value =
      some (tables.setCost nodes.length mask last value) := by
  apply if_pos
  rw [sized.dp_size]
  exact index_lt maskLt lastLt

theorem setParent_eq (sized : tables.Sized nodes.length) (maskLt : mask < 1 <<< nodes.length)
    (lastLt : last < nodes.length) (value : ℕ) :
    setParent tables nodes.length mask last value =
      some (tables.setParent nodes.length mask last value) := by
  apply if_pos
  rw [sized.parent_size]
  exact index_lt maskLt lastLt

/-! ## Filling the tables -/

section Search

variable (square : problem.isSquare = true) (inside : Inside problem nodes)
  (narrow : nodes.length < 64)

include square inside narrow

theorem heldKarpScan_eq (sized : tables.Sized nodes.length) {previousMask : ℕ}
    (maskLt : previousMask < 1 <<< nodes.length) (lastLt : last < nodes.length)
    (best : Cost × ℕ) {previous : ℕ} (previousLt : previous < nodes.length) :
    heldKarpScan problem nodes tables previousMask last best previous =
      some (TspSolver.heldKarpScan problem nodes tables previousMask last best previous) := by
  rw [heldKarpScan, TspSolver.heldKarpScan, bit_of_lt (previousLt.trans narrow)]
  simp only [Option.bind_eq_bind, Option.bind_some, cost_eq sized maskLt previousLt]
  split
  · rfl
  · split
    · rfl
    · rw [read_of_lt previousLt 0, read_of_lt lastLt 0]
      simp only [Option.bind_some,
        distance_eq square (inside.getD_lt previousLt) (inside.getD_lt lastLt)]
      split <;> rfl

theorem heldKarpCell_eq (sized : tables.Sized nodes.length) (maskLt : mask < 1 <<< nodes.length)
    (lastLt : last < nodes.length) :
    heldKarpCell problem nodes mask tables last =
      some (TspSolver.heldKarpCell problem nodes mask tables last) := by
  rw [heldKarpCell, TspSolver.heldKarpCell, bit_of_lt (lastLt.trans narrow)]
  simp only [Option.bind_eq_bind, Option.bind_some]
  split
  · rfl
  · next bitSet =>
      split
      · rfl
      · have member : mask.testBit last = true := by
          simpa [Mask.and_bit_eq_zero_iff] using bitSet
        have scanned (initial : Cost × ℕ) := foldlM_eq_some_of_forall initial
          (fun best previous previousMem => heldKarpScan_eq square inside narrow sized
            ((Mask.clear_lt member).trans maskLt) lastLt best (List.mem_range.mp previousMem))
        rw [cost_eq sized maskLt lastLt, parentOf_eq sized maskLt lastLt]
        simp only [Option.bind_some, scanned, setCost_eq sized maskLt lastLt]
        exact setParent_eq (sized.setCost _ _ _) maskLt lastLt _

omit square inside narrow in
theorem sized_heldKarpCell (sized : tables.Sized nodes.length) (mask last : ℕ) :
    (TspSolver.heldKarpCell problem nodes mask tables last).Sized nodes.length := by
  unfold TspSolver.heldKarpCell
  dsimp only
  split
  · exact sized
  · split
    · exact sized
    · exact sized.setCell mask last _

omit square inside narrow in
theorem sized_heldKarpRow (sized : tables.Sized nodes.length) (mask : ℕ) :
    (TspSolver.heldKarpRow problem nodes tables mask).Sized nodes.length :=
  foldl_induction (fun state : HeldKarpTables => state.Sized nodes.length) sized
    (fun _ _ _ stateSized => sized_heldKarpCell stateSized _ _)

theorem heldKarpRow_eq (sized : tables.Sized nodes.length) (maskLt : mask < 1 <<< nodes.length) :
    heldKarpRow problem nodes tables mask =
      some (TspSolver.heldKarpRow problem nodes tables mask) :=
  foldlM_eq_some (fun state : HeldKarpTables => state.Sized nodes.length) sized
    (fun _ _ _ stateSized => sized_heldKarpCell stateSized _ _)
    (fun _ _ lastMem stateSized => heldKarpCell_eq square inside narrow stateSized maskLt
      (List.mem_range.mp lastMem))

theorem heldKarpTables_eq (startLt : start < problem.size) :
    heldKarpTables problem start nodes = some (TspSolver.heldKarpTables problem start nodes) := by
  have singletons : (List.range nodes.length).foldlM (heldKarpSingleton problem start nodes)
      (fresh (1 <<< nodes.length * nodes.length)) =
      some (heldKarpSingletons problem start nodes) := by
    apply foldlM_eq_some (fun state : HeldKarpTables => state.Sized nodes.length)
      (sized_fresh nodes.length) (fun _ _ _ stateSized => stateSized.setCost _ _ _)
    intro state last lastMem stateSized
    have lastLt := List.mem_range.mp lastMem
    rw [heldKarpSingleton, bit_of_lt (lastLt.trans narrow), read_of_lt lastLt 0]
    simp only [Option.bind_eq_bind, Option.bind_some,
      distance_eq square startLt (inside.getD_lt lastLt)]
    exact setCost_eq stateSized (bit_lt_full lastLt) lastLt _
  rw [heldKarpTables, bit_of_lt narrow]
  simp only [Option.bind_eq_bind, Option.bind_some, singletons]
  apply foldlM_eq_some (fun state : HeldKarpTables => state.Sized nodes.length)
    (heldKarpSingletons_spec problem start nodes).1
    (fun _ _ _ stateSized => sized_heldKarpRow stateSized _)
  intro state mask maskMem stateSized
  have bounds := List.mem_range'_1.mp maskMem
  exact heldKarpRow_eq square inside narrow stateSized (by omega)

omit narrow in
theorem heldKarpClosing_eq_some (sized : tables.Sized nodes.length) (startLt : start < problem.size)
    (best : Cost × ℕ) (lastLt : last < nodes.length) :
    heldKarpClosing problem start nodes tables (1 <<< nodes.length - 1) best last =
      some (TspSolver.heldKarpClosing problem start nodes tables best last) := by
  rw [heldKarpClosing, TspSolver.heldKarpClosing, cost_eq sized (full_lt nodes) lastLt]
  simp only [Option.bind_eq_bind, Option.bind_some]
  split
  · rfl
  · rw [read_of_lt lastLt 0]
    simp only [Option.bind_some, distance_eq square (inside.getD_lt lastLt) startLt]
    split <;> rfl

end Search

/-! ## Backtracking -/

/-- With a turn for every position, the loop lists the chain and breaks. -/
theorem heldKarpBacktrack_of_chain (recovered : PositionsRecovered start nodes)
    (narrow : nodes.length < 64) (sized : tables.Sized nodes.length) {rest : List ℕ}
    (maskLt : mask < 1 <<< nodes.length) (chain : Chain nodes tables mask (last :: rest))
    {turns : ℕ} (enough : rest.length < turns) (reversedOrder : List ℕ) :
    heldKarpBacktrack start nodes.length tables turns mask last reversedOrder =
      some (reversedOrder ++ trailNodes nodes rest) := by
  induction rest generalizing mask last turns reversedOrder with
  | nil =>
      have single := Mask.clear_eq_zero_iff.mpr
        (chain.lists.mask_eq (Mask.Lists.singleton last))
      have lastLt := Mask.lt_width_of_testBit maskLt chain.lists.head
      cases turns with
      | zero => exact absurd enough (Nat.not_lt_zero _)
      | succ turns =>
          rw [heldKarpBacktrack, bit_of_lt (lastLt.trans narrow)]
          simp only [Option.bind_eq_bind, Option.bind_some, if_pos single]
          simp [trailNodes]
  | cons previous rest ih =>
      have several : mask ^^^ 1 <<< last ≠ 0 := by
        intro single
        simpa using chain.eq_nil single
      have lastLt := Mask.lt_width_of_testBit maskLt chain.lists.head
      rcases chain.exists_parent several with ⟨parent, shorter, restEq, parentEq, furtherChain⟩
      cases restEq
      cases turns with
      | zero => exact absurd enough (Nat.not_lt_zero _)
      | succ turns =>
          have smaller := (Mask.clear_lt chain.lists.head).trans maskLt
          have previousLt := Mask.lt_width_of_testBit smaller furtherChain.lists.head
          rw [heldKarpBacktrack, bit_of_lt (lastLt.trans narrow)]
          simp only [Option.bind_eq_bind, Option.bind_some, if_neg several,
            parentOf_eq sized maskLt lastLt, parentEq, recovered previous previousLt]
          rw [ih smaller furtherChain (by simpa using enough)]
          simp [trailNodes]

/-! ## The solver -/

theorem inside_heldKarpNodes (small : problem.size < 2 ^ 32) (start : ℕ) :
    Inside problem (heldKarpNodes problem start) :=
  fun _ nodeMem => ((mem_heldKarpNodes_iff small).mp nodeMem).1

/-- The checked search ends like the plain one, in an error or in the tour of its winner. -/
theorem heldKarpSearch_eq (square : problem.isSquare = true)
    (few : problem.size ≤ kHeldKarpCutoff) (several : 2 ≤ problem.size)
    (startLt : start < problem.size) :
    heldKarpSearch problem start = some
      (if (searchBest problem start).1 = kInf then
        .error (.outOfRange "held-karp solver could not construct a tour")
      else .ok
        { order := start :: (TspSolver.heldKarpBacktrack start (heldKarpNodes problem start).length
            (searchTables problem start) (heldKarpNodes problem start).length
            (1 <<< (heldKarpNodes problem start).length - 1) (searchBest problem start).2
            [(heldKarpNodes problem start).getD (searchBest problem start).2 0]).reverse
          totalCost := (searchBest problem start).1 }) := by
  have sizeLt := size_lt_of_le_cutoff few
  have width := length_heldKarpNodes sizeLt startLt
  have narrow : (heldKarpNodes problem start).length < 64 := by
    rw [kHeldKarpCutoff] at few
    omega
  have inside := inside_heldKarpNodes sizeLt start
  have recovered := positionsRecovered_heldKarpNodes sizeLt startLt
  have sized := sized_heldKarpTables problem start (heldKarpNodes problem start)
  have filled := filled_heldKarpTables problem start (heldKarpNodes problem start)
  have tabled := heldKarpTables_eq square inside narrow startLt
  rw [heldKarpSearch, searchTables, searchBest, searchTables]
  generalize heldKarpNodes problem start = nodes at *
  generalize TspSolver.heldKarpTables problem start nodes = tables at *
  have closed : (List.range nodes.length).foldlM
      (heldKarpClosing problem start nodes tables (1 <<< nodes.length - 1)) (kInf, 0) =
      some (closingBest problem start nodes tables) :=
    foldlM_eq_some_of_forall _ fun best last lastMem =>
      heldKarpClosing_eq_some square inside sized startLt best (List.mem_range.mp lastMem)
  simp only [tabled, bit_of_lt narrow, Option.bind_eq_bind, Option.bind_some, closed]
  split
  · rfl
  · next found =>
      rcases filled.exists_winner found with ⟨rest, winner⟩
      have lastLt := Mask.lt_width_of_testBit (full_lt nodes) winner.chain.lists.head
      have lengthLe := winner.chain.lists.length_le (full_lt nodes)
      rw [List.length_cons] at lengthLe
      rw [read_of_lt lastLt 0]
      simp only [Option.bind_some]
      rw [heldKarpBacktrack_of_chain recovered narrow sized (full_lt nodes) winner.chain
          (by omega), winner.chain.backtrack recovered (full_lt nodes) (by omega)]
      rfl

theorem heldKarpTour_eq (problem : Problem) (startNode : ℕ) :
    heldKarpTour problem startNode = some (TspSolver.heldKarpTour problem startNode) := by
  unfold heldKarpTour TspSolver.heldKarpTour
  split
  · rfl
  · next notSquare =>
      have square : problem.isSquare = true := by simpa using notSquare
      split
      · rfl
      · next nonempty =>
          have startLt := normalizeStartNode_lt nonempty startNode
          split
          · rfl
          · next few =>
              dsimp only
              split
              · rw [distance_eq square startLt startLt]
                rfl
              · exact heldKarpSearch_eq square (not_lt.mp few) (by omega) startLt

end Checked

end TspSolver
