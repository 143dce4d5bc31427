import TspSolver.HeldKarp
import TspSolver.Loop.Fold
import TspSolver.Machine.Mask
import Mathlib.Tactic.Linarith

/-!
# The filled Held-Karp tables

Masks are processed in increasing order and a cell only reads the row of its
mask without its last position, a smaller mask. So every cell of the final
tables is the outcome of its own scan over the final tables.
-/

namespace TspSolver

namespace HeldKarpTables

/-- Both table entries of one mask and last position. -/
def cell (tables : HeldKarpTables) (width mask last : ℕ) : Cost × ℕ :=
  (tables.cost width mask last, tables.parentOf width mask last)

/-- Both entries of one mask and last position, written in turn. -/
def setCell (tables : HeldKarpTables) (width mask last : ℕ) (value : Cost × ℕ) :
    HeldKarpTables :=
  (tables.setCost width mask last value.1).setParent width mask last value.2

/-- Tables with one entry for every mask and position below the width. -/
structure Sized (tables : HeldKarpTables) (width : ℕ) : Prop where
  dp_size : tables.dp.size = 1 <<< width * width
  parent_size : tables.parent.size = 1 <<< width * width

theorem sized_fresh (width : ℕ) : (fresh (1 <<< width * width)).Sized width where
  dp_size := Array.size_replicate
  parent_size := Array.size_replicate

theorem Sized.setCost {tables : HeldKarpTables} {width : ℕ} (sized : tables.Sized width)
    (mask last : ℕ) (value : Cost) : (tables.setCost width mask last value).Sized width where
  dp_size := by simpa [HeldKarpTables.setCost] using sized.dp_size
  parent_size := sized.parent_size

theorem Sized.setCell {tables : HeldKarpTables} {width : ℕ} (sized : tables.Sized width)
    (mask last : ℕ) (value : Cost × ℕ) : (tables.setCell width mask last value).Sized width where
  dp_size := (sized.setCost mask last value.1).dp_size
  parent_size := by
    simpa [HeldKarpTables.setCell, HeldKarpTables.setParent, HeldKarpTables.setCost]
      using sized.parent_size

theorem index_lt {width mask last : ℕ} (maskLt : mask < 1 <<< width) (lastLt : last < width) :
    index width mask last < 1 <<< width * width := by
  have rows : (mask + 1) * width ≤ 1 <<< width * width := Nat.mul_le_mul_right width maskLt
  rw [Nat.add_mul, Nat.one_mul] at rows
  rw [index]
  omega

theorem index_inj {width mask last otherMask other : ℕ} (lastLt : last < width)
    (otherLt : other < width) (same : index width mask last = index width otherMask other) :
    mask = otherMask ∧ last = other := by
  have rowOf (row column : ℕ) (columnLt : column < width) :
      index width row column / width = row := by
    rw [index, Nat.mul_comm, Nat.mul_add_div (by omega), Nat.div_eq_of_lt columnLt, Nat.add_zero]
  have rows : mask = otherMask := by
    rw [← rowOf mask last lastLt, same, rowOf otherMask other otherLt]
  subst rows
  rw [index, index] at same
  exact ⟨rfl, by omega⟩

theorem getD_setIfInBounds {Entry : Type} (entries : Array Entry) {place : ℕ}
    (inside : place < entries.size) (value default : Entry) (other : ℕ) :
    (entries.setIfInBounds place value).getD other default =
      if other = place then value else entries.getD other default := by
  rw [Array.getD_eq_getD_getElem?, Array.getD_eq_getD_getElem?, Array.getElem?_setIfInBounds]
  by_cases here : place = other
  · subst here
    simp [inside]
  · simp [here, Ne.symm here]

section Updates

variable {tables : HeldKarpTables} {width mask last : ℕ}

theorem cell_setCost (sized : tables.Sized width) (maskLt : mask < 1 <<< width)
    (lastLt : last < width) (value : Cost) {otherMask other : ℕ} (otherLt : other < width) :
    (tables.setCost width mask last value).cell width otherMask other =
      if otherMask = mask ∧ other = last then (value, tables.parentOf width mask last)
      else tables.cell width otherMask other := by
  have inside : index width mask last < tables.dp.size := by
    rw [sized.dp_size]
    exact index_lt maskLt lastLt
  simp only [cell, cost, setCost, parentOf, getD_setIfInBounds _ inside]
  by_cases here : otherMask = mask ∧ other = last
  · rw [if_pos here, here.1, here.2, if_pos rfl]
  · rw [if_neg here, if_neg]
    exact fun same => here (index_inj otherLt lastLt same)

theorem cell_setCell (sized : tables.Sized width) (maskLt : mask < 1 <<< width)
    (lastLt : last < width) (value : Cost × ℕ) {otherMask other : ℕ} (otherLt : other < width) :
    (tables.setCell width mask last value).cell width otherMask other =
      if otherMask = mask ∧ other = last then value else tables.cell width otherMask other := by
  have inside : index width mask last < tables.dp.size := by
    rw [sized.dp_size]
    exact index_lt maskLt lastLt
  have insideParent : index width mask last < tables.parent.size := by
    rw [sized.parent_size]
    exact index_lt maskLt lastLt
  simp only [cell, cost, setCell, setCost, setParent, parentOf, getD_setIfInBounds _ inside,
    getD_setIfInBounds _ insideParent]
  by_cases here : otherMask = mask ∧ other = last
  · rw [if_pos here, here.1, here.2, if_pos rfl, if_pos rfl]
  · have apart : index width otherMask other ≠ index width mask last :=
      fun same => here (index_inj otherLt lastLt same)
    rw [if_neg here, if_neg apart, if_neg apart]

end Updates

end HeldKarpTables

open HeldKarpTables

/-! ## The equation of a cell -/

/-- What the scan for one mask and last position yields; a singleton keeps its first edge. -/
def heldKarpValue (problem : Problem) (start : ℕ) (nodes : List ℕ) (tables : HeldKarpTables)
    (mask last : ℕ) : Cost × ℕ :=
  if mask ^^^ 1 <<< last = 0 then (problem.distance start (nodes.getD last 0), noParent)
  else (List.range nodes.length).foldl
    (heldKarpScan problem nodes tables (mask ^^^ 1 <<< last) last) (kInf, noParent)

/-- Every cell is the outcome of its own scan. -/
def Filled (problem : Problem) (start : ℕ) (nodes : List ℕ) (tables : HeldKarpTables) : Prop :=
  ∀ mask last, mask < 1 <<< nodes.length → last < nodes.length → mask.testBit last = true →
    tables.cell nodes.length mask last = heldKarpValue problem start nodes tables mask last

variable {problem : Problem} {start : ℕ} {nodes : List ℕ}

/-- The scan reads one row of the cost table. -/
theorem heldKarpScan_congr {tables other : HeldKarpTables} {previousMask last : ℕ}
    (sameRow : ∀ previous < nodes.length,
      tables.cost nodes.length previousMask previous =
        other.cost nodes.length previousMask previous) (initial : Cost × ℕ) :
    (List.range nodes.length).foldl
        (heldKarpScan problem nodes tables previousMask last) initial =
      (List.range nodes.length).foldl
        (heldKarpScan problem nodes other previousMask last) initial := by
  apply List.foldl_ext
  intro best previous previousMem
  simp only [heldKarpScan, sameRow previous (List.mem_range.mp previousMem)]

theorem heldKarpValue_congr {tables other : HeldKarpTables} {mask last : ℕ}
    (sameRow : ∀ previous < nodes.length,
      tables.cell nodes.length (mask ^^^ 1 <<< last) previous =
        other.cell nodes.length (mask ^^^ 1 <<< last) previous) :
    heldKarpValue problem start nodes tables mask last =
      heldKarpValue problem start nodes other mask last := by
  unfold heldKarpValue
  rw [heldKarpScan_congr]
  intro previous previousLt
  exact congrArg Prod.fst (sameRow previous previousLt)

/-! ## The loops -/

theorem bit_lt_full {width last : ℕ} (lastLt : last < width) : 1 <<< last < 1 <<< width := by
  rw [Nat.one_shiftLeft, Nat.one_shiftLeft]
  exact Nat.pow_lt_pow_right Nat.one_lt_two lastLt

theorem cell_fresh (width size mask last : ℕ) (inside : index width mask last < size) :
    (fresh size).cell width mask last = (kInf, noParent) := by
  simp [cell, cost, parentOf, fresh, Array.getD_eq_getD_getElem?, inside]

theorem heldKarpSingletons_spec (problem : Problem) (start : ℕ) (nodes : List ℕ) :
    (heldKarpSingletons problem start nodes).Sized nodes.length ∧
      ∀ mask last, mask < 1 <<< nodes.length → last < nodes.length →
        (heldKarpSingletons problem start nodes).cell nodes.length mask last =
          if mask = 1 <<< last then (problem.distance start (nodes.getD last 0), noParent)
          else (kInf, noParent) := by
  have written : (heldKarpSingletons problem start nodes).Sized nodes.length ∧
      ∀ mask last, mask < 1 <<< nodes.length → last < nodes.length →
        (heldKarpSingletons problem start nodes).cell nodes.length mask last =
          if mask = 1 <<< last ∧ last < nodes.length then
            (problem.distance start (nodes.getD last 0), noParent)
          else (kInf, noParent) := by
    refine Loop.foldl_range_induction
      (fun count (tables : HeldKarpTables) => tables.Sized nodes.length ∧
        ∀ mask last, mask < 1 <<< nodes.length → last < nodes.length →
          tables.cell nodes.length mask last =
            if mask = 1 <<< last ∧ last < count then
              (problem.distance start (nodes.getD last 0), noParent)
            else (kInf, noParent))
      nodes.length ⟨sized_fresh nodes.length, ?_⟩ ?_
    · intro mask last maskLt lastLt
      rw [cell_fresh _ _ _ _ (index_lt maskLt lastLt), if_neg]
      rintro ⟨_, negative⟩
      omega
    · intro count tables countLt invariant
      rcases invariant with ⟨sized, cells⟩
      refine ⟨sized.setCost _ _ _, ?_⟩
      intro mask last maskLt lastLt
      have bitLt := bit_lt_full countLt
      rw [cell_setCost sized bitLt countLt _ lastLt]
      by_cases here : mask = 1 <<< count ∧ last = count
      · have parentEq := congrArg Prod.snd (cells (1 <<< count) count bitLt countLt)
        rw [if_neg (by omega)] at parentEq
        rw [if_pos here, here.2, if_pos ⟨here.1, by omega⟩]
        exact congrArg _ parentEq
      · rw [if_neg here, cells mask last maskLt lastLt]
        by_cases single : mask = 1 <<< last
        · have distinct : last ≠ count := fun same => here ⟨same ▸ single, same⟩
          have sameBound : (last < count + 1) ↔ last < count := by omega
          simp only [sameBound]
        · rw [if_neg (fun both => single both.1), if_neg (fun both => single both.1)]
  refine ⟨written.1, ?_⟩
  intro mask last maskLt lastLt
  rw [written.2 mask last maskLt lastLt]
  simp only [lastLt, and_true]

/-- One turn of the inner loop: the cell of a member takes the outcome of its scan. -/
theorem heldKarpCell_spec (problem : Problem) (start : ℕ) {nodes : List ℕ}
    {tables : HeldKarpTables} (sized : tables.Sized nodes.length) {mask last : ℕ}
    (maskLt : mask < 1 <<< nodes.length) (lastLt : last < nodes.length)
    (unwritten : tables.cell nodes.length mask last =
      if mask = 1 <<< last then (problem.distance start (nodes.getD last 0), noParent)
      else (kInf, noParent)) :
    (heldKarpCell problem nodes mask tables last).Sized nodes.length ∧
      ∀ otherMask other, other < nodes.length →
        (heldKarpCell problem nodes mask tables last).cell nodes.length otherMask other =
          if (otherMask = mask ∧ other = last) ∧ mask.testBit last = true then
            heldKarpValue problem start nodes tables mask last
          else tables.cell nodes.length otherMask other := by
  by_cases member : mask.testBit last = true
  · have bitSet : ¬mask &&& 1 <<< last = 0 := by
      rw [Mask.and_bit_eq_zero_iff]
      simp [member]
    simp only [heldKarpCell, if_neg bitSet]
    by_cases single : mask ^^^ 1 <<< last = 0
    · -- The singleton rows were written before the loop.
      rw [if_pos single]
      rw [if_pos (Mask.clear_eq_zero_iff.mp single)] at unwritten
      refine ⟨sized, ?_⟩
      intro otherMask other _
      by_cases here : otherMask = mask ∧ other = last
      · rw [if_pos ⟨here, member⟩, here.1, here.2, unwritten, heldKarpValue, if_pos single]
      · rw [if_neg (fun both => here both.1)]
    · rw [if_neg single]
      rw [if_neg (fun same => single (Mask.clear_eq_zero_iff.mpr same))] at unwritten
      have value : heldKarpValue problem start nodes tables mask last =
          (List.range nodes.length).foldl
            (heldKarpScan problem nodes tables (mask ^^^ 1 <<< last) last)
            (tables.cell nodes.length mask last) := by
        rw [heldKarpValue, if_neg single, unwritten]
      rw [value]
      refine ⟨sized.setCell mask last _, ?_⟩
      intro otherMask other otherLt
      simp only [member, and_true]
      exact cell_setCell sized maskLt lastLt _ otherLt
  · have bitClear : mask &&& 1 <<< last = 0 := by
      rw [Mask.and_bit_eq_zero_iff]
      simpa using member
    rw [heldKarpCell, if_pos bitClear]
    refine ⟨sized, ?_⟩
    intro otherMask other _
    rw [if_neg (fun both => member both.2)]

/-- One row: its cells take the outcomes of their scans, and no other row changes. -/
theorem heldKarpRow_spec (problem : Problem) (start : ℕ) {nodes : List ℕ}
    {tables : HeldKarpTables} (sized : tables.Sized nodes.length) {mask : ℕ}
    (maskLt : mask < 1 <<< nodes.length)
    (unwritten : ∀ last < nodes.length, tables.cell nodes.length mask last =
      if mask = 1 <<< last then (problem.distance start (nodes.getD last 0), noParent)
      else (kInf, noParent)) :
    (heldKarpRow problem nodes tables mask).Sized nodes.length ∧
      ∀ otherMask last, last < nodes.length →
        (heldKarpRow problem nodes tables mask).cell nodes.length otherMask last =
          if otherMask = mask ∧ mask.testBit last = true then
            heldKarpValue problem start nodes tables mask last
          else tables.cell nodes.length otherMask last := by
  have written := Loop.foldl_range_induction
    (fun count (state : HeldKarpTables) => state.Sized nodes.length ∧
      ∀ otherMask last, last < nodes.length →
        state.cell nodes.length otherMask last =
          if (otherMask = mask ∧ last < count) ∧ mask.testBit last = true then
            heldKarpValue problem start nodes tables mask last
          else tables.cell nodes.length otherMask last)
    nodes.length ⟨sized, by simp⟩ (by
      intro count state countLt invariant
      rcases invariant with ⟨stateSized, cells⟩
      have same := cells mask count countLt
      rw [if_neg (by omega)] at same
      rcases heldKarpCell_spec problem start stateSized maskLt countLt
        (same.trans (unwritten count countLt)) with ⟨nextSized, next⟩
      refine ⟨nextSized, ?_⟩
      intro otherMask last lastLt
      rw [next otherMask last lastLt, cells otherMask last lastLt]
      by_cases turn : (otherMask = mask ∧ last = count) ∧ mask.testBit count = true
      · -- The scan of this turn reads the row of a smaller mask, which this row leaves alone.
        rcases turn with ⟨⟨rfl, rfl⟩, member⟩
        rw [if_pos ⟨⟨rfl, rfl⟩, member⟩, if_pos ⟨⟨rfl, by omega⟩, member⟩]
        apply heldKarpValue_congr
        intro previous previousLt
        have smaller := Mask.clear_lt member
        rw [cells _ previous previousLt, if_neg (by omega)]
      · rw [if_neg turn]
        by_cases here : last = count
        · subst here
          have member : ¬(otherMask = mask ∧ mask.testBit last = true) :=
            fun both => turn ⟨⟨both.1, rfl⟩, both.2⟩
          rw [if_neg (by omega), if_neg (fun both => member ⟨both.1.1, both.2⟩)]
        · have sameBound : (last < count + 1) ↔ last < count := by omega
          simp only [sameBound])
  refine ⟨written.1, ?_⟩
  intro otherMask last lastLt
  rw [heldKarpRow, written.2 otherMask last lastLt]
  simp only [lastLt, and_true]

theorem heldKarpTables_spec (problem : Problem) (start : ℕ) (nodes : List ℕ) :
    (heldKarpTables problem start nodes).Sized nodes.length ∧
      Filled problem start nodes (heldKarpTables problem start nodes) := by
  rcases heldKarpSingletons_spec problem start nodes with ⟨sized, initial⟩
  have full : 1 ≤ 1 <<< nodes.length := by
    rw [Nat.one_shiftLeft]
    exact Nat.one_le_two_pow
  -- Rows below the loop counter are filled, the others still hold their initial entries.
  have done := Loop.foldl_range'_induction
    (fun count (tables : HeldKarpTables) => tables.Sized nodes.length ∧
      (∀ mask last, mask < count → last < nodes.length → mask.testBit last = true →
        tables.cell nodes.length mask last =
          heldKarpValue problem start nodes tables mask last) ∧
      ∀ mask last, count ≤ mask → mask < 1 <<< nodes.length → last < nodes.length →
        tables.cell nodes.length mask last =
          if mask = 1 <<< last then (problem.distance start (nodes.getD last 0), noParent)
          else (kInf, noParent))
    1 (1 <<< nodes.length - 1)
    ⟨sized, by
      intro mask last maskLt _ member
      have zero : mask = 0 := by omega
      simp [zero] at member, fun mask last _ => initial mask last⟩
    (by
      intro mask tables maskPos maskLt invariant
      rcases invariant with ⟨sized, filled, waiting⟩
      rcases heldKarpRow_spec problem start sized (show mask < 1 <<< nodes.length by omega)
        (fun last => waiting mask last le_rfl (by omega)) with ⟨nextSized, next⟩
      refine ⟨nextSized, ?_, ?_⟩
      · intro otherMask last otherLt lastLt member
        have smaller := Mask.clear_lt member
        have value : heldKarpValue problem start nodes (heldKarpRow problem nodes tables mask)
            otherMask last = heldKarpValue problem start nodes tables otherMask last := by
          apply heldKarpValue_congr
          intro previous previousLt
          rw [next _ previous previousLt, if_neg (by omega)]
        rw [value, next otherMask last lastLt]
        by_cases here : otherMask = mask
        · subst here
          rw [if_pos ⟨rfl, member⟩]
        · rw [if_neg (fun both => here both.1)]
          exact filled otherMask last (by omega) lastLt member
      · intro otherMask last later otherLt lastLt
        rw [next otherMask last lastLt, if_neg (by omega)]
        exact waiting otherMask last (by omega) otherLt lastLt)
  refine ⟨done.1, ?_⟩
  intro mask last maskLt lastLt member
  exact done.2.1 mask last (by omega) lastLt member

theorem sized_heldKarpTables (problem : Problem) (start : ℕ) (nodes : List ℕ) :
    (heldKarpTables problem start nodes).Sized nodes.length :=
  (heldKarpTables_spec problem start nodes).1

theorem filled_heldKarpTables (problem : Problem) (start : ℕ) (nodes : List ℕ) :
    Filled problem start nodes (heldKarpTables problem start nodes) :=
  (heldKarpTables_spec problem start nodes).2

end TspSolver
