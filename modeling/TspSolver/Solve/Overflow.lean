import TspSolver.Solve.Exact
import TspSolver.Solve.Coherence

/-!
# Runs without overflow

Nothing in the code guards its sums. What keeps them exact is a bound on the
distances: when `n` times the largest absolute distance is a 64-bit value, no
sum of any algorithm overflows, whatever the seed.
-/

namespace TspSolver

open HeldKarpTables

/-- All distances are at most `bound` in absolute value. -/
def Problem.Bounded (problem : Problem) (bound : ℤ) : Prop :=
  ∀ source target, |problem.edge source target| ≤ bound

theorem Problem.bounded_of_rows {problem : Problem} {bound : ℤ} (nonneg : 0 ≤ bound)
    (rows : problem.distances.all fun row => row.all fun entry => |entry.toInt| ≤ bound) :
    problem.Bounded bound := by
  intro source target
  rcases problem.distance_mem_or_eq_zero source target with ⟨row, rowMem, entryMem⟩ | zero
  · exact of_decide_eq_true (List.all_eq_true.mp (List.all_eq_true.mp rows row rowMem) _ entryMem)
  · rw [Problem.edge, zero]
    exact nonneg

theorem twoOptPairs_ordered {length : ℕ} {pair : ℕ × ℕ} (pairMem : pair ∈ twoOptPairs length) :
    pair.1 ≤ pair.2 := by
  rcases List.mem_flatMap.mp pairMem with ⟨i, _, inner⟩
  rcases List.mem_map.mp inner with ⟨k, kMem, rfl⟩
  have bounds := List.mem_range'_1.mp kMem
  dsimp only
  omega

/-- A table entry that is not `kInf` is bounded by the edges of some path over its mask. -/
def PathBounded (bound : ℤ) (mask : ℕ) (cost : Cost) : Prop :=
  cost ≠ kInf → ∃ trail, Mask.Lists mask trail ∧ |cost.toInt| ≤ bound * trail.length

/-- Tables of full size whose paths are bounded by their edges. -/
structure TablesBounded (nodes : List ℕ) (bound : ℤ) (tables : HeldKarpTables) : Prop where
  sized : tables.Sized nodes.length
  costs : ∀ mask last, mask < 1 <<< nodes.length → last < nodes.length →
    PathBounded bound mask (tables.cost nodes.length mask last)

theorem TablesBounded.setCell {nodes : List ℕ} {bound : ℤ} {tables : HeldKarpTables}
    (tablesBounded : TablesBounded nodes bound tables) {mask last : ℕ}
    (maskLt : mask < 1 <<< nodes.length) (lastLt : last < nodes.length) {value : Cost × ℕ}
    (valueBounded : PathBounded bound mask value.1) :
    TablesBounded nodes bound (tables.setCell nodes.length mask last value) where
  sized := tablesBounded.sized.setCell mask last value
  costs otherMask other otherMaskLt otherLt := by
    have cellEq := @cell_setCell _ _ _ _ tablesBounded.sized maskLt lastLt value otherMask other
      otherLt
    have costEq := congrArg Prod.fst cellEq
    simp only [cell] at costEq
    rw [costEq]
    split
    · next here => exact here.1 ▸ valueBounded
    · exact tablesBounded.costs otherMask other otherMaskLt otherLt

section Bounded

variable {problem : Problem} {bound : ℤ} (bounded : problem.Bounded bound)
  (limit : bound * problem.size < 2 ^ 63)

include bounded

theorem Problem.Bounded.nonneg : 0 ≤ bound := (abs_nonneg _).trans (bounded 0 0)

theorem Problem.Bounded.single (source target : ℕ) :
    |(problem.distance source target).toInt| ≤ bound * (1 : ℕ) := by
  rw [Nat.cast_one, mul_one]
  exact bounded source target

include limit

/-- A sum of at most as many distances as there are nodes fits. -/
theorem Problem.Bounded.fits {sum : ℤ} {terms : ℕ} (sumLe : |sum| ≤ bound * terms)
    (few : terms ≤ problem.size) : Int64.Fits sum := by
  have nonneg := bounded.nonneg
  have termsLe : bound * terms ≤ bound * problem.size := by
    apply mul_le_mul_of_nonneg_left _ nonneg
    exact_mod_cast few
  rcases abs_le.mp sumLe with ⟨lower, upper⟩
  constructor <;> omega

/-- One more distance on a machine total: the sum fits and the total grows by it. -/
theorem Problem.Bounded.add {total : Cost} {terms : ℕ} (totalLe : |total.toInt| ≤ bound * terms)
    (few : terms + 1 ≤ problem.size) (source target : ℕ) :
    Int64.Fits (total.toInt + problem.edge source target) ∧
      |(total + problem.distance source target).toInt| ≤ bound * (terms + 1 : ℕ) := by
  have sumLe : |total.toInt + problem.edge source target| ≤ bound * (terms + 1 : ℕ) := by
    calc
      |total.toInt + problem.edge source target|
          ≤ |total.toInt| + |problem.edge source target| := abs_add_le _ _
      _ ≤ bound * terms + bound := add_le_add totalLe (bounded source target)
      _ = bound * (terms + 1 : ℕ) := by
        push_cast
        ring
  have fits := bounded.fits limit sumLe few
  refine ⟨fits, ?_⟩
  rw [Int64.toInt_add_of_fits fits]
  exact sumLe

/-! ## Local search -/

theorem routeSums_fit {order : List ℕ} (lengthLe : order.length ≤ problem.size) :
    ∀ sum ∈ routeSums problem order, Int64.Fits sum := by
  apply Loop.forall_mem_entries_range
    (fun terms (total : Cost) => |total.toInt| ≤ bound * terms) Int64.Fits order.length
  · simp
  · intro index total indexLt totalLe
    exact (bounded.add limit totalLe (by omega) _ _).2
  · intro index total indexLt totalLe sum sumMem
    rw [List.mem_singleton.mp sumMem]
    exact (bounded.add limit totalLe (by omega) _ _).1

theorem twoOptPassSums_fit {best : Tour} (lengthEq : best.order.length = problem.size)
    {pairs : List (ℕ × ℕ)} (ordered : ∀ pair ∈ pairs, pair.1 ≤ pair.2) :
    ∀ sum ∈ twoOptPassSums problem best pairs, Int64.Fits sum := by
  induction pairs with
  | nil => simp [twoOptPassSums]
  | cons pair rest ih =>
      intro sum sumMem
      rw [twoOptPassSums, List.mem_append] at sumMem
      rcases sumMem with now | later
      · have sameLength := (reverseSegment_perm (ordered pair (by simp)) best.order).length_eq
        exact routeSums_fit bounded limit (by omega) sum now
      · split at later
        · simp at later
        · exact ih (fun other otherMem => ordered other (by simp [otherMem])) sum later

theorem twoOptLoopSums_fit {best : Tour} (lengthEq : best.order.length = problem.size) :
    ∀ sum ∈ twoOptLoopSums problem best, Int64.Fits sum := by
  intro sum sumMem
  rw [twoOptLoopSums, List.mem_append] at sumMem
  rcases sumMem with pass | later
  · exact twoOptPassSums_fit bounded limit lengthEq
      (fun _ pairMem => twoOptPairs_ordered pairMem) sum pass
  · split at later
    · simp at later
    · next better improved =>
        rcases twoOptPass_eq_some improved with ⟨i, k, _, ordered, _, move⟩
        have orderEq := (twoOptMove_eq_some move).1
        have sameLength := (reverseSegment_perm ordered.le best.order).length_eq
        rw [← orderEq, lengthEq] at sameLength
        have lower := Tour.slack_lt (twoOptPass_lt improved)
        exact twoOptLoopSums_fit sameLength sum later
termination_by best.slack
decreasing_by exact lower

theorem twoOptRefineSums_fit {order : List ℕ} (lengthEq : order.length = problem.size) :
    ∀ sum ∈ twoOptRefineSums problem order, Int64.Fits sum := by
  intro sum sumMem
  rcases List.mem_append.mp sumMem with seed | loop
  · exact routeSums_fit bounded limit lengthEq.le sum seed
  · exact twoOptLoopSums_fit bounded limit lengthEq sum loop

theorem iteratedLocalSearchSums_fit (nonempty : problem.size ≠ 0) (startNode : ℕ)
    (randomSeed : UInt64) :
    ∀ sum ∈ iteratedLocalSearchSums problem startNode randomSeed, Int64.Fits sum := by
  have seedLength := length_buildNearestNeighborSeed nonempty startNode
  intro sum sumMem
  rcases List.mem_append.mp sumMem with first | rounds
  · exact twoOptRefineSums_fit bounded limit seedLength sum first
  · refine Loop.forall_mem_entries
      (fun state : Tour × UInt64 => state.1.order.length = problem.size) Int64.Fits
      ?_ ?_ ?_ sum rounds
    · rw [← seedLength]
      exact (twoOptRefine_rearranges problem _).perm.length_eq
    · intro state _ _ lengthEq
      have perturbed := (perturbTour_perm state.1.order state.2).length_eq
      have refined := (twoOptRefine_rearranges problem
        (perturbTour state.1.order state.2).1).perm.length_eq
      unfold iteratedLocalSearchStep
      dsimp only
      split
      · exact (refined.trans perturbed).trans lengthEq
      · exact lengthEq
    · intro state _ _ lengthEq
      have perturbed := (perturbTour_perm state.1.order state.2).length_eq
      exact twoOptRefineSums_fit bounded limit (perturbed.trans lengthEq)

theorem secondNodeSums_fit (several : 2 ≤ problem.size) (visited : List Bool) (first : ℕ) :
    ∀ sum ∈ secondNodeSums problem visited first, Int64.Fits sum := by
  intro sum sumMem
  rcases List.mem_flatMap.mp sumMem with ⟨candidate, _, recorded⟩
  split at recorded
  · simp at recorded
  · rw [List.mem_singleton.mp recorded]
    exact (bounded.add limit (bounded.single first candidate) several candidate first).1

theorem insertionDeltaSums_fit (several : 3 ≤ problem.size) (order : List ℕ)
    (candidate position : ℕ) :
    ∀ sum ∈ insertionDeltaSums problem order candidate position, Int64.Fits sum := by
  generalize sourceEq : order.getD position 0 = source
  generalize targetEq : order.getD ((position + 1) % order.length) 0 = target
  rcases bounded.add limit (bounded.single source candidate) (by omega) candidate target with
    ⟨addition, twoLe⟩
  intro sum sumMem
  simp only [insertionDeltaSums, sourceEq, targetEq, List.mem_cons, List.not_mem_nil,
    or_false] at sumMem
  rcases sumMem with rfl | rfl
  · exact addition
  · refine @Problem.Bounded.fits problem bound bounded limit _ 3 ?_ several
    calc
      |(problem.distance source candidate + problem.distance candidate target).toInt -
          problem.edge source target|
          ≤ |(problem.distance source candidate + problem.distance candidate target).toInt| +
            |problem.edge source target| := abs_sub _ _
      _ ≤ bound * (1 + 1 : ℕ) + bound := add_le_add twoLe (bounded source target)
      _ = bound * (3 : ℕ) := by
        push_cast
        ring

theorem insertionLoopSums_fit {visited : List Bool} {order : List ℕ}
    (several : 2 ≤ order.length) :
    ∀ sum ∈ insertionLoopSums problem visited order, Int64.Fits sum := by
  intro sum sumMem
  rw [insertionLoopSums] at sumMem
  split at sumMem
  · next unfinished =>
      rcases List.mem_append.mp sumMem with now | later
      · rcases List.mem_flatMap.mp now with ⟨candidate, _, recorded⟩
        split at recorded
        · simp at recorded
        · rcases List.mem_flatMap.mp recorded with ⟨position, _, delta⟩
          exact insertionDeltaSums_fit bounded limit (by omega) order candidate position sum delta
      · apply insertionLoopSums_fit _ sum later
        rw [length_insertAt]
        omega
  · simp at sumMem
termination_by problem.size - order.length
decreasing_by
  rw [length_insertAt]
  omega

theorem cheapestInsertionSums_fit (nonempty : problem.size ≠ 0) (startNode : ℕ) :
    ∀ sum ∈ cheapestInsertionSums problem startNode, Int64.Fits sum := by
  intro sum sumMem
  rcases List.mem_append.mp sumMem with built | route
  · split at built
    · simp at built
    · rcases List.mem_append.mp built with second | loop
      · exact secondNodeSums_fit bounded limit (by omega) _ _ sum second
      · exact insertionLoopSums_fit bounded limit (by simp) sum loop
  · apply routeSums_fit bounded limit _ sum route
    exact (buildCheapestInsertionSeed_spec nonempty startNode).1.le

/-! ## Held-Karp -/

variable {nodes : List ℕ} (small : nodes.length + 1 ≤ problem.size)

include small

/-- One predecessor: its sum fits, and the running best stays bounded. -/
theorem heldKarpScan_bounded {tables : HeldKarpTables}
    (tablesBounded : TablesBounded nodes bound tables) {mask last previous : ℕ}
    (maskLt : mask < 1 <<< nodes.length) (member : mask.testBit last = true)
    (previousLt : previous < nodes.length) :
    (∀ sum ∈ heldKarpScanSums problem nodes tables (mask ^^^ 1 <<< last) last previous,
      Int64.Fits sum) ∧
    ∀ best : Cost × ℕ, PathBounded bound mask best.1 → PathBounded bound mask
      (heldKarpScan problem nodes tables (mask ^^^ 1 <<< last) last best previous).1 := by
  unfold heldKarpScanSums heldKarpScan
  by_cases outside : (mask ^^^ 1 <<< last) &&& 1 <<< previous = 0
  · simp only [if_pos outside]
    exact ⟨by simp, fun _ bestBounded => bestBounded⟩
  · simp only [if_neg outside]
    by_cases unreached :
        tables.cost nodes.length (mask ^^^ 1 <<< last) previous = kInf
    · simp only [if_pos unreached]
      exact ⟨by simp, fun _ bestBounded => bestBounded⟩
    · simp only [if_neg unreached]
      have smaller := (Mask.clear_lt member).trans maskLt
      rcases tablesBounded.costs _ previous smaller previousLt unreached with
        ⟨trail, lists, costLe⟩
      have longer := lists.cons member
      have lengthLe := longer.length_le maskLt
      simp only [List.length_cons] at lengthLe
      rcases bounded.add limit costLe (by omega) (nodes.getD previous 0) (nodes.getD last 0) with
        ⟨fits, sumLe⟩
      refine ⟨fun sum sumMem => List.mem_singleton.mp sumMem ▸ fits, ?_⟩
      intro best bestBounded
      split
      · exact fun _ => ⟨last :: trail, longer, sumLe⟩
      · exact bestBounded

theorem heldKarpCell_bounded {tables : HeldKarpTables}
    (tablesBounded : TablesBounded nodes bound tables) {mask last : ℕ}
    (maskLt : mask < 1 <<< nodes.length) (lastLt : last < nodes.length) :
    (∀ sum ∈ heldKarpCellSums problem nodes mask tables last, Int64.Fits sum) ∧
      TablesBounded nodes bound (heldKarpCell problem nodes mask tables last) := by
  unfold heldKarpCellSums heldKarpCell
  by_cases outside : mask &&& 1 <<< last = 0
  · simp only [if_pos outside]
    exact ⟨by simp, tablesBounded⟩
  · simp only [if_neg outside]
    by_cases single : mask ^^^ 1 <<< last = 0
    · simp only [if_pos single]
      exact ⟨by simp, tablesBounded⟩
    · simp only [if_neg single]
      have member : mask.testBit last = true := by
        rw [Mask.and_bit_eq_zero_iff] at outside
        simpa using outside
      refine ⟨?_, ?_⟩
      · intro sum sumMem
        rcases List.mem_flatMap.mp sumMem with ⟨previous, previousMem, recorded⟩
        exact (heldKarpScan_bounded bounded limit small tablesBounded maskLt member
          (List.mem_range.mp previousMem)).1 sum recorded
      · apply tablesBounded.setCell maskLt lastLt
        apply Loop.foldl_induction (fun best : Cost × ℕ => PathBounded bound mask best.1)
        · exact tablesBounded.costs mask last maskLt lastLt
        · intro best previous previousMem
          exact (heldKarpScan_bounded bounded limit small tablesBounded maskLt member
            (List.mem_range.mp previousMem)).2 best

theorem heldKarpRow_bounded {tables : HeldKarpTables}
    (tablesBounded : TablesBounded nodes bound tables) {mask : ℕ}
    (maskLt : mask < 1 <<< nodes.length) :
    (∀ sum ∈ heldKarpRowSums problem nodes tables mask, Int64.Fits sum) ∧
      TablesBounded nodes bound (heldKarpRow problem nodes tables mask) := by
  have turn (state : HeldKarpTables) (last : ℕ) (lastMem : last ∈ List.range nodes.length)
      (stateBounded : TablesBounded nodes bound state) :=
    heldKarpCell_bounded bounded limit small stateBounded maskLt (List.mem_range.mp lastMem)
  constructor
  · exact Loop.forall_mem_entries (TablesBounded nodes bound) Int64.Fits tablesBounded
      (fun state last lastMem stateBounded => (turn state last lastMem stateBounded).2)
      (fun state last lastMem stateBounded => (turn state last lastMem stateBounded).1)
  · exact Loop.foldl_induction (TablesBounded nodes bound) tablesBounded
      (fun state last lastMem stateBounded => (turn state last lastMem stateBounded).2)

end Bounded

theorem tablesBounded_singletons {problem : Problem} {bound : ℤ} (bounded : problem.Bounded bound)
    (start : ℕ) (nodes : List ℕ) :
    TablesBounded nodes bound (heldKarpSingletons problem start nodes) where
  sized := (heldKarpSingletons_spec problem start nodes).1
  costs mask last maskLt lastLt := by
    have cellEq := (heldKarpSingletons_spec problem start nodes).2 mask last maskLt lastLt
    have costEq := congrArg Prod.fst cellEq
    simp only [cell] at costEq
    rw [costEq]
    intro reached
    split at reached
    · next single =>
        rw [if_pos single, single]
        exact ⟨[last], Mask.Lists.singleton last, bounded.single _ _⟩
    · exact absurd rfl reached

theorem heldKarpSums_fit {problem : Problem} {bound : ℤ} (bounded : problem.Bounded bound)
    (limit : bound * problem.size < 2 ^ 63) (nonempty : problem.size ≠ 0) (startNode : ℕ) :
    ∀ sum ∈ heldKarpSums problem startNode, Int64.Fits sum := by
  unfold heldKarpSums
  by_cases trivialRun : problem.size > kHeldKarpCutoff ∨ problem.size = 1
  · rw [if_pos trivialRun]
    simp
  · rw [if_neg trivialRun]
    dsimp only
    have cutoff : kHeldKarpCutoff = 18 := rfl
    have lengthEq := length_heldKarpNodes (show problem.size < 2 ^ 32 by omega)
      (normalizeStartNode_lt nonempty startNode)
    generalize normalizeStartNode problem startNode = start at lengthEq ⊢
    have small : (heldKarpNodes problem start).length + 1 ≤ problem.size := by omega
    generalize heldKarpNodes problem start = nodes at small
    have full := full_lt nodes
    have row (tables : HeldKarpTables) (mask : ℕ)
        (maskMem : mask ∈ List.range' 1 (1 <<< nodes.length - 1))
        (tablesBounded : TablesBounded nodes bound tables) :=
      heldKarpRow_bounded bounded limit small tablesBounded
        (show mask < 1 <<< nodes.length by
          have range := List.mem_range'_1.mp maskMem
          omega)
    have finalBounded : TablesBounded nodes bound (heldKarpTables problem start nodes) :=
      Loop.foldl_induction (TablesBounded nodes bound)
        (tablesBounded_singletons bounded start nodes)
        (fun tables mask maskMem tablesBounded => (row tables mask maskMem tablesBounded).2)
    intro sum sumMem
    rcases List.mem_append.mp sumMem with recurrence | closing
    · exact Loop.forall_mem_entries (TablesBounded nodes bound) Int64.Fits
        (tablesBounded_singletons bounded start nodes)
        (fun tables mask maskMem tablesBounded => (row tables mask maskMem tablesBounded).2)
        (fun tables mask maskMem tablesBounded => (row tables mask maskMem tablesBounded).1)
        sum recurrence
    · rcases List.mem_flatMap.mp closing with ⟨last, lastMem, recorded⟩
      simp only [heldKarpClosingSums] at recorded
      split at recorded
      · simp at recorded
      · next reached =>
          rcases finalBounded.costs _ last full (List.mem_range.mp lastMem) reached with
            ⟨trail, lists, costLe⟩
          have lengthLe := lists.length_le full
          rw [List.mem_singleton.mp recorded]
          exact (bounded.add limit costLe (by omega) _ _).1

/-! ## Whole runs -/

namespace Model

/-- All distances between distinct nodes are at most `bound` in absolute value. -/
def Bounded (model : Model) (bound : ℕ) : Prop :=
  ∀ source < model.size, ∀ target < model.size, source ≠ target →
    ∀ distance, model.entry source target = some distance → |distance.toInt| ≤ bound

theorem Bounded.toProblem {model : Model} {bound : ℕ} (bounded : model.Bounded bound)
    (wellFormed : model.WellFormed) (complete : model.isComplete = true) :
    model.toProblem.Bounded bound := by
  intro source target
  rw [Problem.edge]
  by_cases inside : source < model.size ∧ target < model.size
  · rcases inside with ⟨sourceLt, targetLt⟩
    by_cases same : source = target
    · rw [same, distance_toProblem_self wellFormed]
      simp
    · exact bounded source sourceLt target targetLt same _
        (entry_eq_some_distance complete sourceLt targetLt)
  · rw [distance_toProblem_outside inside]
    simp

theorem dispatchSums_fit {problem : Problem} {bound : ℤ} (bounded : problem.Bounded bound)
    (limit : bound * problem.size < 2 ^ 63) (nonempty : problem.size ≠ 0) (startNode : ℕ)
    (randomSeed : UInt64) (algorithm : Algorithm) :
    ∀ sum ∈ dispatchSums problem startNode randomSeed algorithm, Int64.Fits sum := by
  have seedLength := length_buildNearestNeighborSeed nonempty startNode
  cases algorithm with
  | default => simp [dispatchSums]
  | localSearch2Opt => exact twoOptRefineSums_fit bounded limit seedLength
  | greedyNearestNeighbor => exact routeSums_fit bounded limit seedLength.le
  | greedyCheapestInsertion => exact cheapestInsertionSums_fit bounded limit nonempty startNode
  | heldKarp => exact heldKarpSums_fit bounded limit nonempty startNode
  | metaheuristicIteratedLocalSearch =>
      exact iteratedLocalSearchSums_fit bounded limit nonempty startNode randomSeed
  | unlisted value => simp [dispatchSums]

/-- With `n` times the bound a 64-bit value, no sum overflows and the objective is exact. -/
theorem exact_of_bounded {model : Model} {bound : ℕ} (options : Options)
    (wellFormed : model.WellFormed) (complete : model.isComplete = true)
    (bounded : model.Bounded bound) (limit : model.size * bound ≤ 2 ^ 63 - 1) :
    (∀ sum ∈ model.solveSums options, Int64.Fits sum) ∧
      ∀ result, model.solve options = (.ok, some result) →
        result.objective.toInt = model.toProblem.tourCost result.tour := by
  have problemBounded := bounded.toProblem wellFormed complete
  have problemLimit : (bound : ℤ) * model.toProblem.size < 2 ^ 63 := by
    rw [size_toProblem, mul_comm]
    have limitInt : ((model.size * bound : ℕ) : ℤ) ≤ (2 ^ 63 - 1 : ℕ) := Int.ofNat_le.mpr limit
    push_cast at limitInt
    omega
  constructor
  · intro sum sumMem
    unfold solveSums at sumMem
    split at sumMem
    · simp at sumMem
    · next runs =>
        simp only [not_or] at runs
        exact dispatchSums_fit problemBounded problemLimit (by simpa using runs.2.2.2) _ _ _ sum
          sumMem
  · intro result solved
    rcases objective_eq_routeCost complete solved with ⟨objectiveEq, lengthLe⟩
    rw [objectiveEq]
    apply toInt_routeCost
    apply problemBounded.fits problemLimit _ (show result.tour.length ≤ model.toProblem.size by
      rwa [size_toProblem])
    exact Walk.abs_closedCost_le fun source _ target _ => problemBounded source target

/-! ## The bound cannot be relaxed -/

theorem edge_ofMatrix {value : ℕ → ℕ → Cost} {nodes : ℕ} (fits : nodes ≤ 2 ^ 32)
    {source target : ℕ} (sourceLt : source < nodes) (targetLt : target < nodes)
    (distinct : source ≠ target) :
    (ofMatrix value nodes).toProblem.edge source target = (value source target).toInt := by
  have sizeEq := @size_ofMatrix value nodes fits
  rw [Problem.edge, distance_toProblem (by rwa [sizeEq]) (by rwa [sizeEq]),
    entry_ofMatrix fits sourceLt targetLt, if_neg distinct, Option.getD_some]

theorem tourCost_ofMatrix_constant {nodes : ℕ} (several : 2 ≤ nodes) (fits : nodes ≤ 2 ^ 32)
    (value : Cost) {order : List ℕ}
    (tour : (ofMatrix (fun _ _ => value) nodes).toProblem.IsTour order) :
    (ofMatrix (fun _ _ => value) nodes).toProblem.tourCost order = nodes * value.toInt := by
  have sizeEq := @size_ofMatrix (fun _ _ => value) nodes fits
  have lengthEq := tour.length_eq
  have inRange := tour.mem_iff
  rw [size_toProblem, sizeEq] at lengthEq inRange
  have constant : ∀ source ∈ order, ∀ target ∈ order, source ≠ target →
      (ofMatrix (fun _ _ => value) nodes).toProblem.edge source target =
        0 * (0 : ℤ) + value.toInt := by
    intro source sourceMem target targetMem distinct
    rw [edge_ofMatrix fits ((inRange source).mp sourceMem) ((inRange target).mp targetMem) distinct,
      zero_mul, zero_add]
  have total := @Walk.closedCost_affine ℕ (fun _ _ => 0) _ 0 _ _ tour.nodup (by omega) constant
  rw [Problem.tourCost, total, zero_mul, zero_add, lengthEq]

/-- Beyond the bound, nearest neighbor overflows on a constant matrix. -/
theorem exists_overflow {nodes bound : ℕ} (several : 2 ≤ nodes) (fewer : nodes < 2 ^ 32)
    (exceeds : 2 ^ 63 - 1 < nodes * bound) :
    ∃ (model : Model) (options : Options), model.Reachable ∧ model.isComplete = true ∧
      model.size = nodes ∧ model.Bounded bound ∧
      ∃ sum ∈ model.solveSums options, ¬Int64.Fits sum := by
  -- All distances at the bound, but below the sentinel of the nearest-neighbor scan.
  have valueFits : Int64.Fits (min bound (2 ^ 63 - 2) : ℕ) := by
    constructor <;> omega
  have valueEq := Int64.toInt_ofInt_of_fits valueFits
  generalize Int64.ofInt (min bound (2 ^ 63 - 2) : ℕ) = value at valueEq
  have below : value < Int64.maxValue := by
    have largest : Int64.maxValue.toInt = 2 ^ 63 - 1 := by decide
    rw [Int64.lt_iff_toInt_lt, valueEq, largest]
    omega
  have fits : nodes ≤ 2 ^ 32 := fewer.le
  have reachable := reachable_ofMatrix (fun _ _ => value) nodes
  have complete := @isComplete_ofMatrix (fun _ _ => value) nodes fits
  have sizeEq := @size_ofMatrix (fun _ _ => value) nodes fits
  have entries := @entry_ofMatrix (fun _ _ => value) nodes fits
  have costs := @tourCost_ofMatrix_constant nodes several fits value
  refine ⟨ofMatrix (fun _ _ => value) nodes, { algorithm := .greedyNearestNeighbor },
    reachable, complete, sizeEq, ?_, ?_⟩
  · intro source sourceLt target targetLt distinct distance present
    rw [sizeEq] at sourceLt targetLt
    rw [entries sourceLt targetLt, if_neg distinct] at present
    cases present
    rw [valueEq, abs_of_nonneg (by omega)]
    omega
  · generalize ofMatrix (fun _ _ => value) nodes = model
      at reachable complete sizeEq entries costs ⊢
    have nonempty : model.size ≠ 0 := by omega
    have problemNonempty : model.toProblem.size ≠ 0 := by simpa using nonempty
    have tour : model.toProblem.IsTour
        (buildNearestNeighborSeed model.toProblem (model.seedStartNode 0)) := by
      apply isTour_buildNearestNeighborSeed_of_lt problemNonempty
        (by rwa [size_toProblem, sizeEq])
      intro source sourceLt target targetLt distinct
      rw [size_toProblem] at sourceLt targetLt
      rw [distance_toProblem sourceLt targetLt, entries (sizeEq ▸ sourceLt) (sizeEq ▸ targetLt),
        if_neg distinct]
      exact below
    have sumsEq : model.solveSums { algorithm := .greedyNearestNeighbor } =
        routeSums model.toProblem
          (buildNearestNeighborSeed model.toProblem (model.seedStartNode 0)) :=
      solveSums_eq complete nonempty rfl (by decide)
    rw [sumsEq]
    by_contra allFit
    simp only [not_exists, not_and, not_not] at allFit
    have total := toInt_routeCost_of_routeSums_fit allFit
    rw [costs tour, valueEq] at total
    have upper := Int64.toInt_lt (routeCost model.toProblem
      (buildNearestNeighborSeed model.toProblem (model.seedStartNode 0)))
    have large : 2 ^ 63 - 1 < nodes * min bound (2 ^ 63 - 2) := by
      rcases Nat.le_total bound (2 ^ 63 - 2) with small | big
      · rwa [min_eq_left small]
      · rw [min_eq_right big]
        omega
    rw [total] at upper
    have largeInt : ((2 ^ 63 - 1 : ℕ) : ℤ) < (nodes * min bound (2 ^ 63 - 2) : ℕ) :=
      Int.ofNat_lt.mpr large
    rw [Nat.cast_mul] at largeInt
    omega

/--
Distances of absolute value at most `bound` keep every sum of every run exact
when `n` times the bound is a 64-bit value. From 2 to 2^32 - 1 nodes no larger
bound will do.
-/
theorem solveSums_fit (bound : ℕ) :
    (∀ (model : Model) (options : Options), model.Reachable → model.isComplete = true →
      model.Bounded bound → model.size * bound ≤ 2 ^ 63 - 1 →
      (∀ sum ∈ model.solveSums options, Int64.Fits sum) ∧
        ∀ result, model.solve options = (.ok, some result) →
          result.objective.toInt = model.toProblem.tourCost result.tour) ∧
    ∀ nodes, 2 ≤ nodes → nodes < 2 ^ 32 → 2 ^ 63 - 1 < nodes * bound →
      ∃ (model : Model) (options : Options), model.Reachable ∧ model.isComplete = true ∧
        model.size = nodes ∧ model.Bounded bound ∧
        ∃ sum ∈ model.solveSums options, ¬Int64.Fits sum :=
  ⟨fun _ options reachable complete bounded limit =>
      exact_of_bounded options reachable.wellFormed complete bounded limit,
    fun _ several fewer exceeds => exists_overflow several fewer exceeds⟩

/-- Four nodes with distances of both signs up to `2 ^ 61 - 1`. -/
theorem solveSums_fit_four :
    let model := ofMatrix (fun source target =>
      if source < target then 2305843009213693951 else -2305843009213693951) 4
    ∀ sum ∈ model.solveSums { algorithm := .greedyCheapestInsertion, randomSeed := 6 },
      Int64.Fits sum := by
  intro model
  have entries := @entry_ofMatrix (fun source target =>
    if source < target then 2305843009213693951 else -2305843009213693951) 4 (by decide)
  refine ((solveSums_fit (2 ^ 61 - 1)).1 model _ (reachable_ofMatrix _ 4) (by decide) ?_
    (by decide)).1
  intro source sourceLt target targetLt distinct distance present
  rw [entries sourceLt targetLt, if_neg distinct] at present
  cases present
  split <;> decide

/-- Two validated distances of `INT64_MAX - 1`: the running total of the route cost wraps. -/
theorem solveSums_not_fit :
    let model := ({} : Model).run [.addNode none, .addNode none,
      .setDistance 0 1 9223372036854775806, .setDistance 1 0 9223372036854775806]
    let options : Options := { algorithm := .greedyNearestNeighbor }
    model.validate = .ok ∧ (∃ sum ∈ model.solveSums options, ¬Int64.Fits sum) ∧
      model.solve options =
        (.ok, some
          { status := .feasible
            algorithm := .greedyNearestNeighbor
            objective := -4
            tour := [0, 1] }) := by
  decide

end Model

end TspSolver
