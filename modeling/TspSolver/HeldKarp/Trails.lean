import TspSolver.HeldKarp.Tables
import TspSolver.Loop.Scan
import TspSolver.Walk.Cost
import Mathlib.Data.List.Lex

/-!
# Trails through the Held-Karp tables

A trail lists positions from the last one back to the first, the way the
backtracking meets them. The parent table strings cells together into chains.
A cell other than `kInf` has a chain of its own cost, whatever the sums do. When
no sum overflows, that chain is least among all live trails over the same mask,
in the order of cost first and the node sequence read backwards second.
-/

namespace TspSolver

open HeldKarpTables

/-! ## Trails -/

/-- The cost of a trail as the recurrence adds it up, on machine words. -/
def trailCost (problem : Problem) (start : ℕ) (nodes : List ℕ) : List ℕ → Cost
  | [] => 0
  | [last] => problem.distance start (nodes.getD last 0)
  | last :: previous :: rest =>
      trailCost problem start nodes (previous :: rest) +
        problem.distance (nodes.getD previous 0) (nodes.getD last 0)

/-- The first edge is not `kInf` and every longer part of the trail costs less. -/
def LiveTrail (problem : Problem) (start : ℕ) (nodes : List ℕ) : List ℕ → Prop
  | [] => False
  | [last] => problem.distance start (nodes.getD last 0) ≠ kInf
  | last :: previous :: rest =>
      trailCost problem start nodes (last :: previous :: rest) < kInf ∧
        LiveTrail problem start nodes (previous :: rest)

/-- The nodes of a trail from its last one back, the start excluded. -/
def trailNodes (nodes : List ℕ) (trail : List ℕ) : List ℕ :=
  trail.map fun position => nodes.getD position 0

/-- The route of a trail, in visiting order. -/
def trailRoute (start : ℕ) (nodes : List ℕ) (trail : List ℕ) : List ℕ :=
  start :: (trailNodes nodes trail).reverse

variable {problem : Problem} {start : ℕ} {nodes : List ℕ} {tables : HeldKarpTables}

theorem trailCost_eq_ofInt {trail : List ℕ} (nonempty : trail ≠ []) :
    trailCost problem start nodes trail =
      Int64.ofInt (Walk.cost problem.edge (trailRoute start nodes trail)) := by
  induction trail with
  | nil => exact absurd rfl nonempty
  | cons last rest ih =>
      cases rest with
      | nil => simp [trailCost, trailRoute, trailNodes, Problem.edge]
      | cons previous rest =>
          have route : trailRoute start nodes (last :: previous :: rest) =
              (start :: (trailNodes nodes rest).reverse) ++
                [nodes.getD previous 0, nodes.getD last 0] := by
            simp [trailRoute, trailNodes]
          have shorter : trailRoute start nodes (previous :: rest) =
              (start :: (trailNodes nodes rest).reverse) ++ [nodes.getD previous 0] := by
            simp [trailRoute, trailNodes]
          rw [trailCost, ih (by simp), route, Walk.cost_concat_concat, ← shorter, Problem.edge,
            Int64.ofInt_add_toInt]

/-- No sum along a duplicate-free trail leaves the 64-bit range. -/
def TrailSumsFit (problem : Problem) (start : ℕ) (nodes : List ℕ) : Prop :=
  ∀ trail, trail.Nodup → (∀ position ∈ trail, position < nodes.length) →
    Int64.Fits (Walk.cost problem.edge (trailRoute start nodes trail))

theorem toInt_trailCost (fits : TrailSumsFit problem start nodes) {mask : ℕ} {trail : List ℕ}
    (maskLt : mask < 1 <<< nodes.length) (lists : Mask.Lists mask trail) (nonempty : trail ≠ []) :
    (trailCost problem start nodes trail).toInt =
      Walk.cost problem.edge (trailRoute start nodes trail) := by
  rw [trailCost_eq_ofInt nonempty]
  apply Int64.toInt_ofInt_of_fits
  apply fits trail lists.nodup
  intro position positionMem
  exact Mask.lt_width_of_testBit maskLt ((lists.mem_iff position).mp positionMem)

theorem toInt_trailCost_cons (fits : TrailSumsFit problem start nodes) {mask last previous : ℕ}
    {rest : List ℕ} (maskLt : mask < 1 <<< nodes.length)
    (lists : Mask.Lists mask (last :: previous :: rest)) :
    (trailCost problem start nodes (last :: previous :: rest)).toInt =
      (trailCost problem start nodes (previous :: rest)).toInt +
        problem.edge (nodes.getD previous 0) (nodes.getD last 0) := by
  have smaller := (Mask.clear_lt lists.head).trans maskLt
  rw [toInt_trailCost fits maskLt lists (by simp),
    toInt_trailCost fits smaller lists.tail (by simp)]
  simp only [trailRoute, trailNodes, List.map_cons, List.reverse_cons, List.append_assoc,
    List.singleton_append]
  rw [← List.cons_append, Walk.cost_concat_concat]
  simp

/-! ## One scan -/

/-- The key of a predecessor: none outside the mask and for a cell without a path. -/
def predecessorKey (problem : Problem) (nodes : List ℕ) (tables : HeldKarpTables)
    (previousMask last previous : ℕ) : Option (Cost ×ₗ ℕ) :=
  if previousMask.testBit previous = false then none
  else if tables.cost nodes.length previousMask previous = kInf then none
  else some (toLex (tables.cost nodes.length previousMask previous +
    problem.distance (nodes.getD previous 0) (nodes.getD last 0), nodes.getD previous 0))

theorem heldKarpScan_eq (problem : Problem) (nodes : List ℕ) (tables : HeldKarpTables)
    (previousMask last : ℕ) (best : Cost × ℕ) (previous : ℕ) :
    toLex (heldKarpScan problem nodes tables previousMask last best previous) =
      Scan.improve (predecessorKey problem nodes tables previousMask last) (toLex best)
        previous := by
  unfold heldKarpScan Scan.improve predecessorKey
  simp only [Mask.and_bit_eq_zero_iff]
  by_cases outside : previousMask.testBit previous = false
  · simp only [if_pos outside]
  · simp only [if_neg outside]
    by_cases unreached : tables.cost nodes.length previousMask previous = kInf
    · simp only [if_pos unreached]
    · simp only [if_neg unreached, Prod.Lex.toLex_lt_toLex]
      split <;> rfl

theorem predecessorKey_eq_some {previousMask last previous : ℕ} {key : Cost ×ₗ ℕ} :
    predecessorKey problem nodes tables previousMask last previous = some key ↔
      previousMask.testBit previous = true ∧
        tables.cost nodes.length previousMask previous ≠ kInf ∧
        toLex (tables.cost nodes.length previousMask previous +
          problem.distance (nodes.getD previous 0) (nodes.getD last 0),
          nodes.getD previous 0) = key := by
  unfold predecessorKey
  by_cases outside : previousMask.testBit previous = false
  · simp [outside]
  · by_cases unreached : tables.cost nodes.length previousMask previous = kInf
    · simp [unreached]
    · simp [outside, unreached]

/-- A cell of several positions is the least key of its predecessors, or the sentinel. -/
theorem Filled.cell_eq_least (filled : Filled problem start nodes tables) {mask last : ℕ}
    (maskLt : mask < 1 <<< nodes.length) (member : mask.testBit last = true)
    (several : mask ^^^ 1 <<< last ≠ 0) :
    toLex (tables.cell nodes.length mask last) =
      Scan.least (predecessorKey problem nodes tables (mask ^^^ 1 <<< last) last)
        (toLex (kInf, noParent)) (List.range nodes.length) := by
  rw [filled mask last maskLt (Mask.lt_width_of_testBit maskLt member) member, heldKarpValue,
    if_neg several]
  exact Scan.foldl_eq_least toLex (heldKarpScan_eq problem nodes tables _ last) _

theorem Filled.cost_singleton (filled : Filled problem start nodes tables) {last : ℕ}
    (lastLt : last < nodes.length) :
    tables.cost nodes.length (1 <<< last) last = problem.distance start (nodes.getD last 0) := by
  have member : (1 <<< last).testBit last = true := by simp
  have cellEq := filled _ last (bit_lt_full lastLt) lastLt member
  rw [heldKarpValue, if_pos (Mask.clear_eq_zero_iff.mpr rfl)] at cellEq
  exact congrArg Prod.fst cellEq

/-! ## Chains -/

/-- The trails that the parent table spells out. -/
inductive Chain (nodes : List ℕ) (tables : HeldKarpTables) : ℕ → List ℕ → Prop where
  | single (last : ℕ) : Chain nodes tables (1 <<< last) [last]
  | extend {mask last previous : ℕ} {rest : List ℕ} (member : mask.testBit last = true)
      (parent : tables.parentOf nodes.length mask last = nodes.getD previous 0)
      (shorter : Chain nodes tables (mask ^^^ 1 <<< last) (previous :: rest)) :
      Chain nodes tables mask (last :: previous :: rest)

theorem Chain.lists {mask : ℕ} {trail : List ℕ} (chain : Chain nodes tables mask trail) :
    Mask.Lists mask trail := by
  induction chain with
  | single last => exact Mask.Lists.singleton last
  | extend member _ _ ih => exact ih.cons member

/-- A chain over one position ends there. -/
theorem Chain.eq_nil {mask last : ℕ} {rest : List ℕ} (single : mask ^^^ 1 <<< last = 0)
    (chain : Chain nodes tables mask (last :: rest)) : rest = [] := by
  have shorter := chain.lists.tail
  rw [single] at shorter
  exact shorter.eq_nil

/-- A chain over several positions goes on at the parent entry of its first cell. -/
theorem Chain.exists_parent {mask last : ℕ} {rest : List ℕ} (several : mask ^^^ 1 <<< last ≠ 0)
    (chain : Chain nodes tables mask (last :: rest)) :
    ∃ previous shorter, rest = previous :: shorter ∧
      tables.parentOf nodes.length mask last = nodes.getD previous 0 ∧
      Chain nodes tables (mask ^^^ 1 <<< last) (previous :: shorter) := by
  generalize trailEq : last :: rest = trail at chain
  cases chain with
  | single other =>
      cases trailEq
      exact absurd (Mask.clear_eq_zero_iff.mpr rfl) several
  | extend member parent shorter =>
      cases trailEq
      exact ⟨_, _, rfl, parent, shorter⟩

/-- A cell that is not `kInf` starts a chain of its own cost; no sum has to fit for that. -/
theorem Filled.exists_chain (filled : Filled problem start nodes tables) {mask last : ℕ}
    (maskLt : mask < 1 <<< nodes.length) (member : mask.testBit last = true)
    (reached : tables.cost nodes.length mask last ≠ kInf) :
    ∃ rest, Chain nodes tables mask (last :: rest) ∧
      LiveTrail problem start nodes (last :: rest) ∧
      trailCost problem start nodes (last :: rest) = tables.cost nodes.length mask last := by
  induction mask using Nat.strong_induction_on generalizing last with
  | _ mask ih =>
    by_cases single : mask ^^^ 1 <<< last = 0
    · have maskEq := Mask.clear_eq_zero_iff.mp single
      subst maskEq
      have costEq := filled.cost_singleton (Mask.lt_width_of_testBit maskLt member)
      rw [costEq] at reached ⊢
      exact ⟨[], Chain.single last, reached, rfl⟩
    · have cellEq := filled.cell_eq_least maskLt member single
      have belowSentinel : toLex (tables.cell nodes.length mask last) ≤
          toLex (kInf, noParent) := by
        rw [cellEq]
        exact Scan.least_le_sentinel
      have below : tables.cost nodes.length mask last < kInf := by
        rcases Prod.Lex.toLex_le_toLex.mp belowSentinel with smaller | ⟨same, _⟩
        · exact smaller
        · exact absurd same reached
      rcases Scan.least_eq_sentinel_or_key
        (predecessorKey problem nodes tables (mask ^^^ 1 <<< last) last)
        (toLex (kInf, noParent)) (List.range nodes.length) with
        atSentinel | ⟨previous, _, keyed⟩
      · rw [← cellEq] at atSentinel
        exact absurd (congrArg (fun pair => (ofLex pair).1) atSentinel) reached
      · rw [← cellEq] at keyed
        rcases predecessorKey_eq_some.mp keyed with ⟨previousMember, previousReached, keyEq⟩
        have smaller := Mask.clear_lt member
        rcases ih _ smaller (smaller.trans maskLt) previousMember previousReached with
          ⟨rest, chain, live, costEq⟩
        have total := congrArg (fun pair => (ofLex pair).1) keyEq
        have parent := congrArg (fun pair => (ofLex pair).2) keyEq
        have trailEq : trailCost problem start nodes (last :: previous :: rest) =
            tables.cost nodes.length mask last := by
          rw [trailCost, costEq]
          exact total
        refine ⟨previous :: rest, Chain.extend member parent.symm chain, ⟨?_, live⟩, trailEq⟩
        rw [trailEq]
        exact below

/-- Distinct positions name nodes in increasing order. -/
def NodesIncreasing (nodes : List ℕ) : Prop :=
  ∀ left right, left < right → right < nodes.length → nodes.getD left 0 < nodes.getD right 0

theorem NodesIncreasing.inj (increasing : NodesIncreasing nodes) {left right : ℕ}
    (leftLt : left < nodes.length) (rightLt : right < nodes.length)
    (same : nodes.getD left 0 = nodes.getD right 0) : left = right := by
  rcases Nat.lt_trichotomy left right with before | equal | after
  · exact absurd same (increasing left right before rightLt).ne
  · exact equal
  · exact absurd same.symm (increasing right left after leftLt).ne

theorem toLex_cons_le_iff (left right : ℕ) (front back : List ℕ) :
    left :: front ≤ right :: back ↔ left < right ∨ left = right ∧ front ≤ back := by
  simp only [le_iff_lt_or_eq, List.cons_lt_cons_iff, List.cons.injEq]
  tauto

/-- Trails with the same last position compare by the position before it. -/
theorem NodesIncreasing.trailNodes_le (increasing : NodesIncreasing nodes) {left right : ℕ}
    (leftLt : left < nodes.length) (rightLt : right < nodes.length) {front back : List ℕ}
    (ordered : nodes.getD left 0 ≤ nodes.getD right 0)
    (tied : left = right →
      trailNodes nodes (left :: front) ≤ trailNodes nodes (right :: back)) (last : ℕ) :
    trailNodes nodes (last :: left :: front) ≤ trailNodes nodes (last :: right :: back) := by
  apply (toLex_cons_le_iff _ _ _ _).mpr
  right
  refine ⟨rfl, ?_⟩
  rcases lt_or_eq_of_le ordered with before | same
  · exact (toLex_cons_le_iff _ _ _ _).mpr (Or.inl before)
  · exact tied (increasing.inj leftLt rightLt same)

/-- The scan considers every reached predecessor. -/
theorem Filled.cell_le (filled : Filled problem start nodes tables) {mask last previous : ℕ}
    (maskLt : mask < 1 <<< nodes.length) (member : mask.testBit last = true)
    (previousMember : (mask ^^^ 1 <<< last).testBit previous = true)
    (reached : tables.cost nodes.length (mask ^^^ 1 <<< last) previous ≠ kInf) :
    toLex (tables.cell nodes.length mask last) ≤
      toLex (tables.cost nodes.length (mask ^^^ 1 <<< last) previous +
        problem.distance (nodes.getD previous 0) (nodes.getD last 0), nodes.getD previous 0) := by
  have smaller := (Mask.clear_lt member).trans maskLt
  have several : mask ^^^ 1 <<< last ≠ 0 := by
    intro empty
    simp [empty] at previousMember
  rw [filled.cell_eq_least maskLt member several]
  exact Scan.least_le_key
    (List.mem_range.mpr (Mask.lt_width_of_testBit smaller previousMember))
    (predecessorKey_eq_some.mpr ⟨previousMember, reached, rfl⟩)

/-- No live trail over the mask of a chain comes before it, by cost and then backwards by nodes. -/
theorem Filled.chain_le (filled : Filled problem start nodes tables)
    (increasing : NodesIncreasing nodes) (fits : TrailSumsFit problem start nodes)
    {mask last : ℕ} {rest : List ℕ} (maskLt : mask < 1 <<< nodes.length)
    (lists : Mask.Lists mask (last :: rest))
    (live : LiveTrail problem start nodes (last :: rest)) :
    tables.cost nodes.length mask last ≠ kInf ∧
      ∀ other, Chain nodes tables mask (last :: other) →
        toLex (tables.cost nodes.length mask last, trailNodes nodes (last :: other)) ≤
          toLex (trailCost problem start nodes (last :: rest),
            trailNodes nodes (last :: rest)) := by
  induction rest generalizing mask last with
  | nil =>
      have maskEq := lists.mask_eq (Mask.Lists.singleton last)
      subst maskEq
      rw [filled.cost_singleton (Mask.lt_width_of_testBit maskLt lists.head)]
      refine ⟨live, ?_⟩
      intro other chain
      rw [chain.eq_nil (Mask.clear_eq_zero_iff.mpr rfl)]
      exact le_rfl
  | cons previous rest ih =>
      have member := lists.head
      have shorter := lists.tail
      have smaller := (Mask.clear_lt member).trans maskLt
      have previousLt := Mask.lt_width_of_testBit smaller shorter.head
      rcases live with ⟨below, shorterLive⟩
      rcases ih smaller shorter shorterLive with ⟨previousReached, previousLeast⟩
      have several : mask ^^^ 1 <<< last ≠ 0 := by
        intro empty
        have head := shorter.head
        simp [empty] at head
      -- The sum of this trail through `previous`, compared with the one that the scan forms.
      rcases filled.exists_chain smaller shorter.head previousReached with
        ⟨best, bestChain, _, bestCost⟩
      have bestSum := toInt_trailCost_cons fits maskLt (bestChain.lists.cons member)
      have trailSum := toInt_trailCost_cons fits maskLt lists
      have cellLe := filled.cell_le maskLt member shorter.head previousReached
      rw [← bestCost] at cellLe
      have candidateLe : trailCost problem start nodes (last :: previous :: best) ≤
          trailCost problem start nodes (last :: previous :: rest) := by
        have costLe := Prod.Lex.monotone_fst _ _ (previousLeast best bestChain)
        rw [← bestCost] at costLe
        exact (Int64.le_iff_of_toInt_add bestSum trailSum).mpr costLe
      rcases Scan.le_and_rank_le_of_le cellLe candidateLe with ⟨cellCostLe, ties⟩
      refine ⟨(lt_of_le_of_lt cellCostLe below).ne, ?_⟩
      intro other chain
      rcases chain.exists_parent several with ⟨parent, further, rfl, parentEq, furtherChain⟩
      apply Prod.Lex.toLex_le_toLex.mpr
      rcases lt_or_eq_of_le cellCostLe with cheaper | tied
      · exact Or.inl cheaper
      · right
        refine ⟨tied, ?_⟩
        rcases ties tied with ⟨candidateTied, rankLe⟩
        have parentLe : nodes.getD parent 0 ≤ nodes.getD previous 0 := parentEq.symm.trans_le rankLe
        have parentLt := Mask.lt_width_of_testBit smaller furtherChain.lists.head
        apply increasing.trailNodes_le parentLt previousLt parentLe
        rintro rfl
        -- Equal sums over the same last edge leave equal costs before it.
        have shorterTied : tables.cost nodes.length (mask ^^^ 1 <<< last) parent =
            trailCost problem start nodes (parent :: rest) := by
          rw [← bestCost]
          exact (Int64.eq_iff_of_toInt_add bestSum trailSum).mp candidateTied
        rcases Prod.Lex.toLex_le_toLex.mp (previousLeast further furtherChain) with
          cheaper | ⟨_, nodesLe⟩
        · exact absurd shorterTied cheaper.ne
        · exact nodesLe

end TspSolver
