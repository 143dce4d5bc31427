import TspSolver.HeldKarp.Closing
import TspSolver.LocalSearch.Visited
import Mathlib.Order.Bounds.Basic
import Mathlib.Data.List.Perm.Subperm

/-!
# Held-Karp against exhaustive search

The node-level reading of the search: its positions name all nodes but the
start, trails over all positions are the tours from the start, and the outcome
is the least live tour or, when there is none, an error.
-/

namespace TspSolver

open HeldKarpTables

/-! ## Routes -/

/-- A duplicate-free route of nodes that leaves `start`. -/
structure Problem.IsPath (problem : Problem) (start : ℕ) (route : List ℕ) : Prop where
  head_eq : route.head? = some start
  nodup : route.Nodup
  inRange : ∀ node ∈ route, node < problem.size

/-- The cost of every path from `start` and of every closed tour is in a given range. -/
structure Problem.SumsIn (problem : Problem) (start : ℕ) (range : ℤ → Prop) : Prop where
  paths : ∀ route, problem.IsPath start route → range (Walk.cost problem.edge route)
  tours : ∀ order, problem.IsTour order → range (problem.tourCost order)

/-- A tour that begins at `start`. -/
structure Problem.TourFrom (problem : Problem) (start : ℕ) (order : List ℕ) : Prop where
  isTour : problem.IsTour order
  head_eq : order.head? = some start

/--
The search keeps a tour when its first edge is not `kInf` and when its longer
prefixes and the closed tour cost less than `kInf`.
-/
structure Problem.Live (problem : Problem) (order : List ℕ) : Prop where
  first_edge : ∀ route, route <+: order → route.length = 2 →
    Walk.cost problem.edge route ≠ kInf.toInt
  prefixes : ∀ route, route <+: order → 3 ≤ route.length →
    Walk.cost problem.edge route < kInf.toInt
  closed : problem.tourCost order < kInf.toInt

theorem Problem.SumsIn.mono {problem : Problem} {start : ℕ} {narrow wide : ℤ → Prop}
    (sums : problem.SumsIn start narrow) (wider : ∀ sum, narrow sum → wide sum) :
    problem.SumsIn start wide where
  paths route path := wider _ (sums.paths route path)
  tours order tour := wider _ (sums.tours order tour)

theorem Problem.IsPath.length_le {problem : Problem} {start : ℕ} {route : List ℕ}
    (path : problem.IsPath start route) : route.length ≤ problem.size := by
  have contained : route ⊆ List.range problem.size := by
    intro node nodeMem
    exact List.mem_range.mpr (path.inRange node nodeMem)
  have lengthLe := (List.subperm_of_subset path.nodup contained).length_le
  rwa [List.length_range] at lengthLe

/-- Bounded distances bound every path and tour. -/
theorem Problem.SumsIn.of_bounded {problem : Problem} (start : ℕ) {bound : ℤ} (nonneg : 0 ≤ bound)
    (bounded : ∀ source < problem.size, ∀ target < problem.size,
      |problem.edge source target| ≤ bound)
    {range : ℤ → Prop} (within : ∀ sum, |sum| ≤ bound * problem.size → range sum) :
    problem.SumsIn start range where
  paths route path := by
    have sumLe := Walk.abs_cost_le fun source sourceMem target targetMem =>
      bounded source (path.inRange source sourceMem) target (path.inRange target targetMem)
    have lengthLe := path.length_le
    apply within _ (sumLe.trans _)
    apply mul_le_mul_of_nonneg_left _ nonneg
    exact_mod_cast (Nat.sub_le _ _).trans lengthLe
  tours order tour := by
    have sumLe := Walk.abs_closedCost_le fun source sourceMem target targetMem =>
      bounded source ((tour.mem_iff source).mp sourceMem) target
        ((tour.mem_iff target).mp targetMem)
    rw [tour.length_eq] at sumLe
    exact within _ sumLe

/-- Every tour can be turned to begin at any node, at the same cost. -/
theorem Problem.IsTour.exists_tourFrom {problem : Problem} {order : List ℕ}
    (tour : problem.IsTour order) {start : ℕ} (startLt : start < problem.size) :
    ∃ turned, problem.TourFrom start turned ∧
      problem.tourCost turned = problem.tourCost order := by
  have startMem := (tour.mem_iff start).mpr startLt
  rcases List.append_of_mem startMem with ⟨front, back, rfl⟩
  refine ⟨start :: back ++ front, ⟨?_, rfl⟩, ?_⟩
  · exact (List.perm_append_comm).trans tour
  · exact (Walk.closedCost_append_comm _ front (start :: back)).symm

theorem Problem.isTour_range (problem : Problem) :
    problem.IsTour (List.range problem.size) := List.Perm.refl _

theorem Problem.IsTour.eq_range {problem : Problem} (few : problem.size ≤ 1) {order : List ℕ}
    (tour : problem.IsTour order) : order = List.range problem.size := by
  rcases Nat.le_one_iff_eq_zero_or_eq_one.mp few with none | one
  · rw [Problem.IsTour, none] at tour
    rw [none]
    exact List.perm_nil.mp tour
  · rw [Problem.IsTour, one] at tour
    rw [one]
    exact List.perm_singleton.mp tour

/-! ## The nodes behind the positions -/

section Nodes

variable {problem : Problem} {start : ℕ}

/-- The node at a position: the start is skipped. -/
def nodeAt (start position : ℕ) : ℕ := if position < start then position else position + 1

theorem heldKarpNodes_eq_map (small : problem.size < 2 ^ 32) (startLt : start < problem.size) :
    heldKarpNodes problem start = (List.range (problem.size - 1)).map (nodeAt start) := by
  have before : (List.range start).filter (· ≠ start) =
      (List.range start).map (nodeAt start) := by
    rw [List.filter_eq_self.mpr]
    · conv_lhs => rw [← List.map_id (List.range start)]
      apply List.map_congr_left
      intro position positionMem
      rw [nodeAt, if_pos (List.mem_range.mp positionMem)]
      rfl
    · intro node nodeMem
      have nodeLt := List.mem_range.mp nodeMem
      simpa using nodeLt.ne
  have after (count : ℕ) : ((List.range count).map (start + 1 + ·)).filter (· ≠ start) =
      ((List.range count).map (start + ·)).map (nodeAt start) := by
    rw [List.filter_eq_self.mpr, List.map_map]
    · apply List.map_congr_left
      intro offset _
      simp only [Function.comp, nodeAt]
      rw [if_neg (by omega)]
      omega
    · intro node nodeMem
      rcases List.mem_map.mp nodeMem with ⟨offset, _, rfl⟩
      simp only [ne_eq, decide_eq_true_eq]
      omega
  have splitNodes : problem.size = start + 1 + (problem.size - 1 - start) := by omega
  have splitPositions : problem.size - 1 = start + (problem.size - 1 - start) := by omega
  rw [heldKarpNodes, toNodeId_of_lt small, splitNodes, List.range_add, List.filter_append,
    List.range_succ, List.filter_append, before, ← splitNodes, after]
  conv_rhs => rw [splitPositions, List.range_add, List.map_append]
  simp

theorem length_heldKarpNodes (small : problem.size < 2 ^ 32) (startLt : start < problem.size) :
    (heldKarpNodes problem start).length = problem.size - 1 := by
  rw [heldKarpNodes_eq_map small startLt, List.length_map, List.length_range]

theorem getD_heldKarpNodes (small : problem.size < 2 ^ 32) (startLt : start < problem.size)
    {position : ℕ} (positionLt : position < (heldKarpNodes problem start).length) :
    (heldKarpNodes problem start).getD position 0 = nodeAt start position := by
  have bound := positionLt
  rw [length_heldKarpNodes small startLt] at bound
  simp [heldKarpNodes_eq_map small startLt, List.getD_eq_getElem?_getD, bound]

theorem nodesIncreasing_heldKarpNodes (small : problem.size < 2 ^ 32)
    (startLt : start < problem.size) : NodesIncreasing (heldKarpNodes problem start) := by
  intro left right before rightLt
  rw [getD_heldKarpNodes small startLt (before.trans rightLt),
    getD_heldKarpNodes small startLt rightLt, nodeAt, nodeAt]
  split <;> split <;> omega

theorem positionsRecovered_heldKarpNodes (small : problem.size < 2 ^ 32)
    (startLt : start < problem.size) :
    PositionsRecovered start (heldKarpNodes problem start) := by
  intro position positionLt
  have bound := positionLt
  rw [length_heldKarpNodes small startLt] at bound
  rw [getD_heldKarpNodes small startLt positionLt, heldKarpPosition]
  by_cases before : position < start
  · rw [nodeAt, if_pos before, if_pos before]
  · rw [nodeAt, if_neg before, if_neg (by omega), toNodeId]
    omega

/-- The start and the nodes behind the positions are all nodes. -/
theorem cons_heldKarpNodes_perm (small : problem.size < 2 ^ 32) (startLt : start < problem.size) :
    (start :: heldKarpNodes problem start).Perm (List.range problem.size) := by
  have startMem : start ∈ List.range problem.size := List.mem_range.mpr startLt
  have erased : heldKarpNodes problem start = (List.range problem.size).erase start := by
    rw [heldKarpNodes, toNodeId_of_lt small, List.nodup_range.erase_eq_filter]
    apply List.filter_congr
    intro node _
    rw [Bool.eq_iff_iff, decide_eq_true_iff, bne_iff_ne]
  rw [erased]
  exact (List.perm_cons_erase startMem).symm

theorem mem_heldKarpNodes_iff (small : problem.size < 2 ^ 32) {node : ℕ} :
    node ∈ heldKarpNodes problem start ↔ node < problem.size ∧ node ≠ start := by
  simp [heldKarpNodes, toNodeId_of_lt small]

theorem getD_mem_heldKarpNodes {position : ℕ}
    (positionLt : position < (heldKarpNodes problem start).length) :
    (heldKarpNodes problem start).getD position 0 ∈ heldKarpNodes problem start := by
  rw [List.getD_eq_getElem _ _ positionLt]
  exact List.getElem_mem positionLt

/-- The route of a duplicate-free trail is a path from the start. -/
theorem isPath_trailRoute (small : problem.size < 2 ^ 32) (startLt : start < problem.size)
    {trail : List ℕ} (nodup : trail.Nodup)
    (inRange : ∀ position ∈ trail, position < (heldKarpNodes problem start).length) :
    problem.IsPath start (trailRoute start (heldKarpNodes problem start) trail) := by
  have nodesMem : ∀ node ∈ trailNodes (heldKarpNodes problem start) trail,
      node < problem.size ∧ node ≠ start := by
    intro node nodeMem
    rcases List.mem_map.mp nodeMem with ⟨position, positionMem, rfl⟩
    apply (mem_heldKarpNodes_iff small).mp
    exact getD_mem_heldKarpNodes (inRange position positionMem)
  refine ⟨rfl, ?_, ?_⟩
  · rw [trailRoute, List.nodup_cons, List.nodup_reverse, List.mem_reverse]
    refine ⟨fun startMem => (nodesMem start startMem).2 rfl, ?_⟩
    apply List.Nodup.map_on _ nodup
    intro left leftMem right rightMem same
    exact (nodesIncreasing_heldKarpNodes small startLt).inj (inRange left leftMem)
      (inRange right rightMem) same
  · intro node nodeMem
    rcases List.mem_cons.mp nodeMem with rfl | behind
    · exact startLt
    · exact (nodesMem node (List.mem_reverse.mp behind)).1

theorem tourFrom_trailRoute (small : problem.size < 2 ^ 32) (startLt : start < problem.size)
    {trail : List ℕ}
    (lists : Mask.Lists (1 <<< (heldKarpNodes problem start).length - 1) trail) :
    problem.TourFrom start (trailRoute start (heldKarpNodes problem start) trail) := by
  have perm := Mask.lists_full_iff.mp lists
  have inRange : ∀ position ∈ trail, position < (heldKarpNodes problem start).length :=
    fun position positionMem => List.mem_range.mp (perm.mem_iff.mp positionMem)
  have path := isPath_trailRoute small startLt lists.nodup inRange
  refine ⟨isTour_of_nodup ?_ path.nodup path.inRange, rfl⟩
  have lengthEq := perm.length_eq
  rw [List.length_range, length_heldKarpNodes small startLt] at lengthEq
  simp only [trailRoute, trailNodes, List.length_cons, List.length_reverse, List.length_map,
    lengthEq]
  omega

/-- Every tour from the start is the route of a trail over all positions. -/
theorem exists_trail_of_tourFrom (small : problem.size < 2 ^ 32) (startLt : start < problem.size)
    {order : List ℕ} (tour : problem.TourFrom start order) :
    ∃ trail, Mask.Lists (1 <<< (heldKarpNodes problem start).length - 1) trail ∧
      trailRoute start (heldKarpNodes problem start) trail = order := by
  rcases order with _ | ⟨first, rest⟩
  · exact absurd tour.head_eq (by simp)
  · have firstEq : first = start := by simpa using tour.head_eq
    subst firstEq
    have restPerm : rest.Perm (heldKarpNodes problem first) :=
      (tour.isTour.trans (cons_heldKarpNodes_perm small startLt).symm).cons_inv
    have named : ∀ node ∈ rest.reverse, ∃ position < (heldKarpNodes problem first).length,
        (heldKarpNodes problem first).getD position 0 = node := by
      intro node nodeMem
      have listed := restPerm.mem_iff.mp (List.mem_reverse.mp nodeMem)
      rcases List.mem_iff_getElem.mp listed with ⟨position, positionLt, nodeEq⟩
      exact ⟨position, positionLt, by rw [List.getD_eq_getElem _ _ positionLt, nodeEq]⟩
    have recovered := positionsRecovered_heldKarpNodes small startLt
    refine ⟨rest.reverse.map (heldKarpPosition first), Mask.lists_full_iff.mpr ?_, ?_⟩
    · have positions : (heldKarpNodes problem first).map (heldKarpPosition first) =
          List.range (heldKarpNodes problem first).length := by
        apply List.ext_getElem (by simp)
        intro position positionLt _
        have inside : position < (heldKarpNodes problem first).length := by simpa using positionLt
        have back := recovered position inside
        rw [List.getD_eq_getElem _ _ inside] at back
        simpa using back
      rw [← positions]
      exact ((List.reverse_perm rest).trans restPerm).map _
    · have nodesEq : trailNodes (heldKarpNodes problem first)
          (rest.reverse.map (heldKarpPosition first)) = rest.reverse := by
        rw [trailNodes, List.map_map]
        conv_rhs => rw [← List.map_id rest.reverse]
        apply List.map_congr_left
        intro node nodeMem
        rcases named node nodeMem with ⟨position, positionLt, rfl⟩
        simp only [Function.comp, id_eq, recovered position positionLt]
      rw [trailRoute, nodesEq, List.reverse_reverse]

end Nodes

/-! ## The outcome of the search -/

variable {problem : Problem} {start : ℕ}

theorem TrailSumsFit.of_sumsIn (small : problem.size < 2 ^ 32) (startLt : start < problem.size)
    (sums : problem.SumsIn start Int64.Fits) :
    TrailSumsFit problem start (heldKarpNodes problem start) :=
  fun _ nodup inRange => sums.paths _ (isPath_trailRoute small startLt nodup inRange)

theorem TourSumsFit.of_sumsIn (small : problem.size < 2 ^ 32) (startLt : start < problem.size)
    (sums : problem.SumsIn start Int64.Fits) :
    TourSumsFit problem start (heldKarpNodes problem start) :=
  fun _ lists => sums.tours _ (tourFrom_trailRoute small startLt lists).isTour

theorem toInt_lt_kInf_iff {cost : Cost} : cost < kInf ↔ cost.toInt < kInf.toInt :=
  Int64.lt_iff_toInt_lt

/-- The prefixes of a route with one more node are the route itself and the earlier ones. -/
theorem forall_prefix_concat_iff {property : List ℕ → Prop} {front : List ℕ} {last : ℕ} :
    (∀ route, route <+: front ++ [last] → property route) ↔
      property (front ++ [last]) ∧ ∀ route, route <+: front → property route := by
  constructor
  · intro all
    refine ⟨all _ (List.prefix_refl _), ?_⟩
    intro route isPrefix
    exact all route (isPrefix.trans (List.prefix_append _ _))
  · rintro ⟨whole, earlier⟩ route isPrefix
    rcases List.prefix_concat_iff.mp isPrefix with rfl | shorter
    · exact whole
    · exact earlier route shorter

/-- The prefixes of a route are the sums that the recurrence compares with `kInf`. -/
theorem liveTrail_iff {nodes : List ℕ} (fits : TrailSumsFit problem start nodes) {mask : ℕ}
    {trail : List ℕ} (maskLt : mask < 1 <<< nodes.length) (lists : Mask.Lists mask trail)
    (nonempty : trail ≠ []) :
    LiveTrail problem start nodes trail ↔
      (∀ route, route <+: trailRoute start nodes trail → route.length = 2 →
        Walk.cost problem.edge route ≠ kInf.toInt) ∧
      ∀ route, route <+: trailRoute start nodes trail → 3 ≤ route.length →
        Walk.cost problem.edge route < kInf.toInt := by
  induction trail generalizing mask with
  | nil => exact absurd rfl nonempty
  | cons last rest ih =>
      have total := toInt_trailCost fits maskLt lists (by simp)
      cases rest with
      | nil =>
          have routeEq : trailRoute start nodes [last] = [start] ++ [nodes.getD last 0] := by
            simp [trailRoute, trailNodes]
          have alive : LiveTrail problem start nodes [last] ↔
              Walk.cost problem.edge (trailRoute start nodes [last]) ≠ kInf.toInt := by
            rw [← total, Ne, Int64.toInt_inj]
            rfl
          rw [alive]
          constructor
          · intro notInf
            refine ⟨?_, ?_⟩
            · intro route isPrefix lengthEq
              have whole := isPrefix.eq_of_length (by simp [lengthEq, routeEq])
              rwa [whole]
            · intro route isPrefix longer
              have bound := isPrefix.length_le
              simp only [routeEq, List.length_append, List.length_cons, List.length_nil] at bound
              omega
          · rintro ⟨firstEdge, _⟩
            exact firstEdge _ (List.prefix_refl _) (by simp [routeEq])
      | cons previous rest =>
          have smaller := (Mask.clear_lt lists.head).trans maskLt
          have routeEq : trailRoute start nodes (last :: previous :: rest) =
              trailRoute start nodes (previous :: rest) ++ [nodes.getD last 0] := by
            simp [trailRoute, trailNodes]
          have longer : 3 ≤ (trailRoute start nodes (previous :: rest) ++
              [nodes.getD last 0]).length := by
            simp [trailRoute, trailNodes]
          have alive : LiveTrail problem start nodes (last :: previous :: rest) ↔
              Walk.cost problem.edge (trailRoute start nodes (last :: previous :: rest)) <
                kInf.toInt ∧ LiveTrail problem start nodes (previous :: rest) := by
            rw [← total, ← toInt_lt_kInf_iff]
            rfl
          rw [alive, ih smaller lists.tail (by simp), routeEq, forall_prefix_concat_iff,
            forall_prefix_concat_iff]
          constructor
          · rintro ⟨whole, firstEdge, prefixes⟩
            exact ⟨⟨fun short => absurd short (by omega), firstEdge⟩, fun _ => whole, prefixes⟩
          · rintro ⟨⟨_, firstEdge⟩, whole, prefixes⟩
            exact ⟨whole longer, firstEdge, prefixes⟩

theorem liveTour_iff (small : problem.size < 2 ^ 32) (startLt : start < problem.size)
    (several : 2 ≤ problem.size) (sums : problem.SumsIn start Int64.Fits) {trail : List ℕ}
    (lists : Mask.Lists (1 <<< (heldKarpNodes problem start).length - 1) trail) :
    LiveTour problem start (heldKarpNodes problem start) trail ↔
      problem.Live (trailRoute start (heldKarpNodes problem start) trail) := by
  have nonempty : trail ≠ [] := by
    rintro rfl
    have lengthEq := (Mask.lists_full_iff.mp lists).length_eq
    rw [List.length_range, length_heldKarpNodes small startLt, List.length_nil] at lengthEq
    omega
  have trails := liveTrail_iff (TrailSumsFit.of_sumsIn small startLt sums) (full_lt _) lists
    nonempty
  have closed := toInt_closedTrailCost (TourSumsFit.of_sumsIn small startLt sums) lists nonempty
  constructor
  · rintro ⟨_, live, below⟩
    rcases trails.mp live with ⟨firstEdge, prefixes⟩
    exact ⟨firstEdge, prefixes, closed ▸ toInt_lt_kInf_iff.mp below⟩
  · rintro ⟨firstEdge, prefixes, below⟩
    exact ⟨lists, trails.mpr ⟨firstEdge, prefixes⟩, toInt_lt_kInf_iff.mpr (closed ▸ below)⟩

end TspSolver
