import TspSolver.Walk.Cost
import Mathlib.Algebra.BigOperators.Intervals
import Mathlib.Algebra.Order.BigOperators.Group.Finset
import Mathlib.Data.Finset.Lattice.Fold
import Mathlib.Order.Lattice.Nat
import Mathlib.Tactic.Linarith

/-!
# Gains across growing cuts

Vertices arrive one after the other, and each arrival has a gain that no edge
across its cut undercuts: from the vertices that are there to those that are
still to come. Then all gains together are at most the cost of any walk through
all vertices. The proof moves between arrival times: an edge costs at least the
largest gain that it passes over, and taking the last arrival out of a walk
saves at least its gain.
-/

namespace Walk

/-- The largest gain that a move between two times passes over. -/
def climb (gain : ℕ → ℕ) (left right : ℕ) : ℤ :=
  ((Finset.Ioc (min left right) (max left right)).sup gain : ℕ)

variable (gain : ℕ → ℕ)

theorem climb_comm (left right : ℕ) : climb gain left right = climb gain right left := by
  rw [climb, climb, min_comm, max_comm]

theorem climb_of_le {left right : ℕ} (ordered : left ≤ right) :
    climb gain left right = ((Finset.Ioc left right).sup gain : ℕ) := by
  rw [climb, min_eq_left ordered, max_eq_right ordered]

theorem gain_le_climb {left last : ℕ} (before : left < last) :
    (gain last : ℤ) ≤ climb gain left last := by
  rw [climb_of_le gain before.le]
  exact_mod_cast Finset.le_sup (Finset.mem_Ioc.mpr ⟨before, le_rfl⟩)

theorem climb_mono {left right last : ℕ} (ordered : left ≤ right) (before : right ≤ last) :
    climb gain left right ≤ climb gain left last := by
  rw [climb_of_le gain ordered, climb_of_le gain (ordered.trans before)]
  exact_mod_cast Finset.sup_mono (Finset.Ioc_subset_Ioc_right before)

/-- A detour over the last time costs its gain more than the direct move. -/
theorem climb_detour {left right last : ℕ} (leftLt : left < last) (rightLt : right < last) :
    climb gain left right + gain last ≤ climb gain left last + climb gain last right := by
  have leftGain := gain_le_climb gain leftLt
  have rightGain := gain_le_climb gain rightLt
  rw [climb_comm gain last right]
  rcases le_total left right with ordered | ordered
  · have direct := climb_mono gain ordered rightLt.le
    linarith
  · have direct := climb_mono gain ordered leftLt.le
    rw [climb_comm gain left right]
    linarith

/-- Taking the last time out of a walk saves its gain. -/
theorem cost_climb_remove {front back : List ℕ} {last : ℕ} (nonempty : front ++ back ≠ [])
    (before : ∀ time ∈ front ++ back, time < last) :
    cost (climb gain) (front ++ back) + gain last ≤
      cost (climb gain) (front ++ last :: back) := by
  rcases List.eq_nil_or_concat front with rfl | ⟨front, left, rfl⟩
  · cases back with
    | nil => exact absurd rfl nonempty
    | cons right back =>
        have saved := gain_le_climb gain (before right (by simp))
        rw [climb_comm] at saved
        simp only [List.nil_append, cost_cons_cons]
        linarith
  · rw [List.concat_eq_append] at before ⊢
    have leftLt := before left (by simp)
    cases back with
    | nil =>
        have saved := gain_le_climb gain leftLt
        rw [List.append_nil, List.append_assoc, List.singleton_append, cost_concat_concat]
        linarith
    | cons right back =>
        have saved := climb_detour gain leftLt (before right (by simp))
        rw [List.append_assoc, List.append_assoc, List.singleton_append, List.singleton_append,
          cost_append_cons, cost_append_cons _ front (last :: right :: back)]
        simp only [cost_cons_cons]
        linarith

/-- A walk through all times costs at least all gains but that of the first time. -/
theorem sum_gains_le_cost {count : ℕ} {path : List ℕ}
    (perm : path.Perm (List.range (count + 1))) :
    ∑ index ∈ Finset.range count, (gain (index + 1) : ℤ) ≤ cost (climb gain) path := by
  induction count generalizing path with
  | zero =>
      rw [List.perm_singleton.mp perm]
      simp
  | succ count ih =>
      have lastMem : count + 1 ∈ path := perm.mem_iff.mpr (List.mem_range.mpr (by omega))
      rcases List.append_of_mem lastMem with ⟨front, back, rfl⟩
      rw [List.range_succ] at perm
      have shorter : (front ++ back).Perm (List.range (count + 1)) := by
        have consed := List.perm_middle.symm.trans (perm.trans List.perm_append_comm)
        exact consed.cons_inv
      have nonempty : front ++ back ≠ [] := by
        intro empty
        rw [empty] at shorter
        simpa using shorter.length_eq
      have saved := cost_climb_remove gain nonempty
        fun time timeMem => List.mem_range.mp (shorter.mem_iff.mp timeMem)
      have earlier := ih shorter
      rw [Finset.sum_range_succ]
      linarith

section Arrivals

variable {Vertex : Type*} {edge : Vertex → Vertex → ℤ}

/-- Vertices arriving at the placed ones, with gains that no edge across their cuts undercuts. -/
structure Arrivals (edge : Vertex → Vertex → ℤ) (placed arrivals : List Vertex) (gains : List ℤ) :
    Prop where
  nodup : (placed ++ arrivals).Nodup
  length_eq : arrivals.length = gains.length
  crossing : ∀ index < gains.length, ∀ source ∈ placed ++ arrivals.take index,
    ∀ target ∈ arrivals.drop index, gains.getD index 0 ≤ edge source target

theorem arrivals_nil {placed : List Vertex} (nodup : placed.Nodup) :
    Arrivals edge placed [] [] where
  nodup := by simpa using nodup
  length_eq := rfl
  crossing _ impossible := absurd impossible (Nat.not_lt_zero _)

/-- A vertex arrives before others that find it placed. -/
theorem Arrivals.cons {placed arrivals : List Vertex} {gains : List ℤ} {vertex : Vertex} {gain : ℤ}
    {larger : List Vertex} (later : Arrivals edge larger arrivals gains)
    (placedNow : larger.Perm (vertex :: placed))
    (across : ∀ source ∈ placed, ∀ target ∈ vertex :: arrivals, gain ≤ edge source target) :
    Arrivals edge placed (vertex :: arrivals) (gain :: gains) where
  nodup := by
    have moved := (placedNow.append_right arrivals).trans List.perm_middle.symm
    exact moved.nodup_iff.mp later.nodup
  length_eq := congrArg (· + 1) later.length_eq
  crossing
    | 0, _, source, sourceMem, target, targetMem => across source (by simpa using sourceMem) target
        (by simpa using targetMem)
    | index + 1, inside, source, sourceMem, target, targetMem => by
        apply later.crossing index (Nat.lt_of_succ_lt_succ inside) source ?_ target targetMem
        have moved := (placedNow.append_right (arrivals.take index)).trans List.perm_middle.symm
        exact moved.mem_iff.mpr sourceMem

/-- The gain of a time is that of the vertex arriving then, and the first one has none. -/
def timedGain (gains : List ℤ) (time : ℕ) : ℕ :=
  (gains.getD (time - 1) 0).toNat

variable [DecidableEq Vertex] {first : Vertex} {arrivals : List Vertex} {gains : List ℤ}

/-- An edge costs at least what the move between the arrivals of its ends passes over. -/
theorem Arrivals.climb_le_of_le (ordered : Arrivals edge [first] arrivals gains)
    {source target : Vertex} (sourceMem : source ∈ first :: arrivals)
    (targetMem : target ∈ first :: arrivals) (nonneg : 0 ≤ edge source target)
    (before : (first :: arrivals).idxOf source ≤ (first :: arrivals).idxOf target) :
    climb (timedGain gains) ((first :: arrivals).idxOf source)
      ((first :: arrivals).idxOf target) ≤ edge source target := by
  have targetLt := List.idxOf_lt_length_of_mem targetMem
  rw [List.length_cons, ordered.length_eq] at targetLt
  rw [climb_of_le _ before, ← Int.toNat_of_nonneg nonneg]
  apply Int.ofNat_le.mpr
  apply Finset.sup_le
  intro time timeMem
  rcases Finset.mem_Ioc.mp timeMem with ⟨after, atMost⟩
  have arrived : time - 1 + 1 = time := by omega
  apply Int.toNat_le_toNat
  apply ordered.crossing (time - 1) (by omega)
  · rw [List.singleton_append, ← List.take_succ_cons, arrived]
    exact (List.mem_take_iff_idxOf_lt sourceMem).mpr after
  · rw [← @List.drop_succ_cons _ first, arrived]
    have split := targetMem
    rw [← List.take_append_drop time (first :: arrivals), List.mem_append,
      List.mem_take_iff_idxOf_lt targetMem] at split
    exact split.resolve_left (by omega)

theorem Arrivals.map_idxOf (ordered : Arrivals edge [first] arrivals gains) :
    (first :: arrivals).map (first :: arrivals).idxOf = List.range (gains.length + 1) := by
  apply List.ext_getElem
  · simp [ordered.length_eq]
  · intro index inMap inRange
    rw [List.getElem_map, List.getElem_range]
    exact List.Nodup.idxOf_getElem ordered.nodup index _

/-- All gains together are at most the cost of a walk through all vertices. -/
theorem Arrivals.sum_le (ordered : Arrivals edge [first] arrivals gains)
    (symmetric : ∀ source ∈ first :: arrivals, ∀ target ∈ first :: arrivals,
      edge source target = edge target source)
    (nonneg : ∀ source ∈ first :: arrivals, ∀ target ∈ first :: arrivals, 0 ≤ edge source target)
    {path : List Vertex} (perm : path.Perm (first :: arrivals)) : gains.sum ≤ cost edge path := by
  have times := perm.map (first :: arrivals).idxOf
  rw [ordered.map_idxOf] at times
  have timed : cost (climb (timedGain gains)) (path.map (first :: arrivals).idxOf) ≤
      cost edge path := by
    apply cost_map_le
    intro source sourceMem target targetMem
    have sourceIn := perm.subset sourceMem
    have targetIn := perm.subset targetMem
    rcases le_total ((first :: arrivals).idxOf source) ((first :: arrivals).idxOf target) with
      before | after
    · exact ordered.climb_le_of_le sourceIn targetIn (nonneg source sourceIn target targetIn) before
    · rw [climb_comm, symmetric source sourceIn target targetIn]
      exact ordered.climb_le_of_le targetIn sourceIn (nonneg target targetIn source sourceIn) after
  calc
    gains.sum = ∑ index ∈ Finset.range gains.length, gains.getD index 0 := by
      simpa using (sum_range_getD gains 0 id).symm
    _ ≤ ∑ index ∈ Finset.range gains.length, (timedGain gains (index + 1) : ℤ) :=
      Finset.sum_le_sum fun index _ => Int.self_le_toNat (gains.getD index 0)
    _ ≤ cost (climb (timedGain gains)) (path.map (first :: arrivals).idxOf) :=
      sum_gains_le_cost _ times
    _ ≤ cost edge path := timed

end Arrivals

end Walk
