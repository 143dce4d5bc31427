import Mathlib.Data.Nat.Bitwise
import Mathlib.Data.List.Perm.Subperm
import Mathlib.Data.List.Nodup
import Mathlib.Data.List.Range

/-!
# Bit sets in a natural number

A mask holds the positions of its set bits. The tests and updates are the ones
programs write: `mask &&& 1 <<< i` for membership, `mask ^^^ 1 <<< i` to take a
member out, `1 <<< width - 1` for all positions below the width. `Lists` relates
a mask to the duplicate-free lists of its members.
-/

namespace Mask

variable {mask i j : ℕ}

theorem and_bit_eq_zero_iff (mask i : ℕ) : mask &&& 1 <<< i = 0 ↔ mask.testBit i = false := by
  rw [Nat.one_shiftLeft, Nat.and_two_pow]
  cases mask.testBit i with
  | false => simp
  | true => simp

theorem testBit_bit (i j : ℕ) : (1 <<< i).testBit j = decide (i = j) := by
  rw [Nat.one_shiftLeft, Nat.testBit_two_pow]

theorem testBit_clear (member : mask.testBit i = true) (j : ℕ) :
    (mask ^^^ 1 <<< i).testBit j = (mask.testBit j && decide (i ≠ j)) := by
  rw [Nat.testBit_xor, testBit_bit]
  by_cases here : i = j
  · subst here
    simp [member]
  · simp [here]

theorem clear_lt (member : mask.testBit i = true) : mask ^^^ 1 <<< i < mask := by
  apply Nat.lt_of_testBit i
  · simp [testBit_clear member]
  · exact member
  · intro j above
    have distinct : i ≠ j := by omega
    simp [testBit_clear member, distinct]

theorem clear_eq_zero_iff : mask ^^^ 1 <<< i = 0 ↔ mask = 1 <<< i :=
  Nat.xor_eq_zero_iff

theorem testBit_full (width i : ℕ) : (1 <<< width - 1).testBit i = decide (i < width) := by
  rw [Nat.one_shiftLeft, Nat.testBit_two_pow_sub_one]

theorem lt_width_of_testBit {width : ℕ} (bounded : mask < 1 <<< width)
    (member : mask.testBit i = true) : i < width := by
  rw [Nat.one_shiftLeft] at bounded
  by_contra outside
  have high := Nat.testBit_lt_two_pow
    (bounded.trans_le (Nat.pow_le_pow_right Nat.zero_lt_two (not_lt.mp outside)))
  simp [high] at member

/-- The list has every member of the mask once and nothing else. -/
structure Lists (mask : ℕ) (members : List ℕ) : Prop where
  nodup : members.Nodup
  mem_iff : ∀ i, i ∈ members ↔ mask.testBit i = true

theorem Lists.singleton (i : ℕ) : Lists (1 <<< i) [i] where
  nodup := List.nodup_singleton i
  mem_iff j := by
    rw [List.mem_singleton, testBit_bit, decide_eq_true_iff]
    exact eq_comm

theorem Lists.cons {rest : List ℕ} (member : mask.testBit i = true)
    (lists : Lists (mask ^^^ 1 <<< i) rest) : Lists mask (i :: rest) where
  nodup := by
    apply List.nodup_cons.mpr ⟨_, lists.nodup⟩
    rw [lists.mem_iff, testBit_clear member]
    simp
  mem_iff j := by
    rw [List.mem_cons, lists.mem_iff, testBit_clear member]
    by_cases here : j = i
    · simp [here, member]
    · simp [here, Ne.symm here]

theorem Lists.head {rest : List ℕ} (lists : Lists mask (i :: rest)) : mask.testBit i = true :=
  (lists.mem_iff i).mp (by simp)

theorem Lists.tail {rest : List ℕ} (lists : Lists mask (i :: rest)) :
    Lists (mask ^^^ 1 <<< i) rest where
  nodup := lists.nodup.of_cons
  mem_iff j := by
    have notMem := (List.nodup_cons.mp lists.nodup).1
    have whole := lists.mem_iff j
    rw [List.mem_cons] at whole
    rw [testBit_clear lists.head, Bool.and_eq_true, ← whole, decide_eq_true_iff]
    constructor
    · intro restMem
      exact ⟨Or.inr restMem, fun same => notMem (same ▸ restMem)⟩
    · rintro ⟨same | restMem, distinct⟩
      · exact absurd same.symm distinct
      · exact restMem

theorem Lists.mask_eq {other : ℕ} {members : List ℕ} (left : Lists mask members)
    (right : Lists other members) : mask = other := by
  apply Nat.eq_of_testBit_eq
  intro i
  rw [Bool.eq_iff_iff, ← left.mem_iff, right.mem_iff]

theorem Lists.length_le {width : ℕ} {members : List ℕ} (bounded : mask < 1 <<< width)
    (lists : Lists mask members) : members.length ≤ width := by
  have contained : members ⊆ List.range width := by
    intro i iMem
    exact List.mem_range.mpr (lt_width_of_testBit bounded ((lists.mem_iff i).mp iMem))
  have lengthLe := (List.subperm_of_subset lists.nodup contained).length_le
  rwa [List.length_range] at lengthLe

theorem Lists.eq_nil {members : List ℕ} (lists : Lists 0 members) : members = [] := by
  apply List.eq_nil_iff_forall_not_mem.mpr
  intro i iMem
  have member := (lists.mem_iff i).mp iMem
  simp at member

theorem lists_full_iff {width : ℕ} {members : List ℕ} :
    Lists (1 <<< width - 1) members ↔ members.Perm (List.range width) := by
  constructor
  · intro lists
    rw [List.perm_ext_iff_of_nodup lists.nodup List.nodup_range]
    intro i
    rw [lists.mem_iff, testBit_full, decide_eq_true_iff, List.mem_range]
  · intro perm
    refine ⟨perm.nodup_iff.mpr List.nodup_range, fun i => ?_⟩
    rw [perm.mem_iff, List.mem_range, testBit_full, decide_eq_true_iff]

end Mask
