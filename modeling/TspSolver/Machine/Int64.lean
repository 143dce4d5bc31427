import Mathlib.Data.Int.Order.Basic
import Mathlib.Order.Lattice
import Mathlib.Algebra.Order.Group.Int
import Mathlib.Algebra.Order.Group.Abs
import Mathlib.Algebra.BigOperators.Group.Finset.Basic
import Mathlib.Data.Prod.Lex

/-!
# Exactness of 64-bit two's-complement sums

`Int64.ofInt` is additive, so a machine sum is always the truncation of the
integer sum of the same terms, however often it wraps on the way. When the
integer sum is representable the machine value is the sum itself, and machine
comparisons agree with the integer ones.
-/

namespace Int64

/-- The integers a signed 64-bit word can hold. -/
def Fits (value : ℤ) : Prop := -2 ^ 63 ≤ value ∧ value < 2 ^ 63

instance (value : ℤ) : Decidable (Fits value) :=
  inferInstanceAs (Decidable (_ ∧ _))

instance instLinearOrder : LinearOrder Int64 where
  le_refl := Int64.le_refl
  le_trans _ _ _ := Int64.le_trans
  le_antisymm _ _ := Int64.le_antisymm
  le_total := Int64.le_total
  lt_iff_le_not_ge left right := by
    simp only [Int64.lt_iff_toInt_lt, Int64.le_iff_toInt_le]
    omega
  toDecidableLE := fun left right => inferInstanceAs (Decidable (left ≤ right))
  toDecidableLT := fun left right => inferInstanceAs (Decidable (left < right))
  toDecidableEq := inferInstance

theorem fits_of_abs_le {bound value : ℤ} (boundLt : bound < 2 ^ 63) (valueLe : |value| ≤ bound) :
    Fits value := by
  rcases abs_le.mp valueLe with ⟨lower, upper⟩
  constructor <;> omega

theorem toInt_ofInt_of_fits {value : ℤ} (fits : Fits value) :
    (Int64.ofInt value).toInt = value :=
  Int64.toInt_ofInt_of_le fits.1 fits.2

theorem toInt_add_of_fits {left right : Int64} (fits : Fits (left.toInt + right.toInt)) :
    (left + right).toInt = left.toInt + right.toInt := by
  rw [← toInt_ofInt_of_fits fits, Int64.ofInt_add, Int64.ofInt_toInt, Int64.ofInt_toInt]

/-- Exact sums with one common term compare as their other terms. -/
theorem le_iff_of_toInt_add {left right leftSum rightSum : Int64} {common : ℤ}
    (leftEq : leftSum.toInt = left.toInt + common)
    (rightEq : rightSum.toInt = right.toInt + common) : leftSum ≤ rightSum ↔ left ≤ right := by
  rw [Int64.le_iff_toInt_le, Int64.le_iff_toInt_le, leftEq, rightEq]
  omega

theorem eq_iff_of_toInt_add {left right leftSum rightSum : Int64} {common : ℤ}
    (leftEq : leftSum.toInt = left.toInt + common)
    (rightEq : rightSum.toInt = right.toInt + common) : leftSum = rightSum ↔ left = right := by
  rw [← Int64.toInt_inj, ← Int64.toInt_inj, leftEq, rightEq]
  omega

/-- Pairs that begin with a word are ordered as the pairs that begin with its integer. -/
theorem toLex_toInt_le_iff {Rank : Type*} [LinearOrder Rank] {left right : Int64}
    {leftRank rightRank : Rank} :
    (toLex (left.toInt, leftRank) : ℤ ×ₗ Rank) ≤ toLex (right.toInt, rightRank) ↔
      (toLex (left, leftRank) : Int64 ×ₗ Rank) ≤ toLex (right, rightRank) := by
  rw [Prod.Lex.toLex_le_toLex, Prod.Lex.toLex_le_toLex]
  simp only [Int64.lt_iff_toInt_lt, Int64.toInt_inj]

theorem ofInt_add_toInt (value : ℤ) (word : Int64) :
    Int64.ofInt (value + word.toInt) = Int64.ofInt value + word := by
  rw [Int64.ofInt_add, Int64.ofInt_toInt]

/-- A running machine total is the truncated integer sum of its terms. -/
theorem foldl_range_add_eq_ofInt (term : ℕ → Int64) (count : ℕ) :
    (List.range count).foldl (fun total index => total + term index) 0 =
      Int64.ofInt (∑ index ∈ Finset.range count, (term index).toInt) := by
  induction count with
  | zero => rfl
  | succ count ih =>
      rw [List.range_succ, List.foldl_append, ih, Finset.sum_range_succ, ofInt_add_toInt]
      rfl

end Int64
