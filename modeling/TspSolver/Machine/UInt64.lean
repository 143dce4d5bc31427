import Mathlib.Algebra.Group.Int.Defs
import Mathlib.Algebra.Order.Group.Nat
import Mathlib.Logic.Function.Iterate
import Mathlib.Logic.Function.Basic

/-!
# Bijections of 64-bit words

The invertible building blocks of mixing functions: an xor with a right shift
of the word itself, a multiplication by a unit, and the additive sequence
generated by a unit.
-/

namespace UInt64

/-- Three shifts of at least 64 bits in total leave nothing of a word. -/
private theorem shiftRight_thrice (word shift : UInt64)
    (long : 22 ≤ shift.toNat) (short : shift.toNat < 64) :
    word >>> shift >>> shift >>> shift = 0 := by
  have amount : (shift.toBitVec % 64).toNat = shift.toNat := by
    rw [BitVec.toNat_umod, UInt64.toNat_toBitVec]
    exact Nat.mod_eq_of_lt short
  rw [← UInt64.toBitVec_inj]
  simp only [UInt64.toBitVec_shiftRight, BitVec.ushiftRight_eq', amount,
    ← BitVec.shiftRight_add]
  exact BitVec.ushiftRight_eq_zero (by omega)

private theorem xor_telescope (first second third : UInt64) :
    first ^^^ second ^^^ (second ^^^ third) ^^^ third = first := by
  rw [UInt64.xor_assoc first, ← UInt64.xor_assoc second second, UInt64.xor_self,
    UInt64.zero_xor, UInt64.xor_assoc, UInt64.xor_self, UInt64.xor_zero]

/-- An xor with a shift of 22 bits or more is undone by two further shifts. -/
theorem xorShift_bijective (shift : UInt64)
    (long : 22 ≤ shift.toNat) (short : shift.toNat < 64) :
    Function.Bijective fun word : UInt64 => word ^^^ word >>> shift := by
  rw [Function.bijective_iff_has_inverse]
  refine ⟨fun word => word ^^^ word >>> shift ^^^ word >>> shift >>> shift, ?_, ?_⟩
  · intro word
    simp only [UInt64.shiftRight_xor, shiftRight_thrice word shift long short, UInt64.xor_zero]
    exact xor_telescope _ _ _
  · intro word
    simp only [UInt64.shiftRight_xor, shiftRight_thrice word shift long short, UInt64.xor_zero]
    rw [UInt64.xor_assoc, UInt64.xor_comm (word >>> shift >>> shift), UInt64.xor_assoc,
      UInt64.xor_assoc, UInt64.xor_self, UInt64.xor_zero, UInt64.xor_self, UInt64.xor_zero]

theorem mul_right_bijective {factor inverse : UInt64} (unit : factor * inverse = 1) :
    Function.Bijective fun word : UInt64 => word * factor := by
  rw [Function.bijective_iff_has_inverse]
  refine ⟨fun word => word * inverse, ?_, ?_⟩
  · intro word
    simp only [UInt64.mul_assoc, unit, UInt64.mul_one]
  · intro word
    simp only [UInt64.mul_assoc, UInt64.mul_comm inverse, unit, UInt64.mul_one]

theorem iterate_add (step word : UInt64) (count : ℕ) :
    (fun state : UInt64 => state + step)^[count] word = word + UInt64.ofNat count * step := by
  induction count with
  | zero => simp
  | succ count ih =>
      rw [Function.iterate_succ_apply', ih, UInt64.ofNat_add, UInt64.add_mul, UInt64.add_assoc]
      simp

/-- Adding a unit over and over reaches every word. -/
theorem exists_iterate_add {step inverse : UInt64} (unit : step * inverse = 1)
    (word target : UInt64) :
    ∃ count < 2 ^ 64, (fun state : UInt64 => state + step)^[count] word = target := by
  refine ⟨((target - word) * inverse).toNat, UInt64.toNat_lt _, ?_⟩
  rw [iterate_add, UInt64.ofNat_toNat, UInt64.mul_assoc, UInt64.mul_comm inverse, unit,
    UInt64.mul_one, UInt64.add_comm, UInt64.sub_add_cancel]

/-- The first 2^64 sums are all different. -/
theorem iterate_add_inj {step inverse : UInt64} (unit : step * inverse = 1) {word : UInt64}
    {left right : ℕ} (leftLt : left < 2 ^ 64) (rightLt : right < 2 ^ 64)
    (same : (fun state : UInt64 => state + step)^[left] word =
      (fun state : UInt64 => state + step)^[right] word) : left = right := by
  rw [iterate_add, iterate_add, UInt64.add_right_inj] at same
  have words := (mul_right_bijective unit).injective same
  have values := congrArg UInt64.toNat words
  rwa [UInt64.toNat_ofNat', UInt64.toNat_ofNat', Nat.mod_eq_of_lt leftLt,
    Nat.mod_eq_of_lt rightLt] at values

/-- After 2^64 sums the sequence is back where it started. -/
theorem iterate_add_period (step word : UInt64) :
    (fun state : UInt64 => state + step)^[2 ^ 64] word = word := by
  rw [iterate_add, show UInt64.ofNat (2 ^ 64) = 0 by decide, UInt64.zero_mul, UInt64.add_zero]

theorem toNat_ofInt_of_le {value : ℤ} (low : 0 ≤ value) (high : value ≤ 2 ^ 64 - 1) :
    ((UInt64.ofInt value).toNat : ℤ) = value := by
  have small : (value % 2 ^ 64).toNat < 2 ^ 64 := by omega
  rw [UInt64.ofInt, UInt64.toNat_ofNat_of_lt' small, Int.toNat_of_nonneg (by omega)]
  omega

end UInt64
