import TspSolver.Machine.UInt64
import Mathlib.Algebra.Order.Group.Nat
import Mathlib.Data.Nat.Find
import Mathlib.Tactic.NormNum

/-!
# The random stream of the perturbation step

`splitmix64` advances an additive state and passes it through a bijective
finalizer. Every word is therefore drawn sooner or later from every state, which
is what makes the rejection loop of the perturbation step total.
-/

namespace TspSolver

/-- The increment of the state. -/
def kPerturbationMix : UInt64 := 0x9e3779b97f4a7c15

/-- The shift before the first multiplication. -/
def kSplitMix64Shift1 : UInt64 := 30

/-- The shift before the second multiplication. -/
def kSplitMix64Shift2 : UInt64 := 27

/-- The shift of the output. -/
def kSplitMix64Shift3 : UInt64 := 31

/-- The first multiplier, an odd one. -/
def kSplitMix64Mul1 : UInt64 := 0xbf58476d1ce4e5b9

/-- The second multiplier, an odd one. -/
def kSplitMix64Mul2 : UInt64 := 0x94d049bb133111eb

/-- The output word and the advanced state, which the source updates by reference. -/
def splitmix64 (state : UInt64) : UInt64 × UInt64 :=
  let state := state + kPerturbationMix
  let value := state
  let value := (value ^^^ (value >>> kSplitMix64Shift1)) * kSplitMix64Mul1
  let value := (value ^^^ (value >>> kSplitMix64Shift2)) * kSplitMix64Mul2
  (value ^^^ (value >>> kSplitMix64Shift3), state)

namespace SplitMix

/-- The output as a function of the advanced state. -/
def finalize (word : UInt64) : UInt64 :=
  let value := (word ^^^ (word >>> kSplitMix64Shift1)) * kSplitMix64Mul1
  let value := (value ^^^ (value >>> kSplitMix64Shift2)) * kSplitMix64Mul2
  value ^^^ (value >>> kSplitMix64Shift3)

/-- The state moves on by an odd increment. -/
def advance (state : UInt64) : UInt64 := state + kPerturbationMix

theorem splitmix64_eq (state : UInt64) :
    splitmix64 state = (finalize (advance state), advance state) := rfl

theorem finalize_bijective : Function.Bijective finalize := by
  have first := UInt64.xorShift_bijective kSplitMix64Shift1 (by decide) (by decide)
  have second := UInt64.xorShift_bijective kSplitMix64Shift2 (by decide) (by decide)
  have third := UInt64.xorShift_bijective kSplitMix64Shift3 (by decide) (by decide)
  have firstMul : Function.Bijective fun word : UInt64 => word * kSplitMix64Mul1 :=
    UInt64.mul_right_bijective (show kSplitMix64Mul1 * 0x96de1b173f119089 = 1 by decide)
  have secondMul : Function.Bijective fun word : UInt64 => word * kSplitMix64Mul2 :=
    UInt64.mul_right_bijective (show kSplitMix64Mul2 * 0x319642b2d24d8ec3 = 1 by decide)
  exact third.comp (secondMul.comp (second.comp (firstMul.comp first)))

/-- The increment is odd, hence a unit. -/
theorem kPerturbationMix_unit : kPerturbationMix * 0xf1de83e19937733d = 1 := by decide

/-- The state runs through all words. -/
theorem exists_advance (state target : UInt64) :
    ∃ count < 2 ^ 64, advance^[count] state = target :=
  UInt64.exists_iterate_add kPerturbationMix_unit state target

theorem advance_iterate (state : UInt64) (count : ℕ) :
    advance (advance^[count] state) = advance^[count] (advance state) :=
  (Function.iterate_succ_apply' advance count state).symm.trans
    (Function.iterate_succ_apply advance count state)

/-- From every state, every word is the output of some later draw. -/
theorem exists_draw (state word : UInt64) :
    ∃ count, (splitmix64 (advance^[count] state)).1 = word := by
  rcases finalize_bijective.surjective word with ⟨source, sourceEq⟩
  rcases exists_advance (advance state) source with ⟨count, _, reached⟩
  refine ⟨count, ?_⟩
  simp only [splitmix64_eq, advance_iterate, reached, sourceEq]

end SplitMix

/-- `1 + static_cast<std::size_t>(splitmix64(state) % range)` and the advanced state. -/
def drawIndex (range : ℕ) (state : UInt64) : ℕ × UInt64 :=
  (1 + (splitmix64 state).1.toNat % range, (splitmix64 state).2)

theorem exists_drawIndex_ne {range : ℕ} (proper : 2 ≤ range) (first : ℕ) (state : UInt64) :
    ∃ count, (drawIndex range (SplitMix.advance^[count] state)).1 ≠ first := by
  have residueZero : (0 : UInt64).toNat % range = 0 := by simp
  have residueOne : (1 : UInt64).toNat % range = 1 := by
    simp only [UInt64.reduceToNat]
    exact Nat.mod_eq_of_lt proper
  rcases SplitMix.exists_draw state 0 with ⟨zeroAt, zeroDrawn⟩
  rcases SplitMix.exists_draw state 1 with ⟨oneAt, oneDrawn⟩
  by_cases hit : first = 1
  · refine ⟨oneAt, ?_⟩
    simp only [drawIndex, oneDrawn, residueOne]
    omega
  · refine ⟨zeroAt, ?_⟩
    simp only [drawIndex, zeroDrawn, residueZero]
    omega

/-- How many draws are rejected from here on. -/
def rejections {range : ℕ} (proper : 2 ≤ range) (first : ℕ) (state : UInt64) : ℕ :=
  Nat.find (exists_drawIndex_ne proper first state)

theorem rejections_lt {range : ℕ} (proper : 2 ≤ range) {first : ℕ} {state : UInt64}
    (rejected : (drawIndex range state).1 = first) :
    rejections proper first (drawIndex range state).2 < rejections proper first state := by
  have other := Nat.find_spec (exists_drawIndex_ne proper first state)
  rcases turns : Nat.find (exists_drawIndex_ne proper first state) with _ | later
  · rw [turns] at other
    exact absurd rejected other
  · rw [turns, Function.iterate_succ_apply] at other
    have atMost := Nat.find_min' (exists_drawIndex_ne proper first (SplitMix.advance state)) other
    exact (Nat.lt_succ_of_le atMost).trans_eq turns.symm

/-- The draw of `second` with its rejection loop `while (second == first)`. -/
def drawSecond (range first : ℕ) (proper : 2 ≤ range) (state : UInt64) : ℕ × UInt64 :=
  if (drawIndex range state).1 = first then
    drawSecond range first proper (drawIndex range state).2
  else drawIndex range state
termination_by rejections proper first state
decreasing_by
  next rejected => exact rejections_lt proper rejected

end TspSolver
