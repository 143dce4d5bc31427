import TspSolver.SplitMix
import Mathlib.Data.Int.CardIntervalMod

/-!
# How often the perturbation draws a position

Over a whole period of the stream every word is drawn once. The remainder that
turns a word into a position prefers the low positions, but only by one draw in
the period.
-/

namespace TspSolver

namespace SplitMix

/-- The words drawn in one period are all words. -/
theorem count_draws (state : UInt64) (event : UInt64 → Prop) [DecidablePred event] :
    Nat.count (fun turn => event (splitmix64 (advance^[turn] state)).1) (2 ^ 64) =
      Nat.count (fun value => event (UInt64.ofNat value)) (2 ^ 64) := by
  have drawEq (turn : ℕ) :
      (splitmix64 (advance^[turn] state)).1 = finalize (advance^[turn] (advance state)) := by
    rw [splitmix64_eq, advance_iterate]
  rw [Nat.count_eq_card_filter_range, Nat.count_eq_card_filter_range]
  apply Finset.card_bij fun turn _ => (splitmix64 (advance^[turn] state)).1.toNat
  · intro turn turnMem
    rw [Finset.mem_filter] at turnMem ⊢
    rw [Finset.mem_range, UInt64.ofNat_toNat]
    exact ⟨UInt64.toNat_lt _, turnMem.2⟩
  · intro left leftMem right rightMem same
    have leftLt := Finset.mem_range.mp (Finset.mem_filter.mp leftMem).1
    have rightLt := Finset.mem_range.mp (Finset.mem_filter.mp rightMem).1
    have words := UInt64.toNat_inj.mp same
    rw [drawEq, drawEq] at words
    exact UInt64.iterate_add_inj kPerturbationMix_unit leftLt rightLt
      (finalize_bijective.injective words)
  · intro value valueMem
    rcases Finset.mem_filter.mp valueMem with ⟨valueLt, happens⟩
    rcases finalize_bijective.surjective (UInt64.ofNat value) with ⟨source, sourceEq⟩
    rcases exists_advance (advance state) source with ⟨turn, turnLt, reached⟩
    have drawn : (splitmix64 (advance^[turn] state)).1 = UInt64.ofNat value := by
      rw [drawEq, reached, sourceEq]
    refine ⟨turn, ?_, ?_⟩
    · rw [Finset.mem_filter, Finset.mem_range, drawn]
      exact ⟨turnLt, happens⟩
    · rw [drawn, UInt64.toNat_ofNat_of_lt' (Finset.mem_range.mp valueLt)]

end SplitMix

open SplitMix

/--
Among any 2^64 successive draws every position occurs equally often, up to one
draw more for the positions not above the remainder of 2^64.
-/
theorem drawIndex_fair {range index : ℕ} (lower : 1 ≤ index) (upper : index ≤ range)
    (state : UInt64) :
    Nat.count (fun turn => (drawIndex range (advance^[turn] state)).1 = index) (2 ^ 64) =
      2 ^ 64 / range + if index ≤ 2 ^ 64 % range then 1 else 0 := by
  have positive : 0 < range := by omega
  have residue : (index - 1) % range = index - 1 := Nat.mod_eq_of_lt (by omega)
  have draws := count_draws state fun word => 1 + word.toNat % range = index
  have words : Nat.count (fun value => 1 + (UInt64.ofNat value).toNat % range = index) (2 ^ 64) =
      Nat.count (· ≡ index - 1 [MOD range]) (2 ^ 64) := by
    rw [Nat.count_eq_card_filter_range, Nat.count_eq_card_filter_range]
    apply congrArg Finset.card
    apply Finset.filter_congr
    intro value valueMem
    rw [UInt64.toNat_ofNat_of_lt' (Finset.mem_range.mp valueMem), Nat.ModEq, residue]
    omega
  rw [Nat.count_modEq_card _ positive, residue] at words
  have sameSide : index - 1 < 2 ^ 64 % range ↔ index ≤ 2 ^ 64 % range := by omega
  simp only [sameSide] at words
  exact draws.trans words

/-- A tour of four nodes has three positions to swap, and 2^64 leaves the remainder one. -/
theorem drawIndex_fair_three :
    Nat.count (fun turn => (drawIndex 3 (advance^[turn] 0)).1 = 2) (2 ^ 64) = 2 ^ 64 / 3 := by
  have counted := @drawIndex_fair 3 2 (by decide) (by decide) 0
  rwa [if_neg (by decide), Nat.add_zero] at counted

end TspSolver
