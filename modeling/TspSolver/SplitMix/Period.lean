import TspSolver.SplitMix

/-!
# The period of the random stream

The state of the generator is an additive sequence with an odd increment, and
the output is a bijection of the advanced state. So a stream runs through all
64-bit words before it repeats.
-/

namespace TspSolver

/-- The word that call number `count` returns, when one state variable is passed to every call. -/
def splitmix64Output (state : UInt64) (count : ℕ) : UInt64 :=
  (splitmix64 ((fun current => (splitmix64 current).2)^[count] state)).1

namespace SplitMix

theorem splitmix64Output_eq (state : UInt64) (count : ℕ) :
    splitmix64Output state count = finalize (advance^[count] (advance state)) := by
  have states : (fun current => (splitmix64 current).2) = advance := rfl
  rw [splitmix64Output, states, splitmix64_eq, advance_iterate]

end SplitMix

open SplitMix

/--
From every state the first 2^64 outputs are pairwise distinct, every word is one
of them exactly once, and then the stream repeats.
-/
theorem splitmix64_full_period (state : UInt64) :
    (∀ left < 2 ^ 64, ∀ right < 2 ^ 64,
      splitmix64Output state left = splitmix64Output state right → left = right) ∧
    (∀ word, ∃! count, count < 2 ^ 64 ∧ splitmix64Output state count = word) ∧
    ∀ count, splitmix64Output state (count + 2 ^ 64) = splitmix64Output state count := by
  have distinct : ∀ left < 2 ^ 64, ∀ right < 2 ^ 64,
      splitmix64Output state left = splitmix64Output state right → left = right := by
    intro left leftLt right rightLt same
    rw [splitmix64Output_eq, splitmix64Output_eq] at same
    exact UInt64.iterate_add_inj kPerturbationMix_unit leftLt rightLt
      (finalize_bijective.injective same)
  refine ⟨distinct, ?_, ?_⟩
  · intro word
    rcases finalize_bijective.surjective word with ⟨source, sourceEq⟩
    rcases exists_advance (advance state) source with ⟨count, countLt, reached⟩
    have drawn : splitmix64Output state count = word := by
      rw [splitmix64Output_eq, reached, sourceEq]
    refine ⟨count, ⟨countLt, drawn⟩, ?_⟩
    rintro other ⟨otherLt, otherDrawn⟩
    exact distinct other otherLt count countLt (otherDrawn.trans drawn.symm)
  · intro count
    have wrapped := UInt64.iterate_add_period kPerturbationMix (advance state)
    rw [splitmix64Output_eq, splitmix64Output_eq, Function.iterate_add_apply]
    exact congrArg (fun word => finalize (advance^[count] word)) wrapped

end TspSolver
