import TspSolver.Loop.Fold
import Mathlib.Order.Lattice
import Mathlib.Data.Prod.Lex

/-!
# Running minima with a sentinel

A selection loop keeps the least key seen so far, starts from a sentinel and
skips some entries. `least` is that loop over an arbitrary linear order; with
keys in a lexicographic product it covers every tie-break by a second component.
-/

namespace Scan

universe u v

variable {Entry : Type u} {Key : Type v} [LinearOrder Key]

/-- Replace the running minimum by the entry's key when that is smaller. -/
def improve (key : Entry → Option Key) (best : Key) (entry : Entry) : Key :=
  match key entry with
  | none => best
  | some candidate => if candidate < best then candidate else best

/-- The least key among the sentinel and the entries that have one. -/
def least (key : Entry → Option Key) (sentinel : Key) (entries : List Entry) : Key :=
  entries.foldl (improve key) sentinel

variable {key : Entry → Option Key} {sentinel : Key} {entries : List Entry}

theorem improve_le (best : Key) (entry : Entry) : improve key best entry ≤ best := by
  unfold improve
  split
  · exact le_rfl
  · split
    · next smaller => exact smaller.le
    · exact le_rfl

theorem improve_le_key {best candidate : Key} {entry : Entry}
    (keyed : key entry = some candidate) : improve key best entry ≤ candidate := by
  simp only [improve, keyed]
  split
  · exact le_rfl
  · next notSmaller => exact not_lt.mp notSmaller

theorem least_le_sentinel : least key sentinel entries ≤ sentinel :=
  Loop.foldl_induction (fun best => best ≤ sentinel) le_rfl
    (fun best entry _ bound => (improve_le best entry).trans bound)

theorem least_le_key {candidate : Key} {entry : Entry} (entryMem : entry ∈ entries)
    (keyed : key entry = some candidate) : least key sentinel entries ≤ candidate := by
  induction entries generalizing sentinel with
  | nil => simp at entryMem
  | cons head rest ih =>
      rw [least, List.foldl_cons]
      rcases List.mem_cons.mp entryMem with rfl | restMem
      · exact least_le_sentinel.trans (improve_le_key keyed)
      · exact ih restMem

/-- The scan ends on the sentinel or on the key of one of its entries. -/
theorem least_eq_sentinel_or_key (key : Entry → Option Key) (sentinel : Key)
    (entries : List Entry) :
    least key sentinel entries = sentinel ∨
      ∃ entry ∈ entries, key entry = some (least key sentinel entries) := by
  apply Loop.foldl_induction
    (fun best => best = sentinel ∨ ∃ entry ∈ entries, key entry = some best) (Or.inl rfl)
  intro best entry entryMem reached
  unfold improve
  split
  · exact reached
  · next candidate keyed =>
      split
      · exact Or.inr ⟨entry, entryMem, keyed⟩
      · exact reached

/--
A lexicographic minimum below a candidate that in turn costs at most `total`:
it ties with the total only through a tied candidate of no smaller rank.
-/
theorem le_and_rank_le_of_le {Cost Rank : Type*} [LinearOrder Cost] [LinearOrder Rank]
    {best : Cost × Rank} {candidate total : Cost} {rank : Rank}
    (bestLe : toLex best ≤ toLex (candidate, rank)) (candidateLe : candidate ≤ total) :
    best.1 ≤ total ∧ (best.1 = total → candidate = total ∧ best.2 ≤ rank) := by
  have costLe : best.1 ≤ candidate := Prod.Lex.monotone_fst _ _ bestLe
  refine ⟨costLe.trans candidateLe, ?_⟩
  intro tied
  have candidateTied := le_antisymm candidateLe (tied ▸ costLe)
  refine ⟨candidateTied, ?_⟩
  rcases Prod.Lex.toLex_le_toLex.mp bestLe with cheaper | ⟨_, rankLe⟩
  · exact absurd (tied.trans candidateTied.symm) cheaper.ne
  · exact rankLe

/-- A fold that mirrors `improve` through an embedding of its state computes `least`. -/
theorem foldl_eq_least {State : Type*} (embed : State → Key) {body : State → Entry → State}
    (mirror : ∀ state entry, embed (body state entry) = improve key (embed state) entry)
    (initial : State) :
    embed (entries.foldl body initial) = least key (embed initial) entries := by
  rw [least, List.foldl_hom embed]
  intro state entry
  exact (mirror state entry).symm

end Scan
