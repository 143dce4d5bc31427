import TspSolver.Loop.Fold
import Mathlib.Data.List.GetD

/-!
# Loops whose turns may fail

A program that checks every access of a list is a computation in `Option`. The
rules here turn a statement about one checked turn into a statement about the
loop: where the accesses of every turn are inside, the checked loop yields what
the plain loop computes.
-/

namespace Loop

universe u v w

variable {State : Type u} {Index : Type v} {Found : Type w}

/-! ## Access -/

/-- `entries[index] = value`, or nothing outside the list. -/
def write {Entry : Type u} (entries : List Entry) (index : ℕ) (value : Entry) :
    Option (List Entry) :=
  if index < entries.length then some (entries.set index value) else none

theorem write_of_lt {Entry : Type u} {entries : List Entry} {index : ℕ}
    (inside : index < entries.length) (value : Entry) :
    write entries index value = some (entries.set index value) := if_pos inside

theorem read_of_lt {Entry : Type u} {entries : List Entry} {index : ℕ}
    (inside : index < entries.length) (default : Entry) :
    entries[index]? = some (entries.getD index default) := by
  rw [List.getElem?_eq_getElem inside, List.getD_eq_getElem _ _ inside]

/-! ## Folds -/

/-- A fold whose every turn succeeds under an invariant is the plain fold. -/
theorem foldlM_eq_some (invariant : State → Prop) {checked : State → Index → Option State}
    {body : State → Index → State} {indices : List Index} {initial : State}
    (base : invariant initial)
    (keeps : ∀ state, ∀ index ∈ indices, invariant state → invariant (body state index))
    (turn : ∀ state, ∀ index ∈ indices, invariant state →
      checked state index = some (body state index)) :
    indices.foldlM checked initial = some (indices.foldl body initial) := by
  induction indices generalizing initial with
  | nil => rfl
  | cons index rest ih =>
      have later {other : Index} (otherMem : other ∈ rest) : other ∈ index :: rest := by
        simp [otherMem]
      rw [List.foldlM_cons, turn initial index (by simp) base, List.foldl_cons]
      exact ih (keeps initial index (by simp) base)
        (fun state other otherMem => keeps state other (later otherMem))
        (fun state other otherMem => turn state other (later otherMem))

/-- The rule for a fold whose turns succeed in any state. -/
theorem foldlM_eq_some_of_forall {checked : State → Index → Option State}
    {body : State → Index → State} {indices : List Index} (initial : State)
    (turn : ∀ state, ∀ index ∈ indices, checked state index = some (body state index)) :
    indices.foldlM checked initial = some (indices.foldl body initial) :=
  foldlM_eq_some (fun _ => True) trivial (fun _ _ _ _ => trivial)
    (fun state index indexMem _ => turn state index indexMem)

/-- A scan for the first hit whose every probe succeeds is the plain scan. -/
theorem findSomeM?_eq_some {checked : Index → Option (Option Found)}
    {probe : Index → Option Found} {indices : List Index}
    (turn : ∀ index ∈ indices, checked index = some (probe index)) :
    indices.findSomeM? checked = some (indices.findSome? probe) := by
  induction indices with
  | nil => rfl
  | cons index rest ih =>
      have here := turn index (by simp)
      have later := ih fun other otherMem => turn other (by simp [otherMem])
      rw [List.findSomeM?, here, List.findSome?_cons]
      cases probe index with
      | none => exact later
      | some found => rfl

/-- A hit of a checked scan is a hit of one of its probes. -/
theorem exists_of_findSomeM?_eq_some {checked : Index → Option (Option Found)} {found : Found}
    {indices : List Index} (hit : indices.findSomeM? checked = some (some found)) :
    ∃ index ∈ indices, checked index = some (some found) := by
  induction indices with
  | nil => cases hit
  | cons index rest ih =>
      rw [List.findSomeM?] at hit
      cases probed : checked index with
      | none =>
          rw [probed] at hit
          cases hit
      | some outcome =>
          rw [probed] at hit
          cases outcome with
          | none =>
              rcases ih hit with ⟨other, otherMem, here⟩
              exact ⟨other, List.mem_cons_of_mem _ otherMem, here⟩
          | some other =>
              cases hit
              exact ⟨index, by simp, probed⟩

/-- A conjunction whose every test succeeds is the plain one. -/
theorem allM_eq_some {checked : Index → Option Bool} {test : Index → Bool}
    {indices : List Index} (turn : ∀ index ∈ indices, checked index = some (test index)) :
    indices.allM checked = some (indices.all test) := by
  induction indices with
  | nil => rfl
  | cons index rest ih =>
      have here := turn index (by simp)
      have later := ih fun other otherMem => turn other (by simp [otherMem])
      rw [List.allM, here, List.all_cons]
      cases test index with
      | false => rfl
      | true => exact later

theorem mapM_eq_some {checked : Index → Option Found} {image : Index → Found}
    {indices : List Index} (turn : ∀ index ∈ indices, checked index = some (image index)) :
    indices.mapM checked = some (indices.map image) := by
  induction indices with
  | nil => rfl
  | cons index rest ih =>
      rw [List.mapM_cons, turn index (by simp),
        ih fun other otherMem => turn other (by simp [otherMem])]
      rfl

/-! ## Repetition -/

/-- A step repeated a number of times, as long as it succeeds. -/
def repeatM (step : State → Option State) : ℕ → State → Option State
  | 0, state => some state
  | count + 1, state => step state >>= repeatM step count

theorem repeatM_eq_some (invariant : State → Prop) {checked : State → Option State}
    {step : State → State} (count : ℕ) {initial : State} (base : invariant initial)
    (keeps : ∀ state, invariant state → invariant (step state))
    (turn : ∀ state, invariant state → checked state = some (step state)) :
    repeatM checked count initial = some (step^[count] initial) := by
  induction count generalizing initial with
  | zero => rfl
  | succ count ih =>
      rw [repeatM, turn initial base, Function.iterate_succ_apply]
      exact ih (keeps initial base)

end Loop
