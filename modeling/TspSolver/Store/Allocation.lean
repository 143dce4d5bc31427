import TspSolver.Store.Writes

/-!
# Allocation failures inside `add_node`

A throw after the first operation leaves rows of different lengths behind. No
cell changes and the model keeps its size, but it is not square any more and no
later call can repair that, so the failure becomes visible as soon as the
remaining cells are written.
-/

namespace TspSolver

namespace Model

/-! ## Models that answer alike -/

/-- Same size, same cells, and both square or both not. -/
structure Alike (left right : Model) : Prop where
  size_eq : left.size = right.size
  entry_eq : ∀ source target, left.entry source target = right.entry source target
  square_eq : left.isSquare = right.isSquare

namespace Alike

variable {left right : Model}

theorem isComplete_eq (alike : left.Alike right) : left.isComplete = right.isComplete := by
  simp only [isComplete, alike.size_eq, alike.entry_eq, alike.square_eq]

theorem validate_eq (alike : left.Alike right) : left.validate = right.validate := by
  simp only [validate, alike.isComplete_eq]

theorem solve_eq (alike : left.Alike right) (options : Options) :
    left.solve options = right.solve options := by
  have problems : left.toProblem = right.toProblem := by
    simp only [toProblem, alike.size_eq, alike.entry_eq]
  have starts (seed : UInt64) : left.seedStartNode seed = right.seedStartNode seed := by
    simp only [seedStartNode, alike.size_eq]
  simp only [solve, alike.isComplete_eq, problems, starts]

end Alike

theorem isSquare_withNode_iff (model : Model) :
    model.withNode.isSquare = true ↔ model.isSquare = true := by
  simp only [isSquare_iff, size_withNode]
  constructor
  · intro square row rowLt
    have grown := square row (by omega)
    rw [rowLength_withNode (by omega), if_pos rowLt] at grown
    omega
  · intro square row rowLt
    rw [rowLength_withNode rowLt]
    split
    · next old => rw [square row old]
    · rfl

theorem Alike.withNode {left right : Model} (alike : left.Alike right) :
    left.withNode.Alike right.withNode where
  size_eq := by simp [alike.size_eq]
  entry_eq source target := by
    simp only [entry_withNode, alike.size_eq, alike.entry_eq]
  square_eq := by
    apply Bool.eq_iff_iff.mpr
    rw [isSquare_withNode_iff, isSquare_withNode_iff, alike.square_eq]

theorem Alike.withDistance {left right : Model} (alike : left.Alike right)
    (leftFormed : left.WellFormed) (rightFormed : right.WellFormed) {source target : ℕ}
    (distance : Cost) (sourceLt : source < left.size) (targetLt : target < left.size) :
    (left.withDistance source target distance).Alike
      (right.withDistance source target distance) where
  size_eq := by simp [alike.size_eq]
  entry_eq row column := by
    have sizes := alike.size_eq
    have leftRow := targetLt.trans_le (leftFormed.wide source sourceLt)
    have rightRow : target < right.rowLength source := by
      have wide := rightFormed.wide source (by omega)
      omega
    rw [entry_withDistance distance sourceLt leftRow,
      entry_withDistance distance (by omega) rightRow, alike.entry_eq]
  square_eq := by
    apply Bool.eq_iff_iff.mpr
    rw [isSquare_withDistance_iff, isSquare_withDistance_iff, alike.square_eq]

/-- One call is answered alike and leaves the models alike. -/
theorem Alike.step {left right : Model} (alike : left.Alike right)
    (leftFormed : left.WellFormed) (rightFormed : right.WellFormed) {call : Call}
    (succeeds : call.AllocationsSucceed) :
    left.respond call = right.respond call ∧ (left.apply call).Alike (right.apply call) := by
  have sizes := alike.size_eq
  cases call with
  | addNode failure =>
      have noFailure : failure = none := succeeds
      subst noFailure
      rcases left.addNode_cases none with
        ⟨leftFull, leftAnswer⟩ | ⟨_, _, _, impossible, _⟩ | ⟨leftFits, _, leftAnswer⟩
      · rcases right.addNode_cases none with
          ⟨_, rightAnswer⟩ | ⟨rightFits, _⟩ | ⟨rightFits, _⟩
        · simp only [respond, apply, leftAnswer, rightAnswer]
          exact ⟨trivial, alike⟩
        · omega
        · omega
      · simp at impossible
      · rcases right.addNode_cases none with
          ⟨rightFull, _⟩ | ⟨_, _, _, impossible, _⟩ | ⟨_, _, rightAnswer⟩
        · omega
        · simp at impossible
        · simp only [respond, apply, leftAnswer, rightAnswer, sizes]
          exact ⟨trivial, alike.withNode⟩
  | setDistance source target distance =>
      rcases left.setDistance_cases source target distance with
        ⟨leftOut, leftAnswer⟩ | ⟨⟨sourceLt, targetLt⟩, leftAnswer⟩
      · rcases right.setDistance_cases source target distance with
          ⟨_, rightAnswer⟩ | ⟨rightIn, _⟩
        · simp only [respond, apply, leftAnswer, rightAnswer]
          exact ⟨trivial, alike⟩
        · omega
      · rcases right.setDistance_cases source target distance with
          ⟨rightOut, _⟩ | ⟨_, rightAnswer⟩
        · omega
        · simp only [respond, apply, leftAnswer, rightAnswer]
          exact ⟨trivial, alike.withDistance leftFormed rightFormed distance sourceLt targetLt⟩

/-- Alike models cannot be told apart by any later run. -/
theorem Alike.run {left right : Model} (alike : left.Alike right)
    (leftFormed : left.WellFormed) (rightFormed : right.WellFormed) (calls : List Call)
    (succeed : ∀ call ∈ calls, call.AllocationsSucceed) :
    left.history calls = right.history calls ∧ (left.run calls).Alike (right.run calls) := by
  induction calls generalizing left right with
  | nil => exact ⟨rfl, alike⟩
  | cons call rest ih =>
      rcases alike.step leftFormed rightFormed (succeed call (by simp)) with ⟨answers, next⟩
      rcases ih next (leftFormed.apply call) (rightFormed.apply call)
        (fun other otherMem => succeed other (by simp [otherMem])) with ⟨histories, final⟩
      exact ⟨by simp only [history, answers, histories], final⟩

/-! ## Atomicity -/

/--
No later run tells the two models apart: every run of calls that all succeed on
the first model is answered the same by the second, and ends in models that
validate and solve alike.
-/
def Indistinguishable (left right : Model) : Prop :=
  ∀ calls : List Call, (∀ call ∈ calls, call.AllocationsSucceed) →
    (∀ event ∈ left.history calls, event.2.code = .ok) →
    left.history calls = right.history calls ∧
      (left.run calls).validate = (right.run calls).validate ∧
      ∀ options, (left.run calls).solve options = (right.run calls).solve options

theorem Alike.indistinguishable {left right : Model} (alike : left.Alike right)
    (leftFormed : left.WellFormed) (rightFormed : right.WellFormed) :
    left.Indistinguishable right := by
  intro calls succeed _
  rcases alike.run leftFormed rightFormed calls succeed with ⟨histories, final⟩
  exact ⟨histories, final.validate_eq, final.solve_eq⟩

/-- A throw at operation `failing` keeps squareness only when no row was grown before it. -/
theorem isSquare_afterThrow_iff {model : Model} (wellFormed : model.WellFormed)
    (failing : ℕ) :
    (model.afterThrow failing).isSquare = true ↔
      model.isSquare = true ∧ (failing = 0 ∨ model.size = 0) := by
  simp only [isSquare_iff, size_afterThrow]
  constructor
  · intro square
    have untouched : failing = 0 ∨ model.size = 0 := by
      by_contra grown
      have first := square 0 (by omega)
      have wide := wellFormed.wide 0 (by omega)
      rw [rowLength_afterThrow, if_pos (by omega)] at first
      omega
    refine ⟨?_, untouched⟩
    intro row rowLt
    have same := square row rowLt
    rwa [rowLength_afterThrow, if_neg (by omega)] at same
  · rintro ⟨square, untouched⟩ row rowLt
    rw [rowLength_afterThrow, if_neg (by omega)]
    exact square row rowLt

theorem addNode_throws {model : Model} (fits : model.size ≤ 2 ^ 32 - 1) {failing : ℕ}
    (inside : failing ≤ model.size + 1) :
    model.addNode (some failing) = (.allocationFailed, model.afterThrow failing, none) := by
  rcases model.addNode_cases (some failing) with
    ⟨full, _⟩ | ⟨_, other, _, same, answer⟩ | ⟨_, never, _⟩
  · omega
  · cases same
    exact answer
  · exact absurd rfl (never failing inside)

/--
An `add_node` whose operation `failing` throws is atomic exactly when that is its
first operation, when there is no row to grow, or when an earlier failure has
already left a row longer than the number of nodes.
-/
theorem addNode_atomic_iff {model : Model} (reachable : model.Reachable)
    (fits : model.size ≤ 2 ^ 32 - 1) {failing : ℕ} (inside : failing ≤ model.size + 1) :
    ((model.addNode (some failing)).1 = .allocationFailed ∧
      model.Indistinguishable (model.addNode (some failing)).2.1) ↔
      (failing = 0 ∨ model.size = 0 ∨ model.isSquare = false) := by
  have wellFormed := reachable.wellFormed
  have thrownFormed := wellFormed.afterThrow failing
  have squares := isSquare_afterThrow_iff wellFormed failing
  rw [addNode_throws fits inside]
  constructor
  · rintro ⟨_, same⟩
    by_contra grown
    have square : model.isSquare = true := by
      rcases Bool.eq_false_or_eq_true model.isSquare with square | notSquare
      · exact square
      · exact absurd (Or.inr (Or.inr notSquare)) grown
    -- Writing every pair makes the old model valid and leaves the new one invalid.
    rcases same (writeMatrix (fun _ _ => 0) model.size)
      (fun _ callMem => writeMatrix_succeed callMem)
      (run_writes _ wellFormed (fun _ callMem => writeMatrix_mem.mp callMem)).1 with
      ⟨_, validates, _⟩
    have before := (@validate_run_writeMatrix (fun _ _ => 0) _ wellFormed).mpr square
    have after := @validate_run_writeMatrix (fun _ _ => 0) _ thrownFormed
    rw [size_afterThrow, ← validates, squares] at after
    rcases (after.mp before).2 with first | noRows
    · exact grown (Or.inl first)
    · exact grown (Or.inr (Or.inl noRows))
  · intro untouched
    refine ⟨rfl, ?_⟩
    have alike : model.Alike (model.afterThrow failing) :=
      { size_eq := by simp
        entry_eq := by simp
        square_eq := by
          apply Bool.eq_iff_iff.mpr
          rw [squares]
          constructor
          · intro square
            refine ⟨square, ?_⟩
            rcases untouched with first | noRows | notSquare
            · exact Or.inl first
            · exact Or.inr noRows
            · simp [square] at notSquare
          · exact fun both => both.1 }
    exact alike.indistinguishable wellFormed thrownFormed

/-- With two nodes, a throw at the second row is not atomic. -/
theorem addNode_atomic_iff_two :
    ¬((((({} : Model).run [.addNode none, .addNode none]).addNode (some 1)).1 =
        .allocationFailed) ∧
      (({} : Model).run [.addNode none, .addNode none]).Indistinguishable
        ((({} : Model).run [.addNode none, .addNode none]).addNode (some 1)).2.1) := by
  rw [addNode_atomic_iff ⟨_, rfl⟩ (by decide) (by decide)]
  decide

/--
A complete model of two nodes that validates before the call and is rejected
after it: the throw at the second row left the first one longer.
-/
theorem addNode_not_atomic :
    let model := ({} : Model).run [.addNode none, .addNode none, .setDistance 0 1 5,
      .setDistance 1 0 7]
    (model.addNode (some 1)).1 = .allocationFailed ∧ model.validate = .ok ∧
      (model.addNode (some 1)).2.1.validate = .invalidModel := by
  decide

end Model

end TspSolver
