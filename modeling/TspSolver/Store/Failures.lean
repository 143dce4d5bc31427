import TspSolver.Store.Allocation

/-!
# Histories with allocation failures

Beside every history stands the one that keeps only its successful calls. Both
end in the same nodes and the same cells and answer every later call alike, so a
failed `add_node` shows in the lengths of the rows alone. Those it either leaves
as they were, and the two models are equal, or it tears, and then no later call
makes the model valid again.
-/

namespace TspSolver

namespace Model

/-! ## Two models of one size -/

/-- `add_node` decides by the size alone whether it rejects, throws or succeeds. -/
theorem addNode_cases_of_sizes {left right : Model} (sizes : left.size = right.size)
    (failure : Option ℕ) :
    (left.addNode failure = (.outOfRange, left, none) ∧
      right.addNode failure = (.outOfRange, right, none)) ∨
    (∃ failing, left.addNode failure = (.allocationFailed, left.afterThrow failing, none) ∧
      right.addNode failure = (.allocationFailed, right.afterThrow failing, none)) ∨
    (left.size ≤ 2 ^ 32 - 1 ∧ left.addNode failure = (.ok, left.withNode, some left.size) ∧
      right.addNode failure = (.ok, right.withNode, some right.size)) := by
  rcases left.addNode_cases failure with
    ⟨full, rejected⟩ | ⟨fits, failing, inside, rfl, thrown⟩ | ⟨fits, passes, added⟩
  · rcases right.addNode_cases failure with
      ⟨_, otherRejected⟩ | ⟨otherFits, _⟩ | ⟨otherFits, _⟩
    · exact Or.inl ⟨rejected, otherRejected⟩
    · omega
    · omega
  · right; left
    exact ⟨failing, thrown, addNode_throws (by omega) (by omega)⟩
  · rcases right.addNode_cases failure with
      ⟨otherFull, _⟩ | ⟨_, failing, inside, failureEq, _⟩ | ⟨_, _, otherAdded⟩
    · omega
    · exact absurd failureEq (passes failing (by omega))
    · right; right
      exact ⟨fits, added, otherAdded⟩

/-- Same nodes and same cells; the lengths of the rows may differ. -/
structure SameCells (left right : Model) : Prop where
  leftFormed : left.WellFormed
  rightFormed : right.WellFormed
  size_eq : left.size = right.size
  entry_eq : ∀ source target, left.entry source target = right.entry source target

namespace SameCells

variable {left right : Model}

theorem refl {model : Model} (wellFormed : model.WellFormed) : model.SameCells model :=
  ⟨wellFormed, wellFormed, rfl, fun _ _ => rfl⟩

theorem afterThrow (same : left.SameCells right) (failing : ℕ) :
    (left.afterThrow failing).SameCells right where
  leftFormed := same.leftFormed.afterThrow failing
  rightFormed := same.rightFormed
  size_eq := by simpa using same.size_eq
  entry_eq := by simpa using same.entry_eq

theorem symm (same : left.SameCells right) : right.SameCells left :=
  ⟨same.rightFormed, same.leftFormed, same.size_eq.symm,
    fun source target => (same.entry_eq source target).symm⟩

theorem withNode (same : left.SameCells right) (fits : left.size ≤ 2 ^ 32 - 1) :
    left.withNode.SameCells right.withNode where
  leftFormed := same.leftFormed.withNode fits
  rightFormed := same.rightFormed.withNode (same.size_eq ▸ fits)
  size_eq := by simp [same.size_eq]
  entry_eq source target := by
    simp only [entry_withNode, same.size_eq, same.entry_eq]

theorem withDistance (same : left.SameCells right) {source target : ℕ} (distance : Cost)
    (sourceLt : source < left.size) (targetLt : target < left.size) :
    (left.withDistance source target distance).SameCells
      (right.withDistance source target distance) where
  leftFormed := same.leftFormed.withDistance distance sourceLt targetLt
  rightFormed :=
    same.rightFormed.withDistance distance (same.size_eq ▸ sourceLt) (same.size_eq ▸ targetLt)
  size_eq := by simp [same.size_eq]
  entry_eq row column := by
    have otherSourceLt : source < right.size := same.size_eq ▸ sourceLt
    have otherTargetLt : target < right.size := same.size_eq ▸ targetLt
    have leftInside := targetLt.trans_le (same.leftFormed.wide source sourceLt)
    have rightInside := otherTargetLt.trans_le (same.rightFormed.wide source otherSourceLt)
    rw [entry_withDistance distance sourceLt leftInside,
      entry_withDistance distance otherSourceLt rightInside, same.entry_eq]

/-- Any call, also one that throws, is answered alike and keeps the cells alike. -/
theorem step (same : left.SameCells right) (call : Call) :
    left.respond call = right.respond call ∧ (left.apply call).SameCells (right.apply call) := by
  cases call with
  | addNode failure =>
      rcases addNode_cases_of_sizes same.size_eq failure with
        ⟨answer, otherAnswer⟩ | ⟨failing, answer, otherAnswer⟩ | ⟨fits, answer, otherAnswer⟩ <;>
        simp only [respond, apply, answer, otherAnswer]
      · exact ⟨trivial, same⟩
      · exact ⟨trivial, ((same.afterThrow failing).symm.afterThrow failing).symm⟩
      · exact ⟨by rw [same.size_eq], same.withNode fits⟩
  | setDistance source target distance =>
      rcases left.setDistance_cases source target distance with
        ⟨outside, answer⟩ | ⟨⟨sourceLt, targetLt⟩, answer⟩
      · rcases right.setDistance_cases source target distance with
          ⟨_, otherAnswer⟩ | ⟨inside, _⟩
        · simp only [respond, apply, answer, otherAnswer]
          exact ⟨trivial, same⟩
        · exact absurd (same.size_eq ▸ inside) outside
      · rcases right.setDistance_cases source target distance with
          ⟨outside, _⟩ | ⟨_, otherAnswer⟩
        · exact absurd (same.size_eq ▸ ⟨sourceLt, targetLt⟩) outside
        · simp only [respond, apply, answer, otherAnswer]
          exact ⟨trivial, same.withDistance distance sourceLt targetLt⟩

theorem history_eq (same : left.SameCells right) (calls : List Call) :
    left.history calls = right.history calls := by
  induction calls generalizing left right with
  | nil => rfl
  | cons call rest ih =>
      rcases same.step call with ⟨answers, next⟩
      simp only [history, answers, ih next]

end SameCells

/-! ## The successful calls of a history -/

/-- The calls that were answered with success, in their order. -/
def survivors (model : Model) (calls : List Call) : List Call :=
  ((model.history calls).filter fun event => event.2.code = .ok).map Prod.fst

theorem survivors_cons (model : Model) (call : Call) (rest : List Call) :
    model.survivors (call :: rest) =
      if (model.respond call).code = .ok then call :: (model.apply call).survivors rest
      else (model.apply call).survivors rest := by
  by_cases succeeds : (model.respond call).code = .ok <;> simp [survivors, history, succeeds]

/-- A call that fails changes no cell. -/
theorem SameCells.apply_of_failed {left right : Model} (same : left.SameCells right) {call : Call}
    (failed : (left.respond call).code ≠ .ok) : (left.apply call).SameCells right := by
  rcases left.apply_cases call with
    ⟨_, _, unchanged⟩ | ⟨failing, _, _, _, thrown⟩ | ⟨_, _, _, answer, _⟩ |
    ⟨_, _, _, _, _, _, answer, _⟩
  · rwa [unchanged]
  · rw [thrown]
    exact same.afterThrow failing
  · simp [answer] at failed
  · exact absurd answer failed

/-- Dropping the failed calls changes no cell of the outcome. -/
theorem SameCells.run_survivors {left right : Model} (same : left.SameCells right)
    (calls : List Call) : (left.run calls).SameCells (right.run (left.survivors calls)) := by
  induction calls generalizing left right with
  | nil => exact same
  | cons call rest ih =>
      rw [run_cons, survivors_cons]
      by_cases succeeds : (left.respond call).code = .ok
      · rw [if_pos succeeds, run_cons]
        exact ih (same.step call).2
      · rw [if_neg succeeds]
        exact ih (same.apply_of_failed succeeds)

/-! ## Torn models -/

/-- A call that throws after it has grown a row. -/
def Tears (model : Model) (call : Call) : Prop :=
  ∃ failing, call = .addNode (some failing) ∧
    (model.respond call).code = .allocationFailed ∧ failing ≠ 0 ∧ model.size ≠ 0

/-- Some call of the history throws after it has grown a row. -/
def Torn (model : Model) (calls : List Call) : Prop :=
  ∃ before call after, calls = before ++ call :: after ∧ (model.run before).Tears call

theorem torn_cons (model : Model) (call : Call) (rest : List Call) :
    model.Torn (call :: rest) ↔ model.Tears call ∨ (model.apply call).Torn rest := by
  constructor
  · rintro ⟨before, torn, after, split, tears⟩
    cases before with
    | nil =>
        cases split
        exact Or.inl tears
    | cons head before =>
        cases split
        exact Or.inr ⟨before, torn, after, rfl, tears⟩
  · rintro (tears | ⟨before, torn, after, rfl, tears⟩)
    · exact ⟨[], call, rest, rfl, tears⟩
    · exact ⟨call :: before, torn, after, rfl, tears⟩

theorem isSquare_apply_iff {model : Model} (wellFormed : model.WellFormed) (call : Call) :
    (model.apply call).isSquare = true ↔ model.isSquare = true ∧ ¬model.Tears call := by
  have calm (answered : (model.respond call).code ≠ .allocationFailed) : ¬model.Tears call := by
    rintro ⟨_, _, thrown, _⟩
    exact answered thrown
  rcases model.apply_cases call with
    ⟨_, answered, unchanged⟩ | ⟨failing, _, rfl, answer, thrown⟩ | ⟨_, _, _, answer, added⟩ |
    ⟨_, _, _, _, _, _, answer, written⟩
  · simp [unchanged, calm answered]
  · have tears : model.Tears (.addNode (some failing)) ↔ failing ≠ 0 ∧ model.size ≠ 0 := by
      constructor
      · rintro ⟨_, ⟨⟩, _, grown⟩
        exact grown
      · intro grown
        exact ⟨failing, rfl, answer, grown⟩
    rw [thrown, isSquare_afterThrow_iff wellFormed, tears]
    simp only [not_and_or, ne_eq, not_not]
  · rw [added, isSquare_withNode_iff]
    simp [calm (by simp [answer])]
  · rw [written, isSquare_withDistance_iff]
    simp [calm (by simp [answer])]

/-- Nothing but a tearing call takes squareness away, and nothing gives it back. -/
theorem isSquare_run_iff {model : Model} (wellFormed : model.WellFormed) (calls : List Call) :
    (model.run calls).isSquare = true ↔ model.isSquare = true ∧ ¬model.Torn calls := by
  induction calls generalizing model with
  | nil => simp [Torn]
  | cons call rest ih =>
      rw [run_cons, ih (wellFormed.apply call), isSquare_apply_iff wellFormed, torn_cons]
      tauto

theorem survivors_untorn {model : Model} (calls : List Call) (other : Model)
    (same : model.SameCells other) : ¬other.Torn (model.survivors calls) := by
  induction calls generalizing model other with
  | nil => simp [Torn, survivors, history]
  | cons call rest ih =>
      rw [survivors_cons]
      by_cases succeeds : (model.respond call).code = .ok
      · rw [if_pos succeeds, torn_cons]
        rintro (⟨_, _, thrown, _⟩ | torn)
        · rw [← (same.step call).1, succeeds] at thrown
          cases thrown
        · exact ih _ (same.step call).2 torn
      · rw [if_neg succeeds]
        exact ih _ (same.apply_of_failed succeeds)

theorem SameCells.eq {left right : Model} (same : left.SameCells right)
    (leftSquare : left.isSquare = true) (rightSquare : right.isSquare = true) : left = right :=
  eq_of_entries leftSquare rightSquare same.size_eq
    fun source _ target _ => same.entry_eq source target

theorem rejected_of_not_square {model : Model} (torn : ¬model.isSquare = true)
    (options : Options) :
    model.validate = .invalidModel ∧ model.solve options = (.invalidModel, none) := by
  have incomplete : model.isComplete = false := by
    apply Bool.eq_false_iff.mpr
    intro complete
    exact torn ((isComplete_iff model).mp complete).1
  simp [validate, solve, incomplete]

theorem isSquare_empty : ({} : Model).isSquare = true := rfl

/--
Any history, with throws wherever they may strike, ends in the cells that its
successful calls alone write and is answered from then on as they would be. If
no throw came after a row was grown, it is the same model. If one did, no run of
later calls ever makes `validate` or `solve` accept it.
-/
theorem run_erases_or_tears (calls : List Call) :
    let model := ({} : Model).run calls
    let clean := ({} : Model).run (({} : Model).survivors calls)
    (model.size = clean.size ∧
      ∀ source target, model.entry source target = clean.entry source target) ∧
      (∀ later, model.history later = clean.history later) ∧
      (¬({} : Model).Torn calls → model = clean) ∧
      (({} : Model).Torn calls → ∀ later options,
        (model.run later).validate = .invalidModel ∧
          (model.run later).solve options = (.invalidModel, none)) := by
  intro model clean
  have same : model.SameCells clean := (SameCells.refl wellFormed_empty).run_survivors calls
  have cleanSquare : clean.isSquare = true :=
    (isSquare_run_iff wellFormed_empty _).mpr
      ⟨isSquare_empty, survivors_untorn calls _ (.refl wellFormed_empty)⟩
  refine ⟨⟨same.size_eq, same.entry_eq⟩, same.history_eq, ?_, ?_⟩
  · intro untorn
    exact same.eq ((isSquare_run_iff wellFormed_empty calls).mpr ⟨isSquare_empty, untorn⟩)
      cleanSquare
  · intro torn later options
    apply rejected_of_not_square
    rw [isSquare_run_iff same.leftFormed, isSquare_run_iff wellFormed_empty]
    tauto

/-! ## Last writes, failures included -/

/-- What is left of the refinement when a history may be torn. -/
structure Remembers (model : Model) (writes : LastWrites) : Prop where
  wellFormed : model.WellFormed
  size_eq : model.size = writes.nodes
  cells : ∀ source target, source ≠ target →
    model.entry source target = writes.distance source target

theorem remembers_empty : ({} : Model).Remembers {} :=
  ⟨wellFormed_empty, rfl, refines_empty.cells⟩

theorem Remembers.apply {model : Model} {writes : LastWrites} (remembers : model.Remembers writes)
    (call : Call) : (model.apply call).Remembers (writes.observe (call, model.respond call)) := by
  rcases model.apply_cases call with
    ⟨failed, _, unchanged⟩ | ⟨failing, _, rfl, answer, thrown⟩ | ⟨_, rfl, fits, answer, added⟩ |
    ⟨source, target, distance, rfl, sourceLt, targetLt, answer, written⟩
  · rw [unchanged]
    cases call <;> simpa [LastWrites.observe, failed] using remembers
  · rw [thrown]
    simp only [LastWrites.observe, answer, reduceCtorEq, if_false]
    exact ⟨remembers.wellFormed.afterThrow failing, by simpa using remembers.size_eq,
      by simpa using remembers.cells⟩
  · rw [added]
    simp only [LastWrites.observe, answer, if_true]
    refine ⟨remembers.wellFormed.withNode fits, by simp [remembers.size_eq], ?_⟩
    intro row column distinct
    rw [entry_withNode, ← remembers.cells row column distinct]
    split
    · next fresh => rw [if_neg (by omega), entry_eq_none (by omega)]
    · rfl
  · rw [written]
    simp only [LastWrites.observe, answer, if_true]
    refine ⟨remembers.wellFormed.withDistance distance sourceLt targetLt,
      by simp [remembers.size_eq], ?_⟩
    intro row column distinct
    have inRow := targetLt.trans_le (remembers.wellFormed.wide source sourceLt)
    rw [entry_withDistance distance sourceLt inRow, remembers.cells row column distinct]
    dsimp only
    by_cases hit : row = source ∧ column = target
    · rw [if_pos hit, if_pos hit, if_neg (by rw [← hit.1, ← hit.2]; exact distinct)]
    · rw [if_neg hit, if_neg hit]

theorem Remembers.run {model : Model} {writes : LastWrites} (remembers : model.Remembers writes)
    (calls : List Call) :
    (model.run calls).Remembers ((model.history calls).foldl LastWrites.observe writes) := by
  induction calls generalizing model writes with
  | nil => exact remembers
  | cons call rest ih => exact ih (remembers.apply call)

/--
After any history, failures included, `validate` accepts the model exactly when no
throw has torn it and every ordered pair of distinct nodes has been written.
-/
theorem run_validate_iff (calls : List Call) :
    let writes := LastWrites.ofHistory (({} : Model).history calls)
    (({} : Model).run calls).validate = .ok ↔ ¬({} : Model).Torn calls ∧
      ∀ source < writes.nodes, ∀ target < writes.nodes, source ≠ target →
        (writes.distance source target).isSome := by
  intro writes
  have remembers : (({} : Model).run calls).Remembers writes := remembers_empty.run calls
  rw [validate_eq_ok_iff, isComplete_iff, isSquare_run_iff wellFormed_empty, remembers.size_eq]
  simp only [isSquare_empty, true_and]
  apply and_congr_right
  intro _
  constructor
  · intro filled source sourceLt target targetLt distinct
    rw [← remembers.cells source target distinct]
    exact filled source sourceLt target targetLt
  · intro written source sourceLt target targetLt
    by_cases distinct : source = target
    · subst distinct
      rw [remembers.wellFormed.diagonal source (remembers.size_eq ▸ sourceLt)]
      rfl
    · rw [remembers.cells source target distinct]
      exact written source sourceLt target targetLt distinct

/-- A model torn at its second row: both pairs are written afterwards and it stays invalid. -/
example : (({} : Model).run [.addNode none, .addNode none, .addNode (some 1), .setDistance 0 1 5,
    .setDistance 1 0 7]).validate = .invalidModel := by
  decide

end Model

end TspSolver
