import TspSolver.Store.Entries
import TspSolver.Loop.Fold

/-!
# The model store as a map of last writes

What the store is for: it remembers how many nodes were added and, for every
ordered pair of distinct nodes, the last distance written to it. `LastWrites` is
that abstract state, read off the calls of a history and their answers; the
matrix refines it after every history without allocation failures. A weaker
invariant survives allocation failures as well.
-/

namespace TspSolver

/-- The abstract store: a node count and the last distance written to each pair. -/
structure LastWrites where
  nodes : ℕ := 0
  distance : ℕ → ℕ → Option Cost := fun _ _ => none

namespace LastWrites

/-- A successful call is recorded; a failing one is not. -/
def observe (writes : LastWrites) : Call × Response → LastWrites
  | (.addNode _, response) =>
      if response.code = .ok then { writes with nodes := writes.nodes + 1 } else writes
  | (.setDistance source target distance, response) =>
      if response.code = .ok then
        { writes with distance := fun row column =>
            if row = source ∧ column = target then some distance
            else writes.distance row column }
      else writes

/-- The last writes of a history. -/
def ofHistory (events : List (Call × Response)) : LastWrites := events.foldl observe {}

end LastWrites

/-- The ids that the successful `add_node` calls of a history returned, oldest first. -/
def addedIds : List (Call × Response) → List (Option ℕ)
  | [] => []
  | (.addNode _, response) :: rest =>
      if response.code = .ok then response.nodeId :: addedIds rest else addedIds rest
  | (.setDistance _ _ _, _) :: rest => addedIds rest

namespace Model

@[simp]
theorem run_nil (model : Model) : model.run [] = model := rfl

@[simp]
theorem run_cons (model : Model) (call : Call) (rest : List Call) :
    model.run (call :: rest) = (model.apply call).run rest := rfl

theorem run_append (model : Model) (front back : List Call) :
    model.run (front ++ back) = (model.run front).run back :=
  List.foldl_append

theorem Reachable.run {model : Model} (reachable : model.Reachable) (calls : List Call) :
    (model.run calls).Reachable := by
  rcases reachable with ⟨past, rfl⟩
  exact ⟨past ++ calls, run_append _ past calls⟩

theorem entry_eq_none {model : Model} {source : ℕ} (outside : model.size ≤ source)
    (target : ℕ) : model.entry source target = none := by
  simp only [entry, List.getD_eq_default _ _ outside]
  rfl

/-- What a call can do to the cells, stated once for all invariants. -/
theorem apply_cases (model : Model) (call : Call) :
    ((model.respond call).code ≠ .ok ∧ (model.respond call).code ≠ .allocationFailed ∧
      model.apply call = model) ∨
    (∃ failing ≤ model.size + 1, call = .addNode (some failing) ∧
      (model.respond call).code = .allocationFailed ∧
      model.apply call = model.afterThrow failing) ∨
    (∃ failure, call = .addNode failure ∧ model.size ≤ 2 ^ 32 - 1 ∧
      model.respond call = { code := .ok, nodeId := some model.size } ∧
      model.apply call = model.withNode) ∨
    (∃ source target distance, call = .setDistance source target distance ∧
      source < model.size ∧ target < model.size ∧ (model.respond call).code = .ok ∧
      model.apply call = model.withDistance source target distance) := by
  cases call with
  | addNode failure =>
      rcases model.addNode_cases failure with
        ⟨_, rejected⟩ | ⟨_, failing, inside, rfl, thrown⟩ | ⟨fits, _, added⟩
      · left
        simp [respond, apply, rejected]
      · right; left
        exact ⟨failing, inside, rfl, by simp [respond, thrown], by simp [apply, thrown]⟩
      · right; right; left
        exact ⟨failure, rfl, fits, by simp [respond, added], by simp [apply, added]⟩
  | setDistance source target distance =>
      rcases model.setDistance_cases source target distance with
        ⟨_, rejected⟩ | ⟨⟨sourceLt, targetLt⟩, written⟩
      · left
        simp [respond, apply, rejected]
      · right; right; right
        exact ⟨source, target, distance, rfl, sourceLt, targetLt, by simp [respond, written],
          by simp [apply, written]⟩

/-! ## The invariant of every history -/

/-- What holds of every reachable model, also after allocation failures. -/
structure WellFormed (model : Model) : Prop where
  size_le : model.size ≤ 2 ^ 32
  wide : ∀ row < model.size, model.size ≤ model.rowLength row
  diagonal : ∀ node < model.size, model.entry node node = some 0

theorem wellFormed_empty : ({} : Model).WellFormed where
  size_le := by simp [size]
  wide := by simp [size]
  diagonal := by simp [size]

theorem WellFormed.afterThrow {model : Model} (wellFormed : model.WellFormed) (failing : ℕ) :
    (model.afterThrow failing).WellFormed where
  size_le := by simpa using wellFormed.size_le
  wide row rowLt := by
    simp only [size_afterThrow] at rowLt ⊢
    have wide := wellFormed.wide row rowLt
    rw [rowLength_afterThrow]
    split <;> omega
  diagonal node nodeLt := by
    simp only [size_afterThrow] at nodeLt
    simpa using wellFormed.diagonal node nodeLt

theorem WellFormed.withNode {model : Model} (wellFormed : model.WellFormed)
    (fits : model.size ≤ 2 ^ 32 - 1) : model.withNode.WellFormed where
  size_le := by
    rw [size_withNode]
    omega
  wide row rowLt := by
    simp only [size_withNode] at rowLt ⊢
    rw [rowLength_withNode rowLt]
    split
    · next old =>
        have wide := wellFormed.wide row old
        omega
    · exact le_rfl
  diagonal node nodeLt := by
    simp only [size_withNode] at nodeLt
    rw [entry_withNode]
    split
    · rfl
    · exact wellFormed.diagonal node (by omega)

theorem WellFormed.withDistance {model : Model} (wellFormed : model.WellFormed)
    {source target : ℕ} (distance : Cost) (sourceLt : source < model.size)
    (targetLt : target < model.size) :
    (model.withDistance source target distance).WellFormed where
  size_le := by simpa using wellFormed.size_le
  wide row rowLt := by
    simp only [size_withDistance] at rowLt
    simpa using wellFormed.wide row rowLt
  diagonal node nodeLt := by
    simp only [size_withDistance] at nodeLt
    have inRow := targetLt.trans_le (wellFormed.wide source sourceLt)
    rw [entry_withDistance distance sourceLt inRow]
    split
    · next hit => simp [← hit.1, ← hit.2]
    · exact wellFormed.diagonal node nodeLt

theorem WellFormed.apply {model : Model} (wellFormed : model.WellFormed) (call : Call) :
    (model.apply call).WellFormed := by
  rcases model.apply_cases call with
    ⟨_, _, unchanged⟩ | ⟨failing, _, _, _, thrown⟩ | ⟨_, _, fits, _, added⟩ |
    ⟨_, _, distance, _, sourceLt, targetLt, _, written⟩
  · rwa [unchanged]
  · rw [thrown]
    exact wellFormed.afterThrow failing
  · rw [added]
    exact wellFormed.withNode fits
  · rw [written]
    exact wellFormed.withDistance distance sourceLt targetLt

theorem WellFormed.run {model : Model} (wellFormed : model.WellFormed) (calls : List Call) :
    (model.run calls).WellFormed :=
  Loop.foldl_induction WellFormed wellFormed
    (fun _ call _ invariant => invariant.apply call)

theorem Reachable.wellFormed {model : Model} (reachable : model.Reachable) :
    model.WellFormed := by
  rcases reachable with ⟨calls, rfl⟩
  exact wellFormed_empty.run calls

/-! ## Refinement -/

/-- The matrix is square, zero on the diagonal, and holds the last write of every pair. -/
structure Refines (model : Model) (writes : LastWrites) : Prop where
  size_eq : model.size = writes.nodes
  square : model.isSquare = true
  wellFormed : model.WellFormed
  cells : ∀ source target, source ≠ target →
    model.entry source target = writes.distance source target

theorem refines_empty : ({} : Model).Refines {} where
  size_eq := rfl
  square := rfl
  wellFormed := wellFormed_empty
  cells _ target _ := entry_eq_none (Nat.zero_le _) target

theorem Refines.withNode {model : Model} {writes : LastWrites} (refines : model.Refines writes)
    (fits : model.size ≤ 2 ^ 32 - 1) :
    model.withNode.Refines { writes with nodes := writes.nodes + 1 } where
  size_eq := by simp [refines.size_eq]
  square := by
    rw [isSquare_iff]
    intro row rowLt
    simp only [size_withNode] at rowLt ⊢
    have old := (isSquare_iff model).mp refines.square row
    rw [rowLength_withNode rowLt]
    split
    · next rowOld => rw [old rowOld]
    · rfl
  wellFormed := refines.wellFormed.withNode fits
  cells source target distinct := by
    rw [entry_withNode, ← refines.cells source target distinct]
    split
    · next fresh =>
        rw [if_neg (by omega), entry_eq_none (by omega)]
    · rfl

theorem Refines.withDistance {model : Model} {writes : LastWrites}
    (refines : model.Refines writes) {source target : ℕ} (distance : Cost)
    (sourceLt : source < model.size) (targetLt : target < model.size) :
    (model.withDistance source target distance).Refines
      { writes with distance := fun row column =>
          if row = source ∧ column = target then some distance
          else writes.distance row column } where
  size_eq := by simp [refines.size_eq]
  square := by
    rw [isSquare_iff]
    intro row rowLt
    simp only [size_withDistance, rowLength_withDistance] at rowLt ⊢
    exact (isSquare_iff model).mp refines.square row rowLt
  wellFormed := refines.wellFormed.withDistance distance sourceLt targetLt
  cells row column distinct := by
    have inRow := targetLt.trans_le (refines.wellFormed.wide source sourceLt)
    rw [entry_withDistance distance sourceLt inRow]
    split
    · next hit =>
        have offDiagonal : source ≠ target := by
          rintro rfl
          exact distinct (hit.1.trans hit.2.symm)
        simp [hit.1, hit.2, offDiagonal]
    · next missed => simp [missed, refines.cells row column distinct]

/-- One call without an allocation failure moves both stores alike. -/
theorem Refines.apply {model : Model} {writes : LastWrites} (refines : model.Refines writes)
    {call : Call} (succeeds : call.AllocationsSucceed) :
    (model.apply call).Refines (writes.observe (call, model.respond call)) := by
  rcases model.apply_cases call with
    ⟨failed, _, unchanged⟩ | ⟨failing, _, rfl, _, _⟩ | ⟨_, rfl, fits, answer, added⟩ |
    ⟨_, _, distance, rfl, sourceLt, targetLt, answer, written⟩
  · rw [unchanged]
    cases call <;> simpa [LastWrites.observe, failed] using refines
  · simp [Call.AllocationsSucceed] at succeeds
  · rw [added]
    simpa [LastWrites.observe, answer] using refines.withNode fits
  · rw [written]
    simpa [LastWrites.observe, answer] using refines.withDistance distance sourceLt targetLt

theorem Refines.run {model : Model} {writes : LastWrites} (refines : model.Refines writes)
    (calls : List Call) (succeed : ∀ call ∈ calls, call.AllocationsSucceed) :
    (model.run calls).Refines ((model.history calls).foldl LastWrites.observe writes) := by
  induction calls generalizing model writes with
  | nil => exact refines
  | cons call rest ih =>
      exact ih (refines.apply (succeed call (by simp)))
        (fun other otherMem => succeed other (by simp [otherMem]))

theorem refines_ofHistory (calls : List Call)
    (succeed : ∀ call ∈ calls, call.AllocationsSucceed) :
    (({} : Model).run calls).Refines (LastWrites.ofHistory (({} : Model).history calls)) :=
  refines_empty.run calls succeed

/-- The ids returned along a history count on from the nodes already there. -/
theorem addedIds_history (model : Model) (calls : List Call) :
    addedIds (model.history calls) =
      (List.range' model.size ((model.run calls).size - model.size)).map some ∧
      model.size ≤ (model.run calls).size := by
  induction calls generalizing model with
  | nil => simp [history, addedIds]
  | cons call rest ih =>
      rcases ih (model.apply call) with ⟨ids, grows⟩
      rw [run_cons]
      rcases model.apply_cases call with
        ⟨failed, _, unchanged⟩ | ⟨failing, _, rfl, answer, thrown⟩ |
        ⟨_, rfl, _, answer, added⟩ | ⟨_, _, _, rfl, _, _, _, written⟩
      · have skipped : addedIds (model.history (call :: rest)) =
            addedIds ((model.apply call).history rest) := by
          cases call <;> simp [history, addedIds, failed]
        rw [skipped, unchanged]
        rw [unchanged] at ids grows
        exact ⟨ids, grows⟩
      · have skipped : addedIds (model.history (.addNode (some failing) :: rest)) =
            addedIds ((model.apply (.addNode (some failing))).history rest) := by
          simp [history, addedIds, answer]
        rw [skipped, ids, thrown, size_afterThrow]
        rw [thrown, size_afterThrow] at grows
        exact ⟨rfl, grows⟩
      · rw [added, size_withNode] at ids grows
        rw [added]
        refine ⟨?_, by omega⟩
        have split : (model.withNode.run rest).size - model.size =
            ((model.withNode.run rest).size - (model.size + 1)) + 1 := by omega
        simp only [history, addedIds, answer, if_true, added, ids, split, List.range'_succ,
          List.map_cons]
      · have skipped (source target : ℕ) (distance : Cost) :
            addedIds (model.history (.setDistance source target distance :: rest)) =
            addedIds ((model.apply (.setDistance source target distance)).history rest) := rfl
        rw [skipped, ids, written, size_withDistance]
        rw [written, size_withDistance] at grows
        exact ⟨rfl, grows⟩

private theorem rows_eq_of_entries {left right : Model} {row : ℕ}
    (lengths : left.rowLength row = right.rowLength row)
    (cells : ∀ target < left.rowLength row, left.entry row target = right.entry row target) :
    left.distances.getD row [] = right.distances.getD row [] := by
  apply List.ext_getElem lengths
  intro target leftLt rightLt
  have same := cells target leftLt
  simp only [entry, List.getD_eq_getElem _ _ leftLt, List.getD_eq_getElem _ _ rightLt] at same
  exact same

/-- Square models with the same size and the same cells are equal. -/
theorem eq_of_entries {left right : Model} (leftSquare : left.isSquare = true)
    (rightSquare : right.isSquare = true) (sizes : left.size = right.size)
    (cells : ∀ source < left.size, ∀ target < left.size,
      left.entry source target = right.entry source target) : left = right := by
  rw [isSquare_iff] at leftSquare rightSquare
  have rows : left.distances = right.distances := by
    apply List.ext_getElem sizes
    intro row leftLt rightLt
    have leftLength := leftSquare row leftLt
    have rightLength := rightSquare row rightLt
    have same := rows_eq_of_entries (leftLength.trans (sizes.trans rightLength.symm))
      (fun target targetLt => cells row leftLt target (by omega))
    rwa [List.getD_eq_getElem _ _ leftLt, List.getD_eq_getElem _ _ rightLt] at same
  cases left
  cases right
  exact congrArg _ rows

theorem Refines.isComplete_iff {model : Model} {writes : LastWrites}
    (refines : model.Refines writes) :
    model.isComplete = true ↔ ∀ source < writes.nodes, ∀ target < writes.nodes,
      source ≠ target → (writes.distance source target).isSome := by
  rw [Model.isComplete_iff, refines.size_eq]
  constructor
  · rintro ⟨_, defined⟩ source sourceLt target targetLt distinct
    rw [← refines.cells source target distinct]
    exact defined source sourceLt target targetLt
  · intro written
    refine ⟨refines.square, ?_⟩
    intro source sourceLt target targetLt
    by_cases distinct : source = target
    · subst distinct
      rw [refines.wellFormed.diagonal source (by rwa [refines.size_eq])]
      rfl
    · rw [refines.cells source target distinct]
      exact written source sourceLt target targetLt distinct

/-- Stores with the same node count and the same last writes are the same matrix. -/
theorem Refines.eq {left right : Model} {leftWrites rightWrites : LastWrites}
    (leftRefines : left.Refines leftWrites) (rightRefines : right.Refines rightWrites)
    (nodes : leftWrites.nodes = rightWrites.nodes)
    (writes : ∀ source < leftWrites.nodes, ∀ target < leftWrites.nodes, source ≠ target →
      leftWrites.distance source target = rightWrites.distance source target) :
    left = right := by
  have sizes : left.size = right.size := by
    rw [leftRefines.size_eq, rightRefines.size_eq, nodes]
  apply eq_of_entries leftRefines.square rightRefines.square sizes
  intro source sourceLt target targetLt
  by_cases distinct : source = target
  · subst distinct
    rw [leftRefines.wellFormed.diagonal source sourceLt,
      rightRefines.wellFormed.diagonal source (sizes ▸ sourceLt)]
  · rw [leftRefines.cells source target distinct, rightRefines.cells source target distinct]
    rw [leftRefines.size_eq] at sourceLt targetLt
    exact writes source sourceLt target targetLt distinct

theorem validate_eq_ok_iff (model : Model) : model.validate = .ok ↔ model.isComplete = true := by
  cases complete : model.isComplete <;> simp [validate, complete]

/--
After any history without allocation failures the matrix is the map of last
writes: ids count up from 0, the diagonal is 0, every other cell holds the last
distance written to it, a rejected call changes nothing, and what `validate` and
`solve` answer depends on the last writes alone.
-/
theorem run_refines_lastWrites (calls : List Call)
    (succeed : ∀ call ∈ calls, call.AllocationsSucceed) :
    let model := ({} : Model).run calls
    let writes := LastWrites.ofHistory (({} : Model).history calls)
    addedIds (({} : Model).history calls) = (List.range writes.nodes).map some ∧
      (model.distances.length = writes.nodes ∧
        ∀ row ∈ model.distances, row.length = writes.nodes) ∧
      (∀ node < writes.nodes, model.entry node node = some 0) ∧
      (∀ source < writes.nodes, ∀ target < writes.nodes, source ≠ target →
        model.entry source target = writes.distance source target) ∧
      (∀ call : Call, call.AllocationsSucceed → (model.respond call).code ≠ .ok →
        model.apply call = model) ∧
      (model.validate = .ok ↔ ∀ source < writes.nodes, ∀ target < writes.nodes,
        source ≠ target → (writes.distance source target).isSome) ∧
      ∀ others : List Call, (∀ call ∈ others, call.AllocationsSucceed) →
        let otherWrites := LastWrites.ofHistory (({} : Model).history others)
        writes.nodes = otherWrites.nodes →
        (∀ source < writes.nodes, ∀ target < writes.nodes, source ≠ target →
          writes.distance source target = otherWrites.distance source target) →
        ∀ options, model.solve options = (({} : Model).run others).solve options := by
  intro model writes
  have refines : model.Refines writes := refines_ofHistory calls succeed
  refine ⟨?_, ⟨refines.size_eq, ?_⟩, ?_, ?_, ?_, ?_, ?_⟩
  · have ids := (addedIds_history {} calls).1
    have nodes : (({} : Model).run calls).size = writes.nodes := refines.size_eq
    rwa [nodes, show ({} : Model).size = 0 from rfl, Nat.sub_zero,
      ← List.range_eq_range'] at ids
  · have square := refines.square
    simp only [isSquare, List.all_eq_true, beq_iff_eq, refines.size_eq] at square
    exact square
  · intro node nodeLt
    exact refines.wellFormed.diagonal node (by rwa [refines.size_eq])
  · intro source _ target _ distinct
    exact refines.cells source target distinct
  · intro call succeeds failed
    rcases model.apply_cases call with
      ⟨_, _, unchanged⟩ | ⟨_, _, rfl, _, _⟩ | ⟨_, _, _, answer, _⟩ |
      ⟨_, _, _, _, _, _, answer, _⟩
    · exact unchanged
    · simp [Call.AllocationsSucceed] at succeeds
    · simp [answer] at failed
    · exact absurd answer failed
  · rw [validate_eq_ok_iff]
    exact refines.isComplete_iff
  · intro others othersSucceed otherWrites nodes same options
    have otherRefines := refines_ofHistory others othersSucceed
    rw [refines.eq otherRefines nodes same]

/-- A history that interleaves growth, an overwrite, a diagonal write and a rejected id. -/
theorem run_refines_lastWrites_interleaved :
    (({} : Model).run [.addNode none, .setDistance 0 1 7, .addNode none, .setDistance 0 1 8,
      .setDistance 1 1 3, .setDistance 0 1 9]).entry 0 1 = some 9 := by
  have refines := (run_refines_lastWrites [.addNode none, .setDistance 0 1 7, .addNode none,
    .setDistance 0 1 8, .setDistance 1 1 3, .setDistance 0 1 9] (by decide)).2.2.2.1
  exact refines 0 (by decide) 1 (by decide) (by decide)

end Model

end TspSolver
