import TspSolver.Checked.HeldKarp
import TspSolver.Store.LastWrites

/-!
# The library never leaves its vectors

The store reads and writes inside its rows because every row has at least as
many cells as there are nodes, also after an allocation failure has torn the
model. `solve` passes a square matrix on. So a whole session, checked access by
access, does what the plain one does.
-/

namespace TspSolver

namespace Checked

open Loop

/-! ## The store -/

theorem entry_eq {model : Model} {source target : ℕ} (sourceLt : source < model.size)
    (targetLt : target < model.rowLength source) :
    entry model source target = some (model.entry source target) := by
  rw [entry, read_of_lt sourceLt []]
  exact read_of_lt targetLt none

theorem entry_eq_of_square {model : Model} (square : model.isSquare = true) {source target : ℕ}
    (sourceLt : source < model.size) (targetLt : target < model.size) :
    entry model source target = some (model.entry source target) :=
  entry_eq sourceLt (((Model.isSquare_iff model).mp square source sourceLt).symm ▸ targetLt)

theorem isComplete_eq (model : Model) : isComplete model = some model.isComplete := by
  unfold isComplete Model.isComplete
  cases square : model.isSquare with
  | false => rfl
  | true =>
      simp only [Bool.not_true, Bool.false_eq_true, if_false, Bool.true_and]
      apply allM_eq_some
      intro source sourceMem
      apply allM_eq_some
      intro target targetMem
      rw [entry_eq_of_square square (List.mem_range.mp sourceMem) (List.mem_range.mp targetMem)]
      rfl

theorem toProblem_eq {model : Model} (square : model.isSquare = true) :
    toProblem model = some model.toProblem := by
  have rows : (List.range model.size).mapM (fun source =>
      (List.range model.size).mapM fun target => do
        let cell ← entry model source target
        some (cell.getD 0)) = some model.toProblem.distances := by
    apply mapM_eq_some
    intro source sourceMem
    apply mapM_eq_some
    intro target targetMem
    rw [entry_eq_of_square square (List.mem_range.mp sourceMem) (List.mem_range.mp targetMem)]
    rfl
  rw [toProblem, rows]
  rfl

theorem writeCell_eq {rows : List (List (Option Cost))} {source target : ℕ}
    (sourceLt : source < rows.length) (targetLt : target < (rows.getD source []).length)
    (value : Option Cost) :
    writeCell rows source target value =
      some (rows.set source ((rows.getD source []).set target value)) := by
  rw [writeCell, read_of_lt sourceLt []]
  simp only [Option.bind_eq_bind, Option.bind_some, write_of_lt targetLt]
  exact write_of_lt sourceLt _

theorem length_pushBackRows (failure : Option ℕ) (row : ℕ) (rows : List (List (Option Cost))) :
    (Model.pushBackRows failure row rows).1.length = rows.length := by
  induction rows generalizing row with
  | nil => rfl
  | cons head rest ih =>
      unfold Model.pushBackRows
      split
      · rfl
      · simp [ih]

theorem addNode_eq (failure : Option ℕ) (model : Model) :
    addNode failure model = some (model.addNode failure) := by
  unfold addNode Model.addNode
  split
  · rfl
  · dsimp only
    split
    · rfl
    · have lengthEq := length_pushBackRows failure 0 model.distances
      generalize (Model.pushBackRows failure 0 model.distances).1 = rows at lengthEq ⊢
      have sizeEq : model.size = rows.length := lengthEq.symm
      rw [sizeEq, writeCell_eq (by simp) (by simp)]
      simp

theorem setDistance_eq {model : Model} (wellFormed : model.WellFormed) (source target : ℕ)
    (distance : Cost) :
    setDistance model source target distance = some (model.setDistance source target distance) := by
  unfold setDistance Model.setDistance
  split
  · rfl
  · have sourceLt : source < model.distances.length := by
      have sizeEq : model.distances.length = model.size := rfl
      omega
    have targetLt : target < (model.distances.getD source []).length :=
      lt_of_lt_of_le (by omega) (wellFormed.wide source sourceLt)
    rw [writeCell_eq sourceLt targetLt]
    simp [List.modify_eq_set, sourceLt]

theorem validate_eq (model : Model) : validate model = some model.validate := by
  rw [validate, isComplete_eq]
  rfl

/-! ## Solving -/

theorem dispatch_eq (problem : Problem) (startNode : ℕ) (randomSeed : UInt64)
    (algorithm : Algorithm) :
    dispatch problem startNode randomSeed algorithm =
      some (Model.dispatch problem startNode randomSeed algorithm) := by
  cases algorithm with
  | default | unlisted => rfl
  | localSearch2Opt =>
      rw [dispatch, twoOptLocalSearchSolve_eq]
      rfl
  | greedyNearestNeighbor =>
      rw [dispatch, nearestNeighborTour_eq]
      rfl
  | greedyCheapestInsertion =>
      rw [dispatch, cheapestInsertionTour_eq]
      rfl
  | heldKarp =>
      rw [dispatch, heldKarpTour_eq]
      rfl
  | metaheuristicIteratedLocalSearch =>
      rw [dispatch, iteratedLocalSearchTour_eq_some]
      rfl

theorem solve_eq (model : Model) (options : Options) :
    solve model options = some (model.solve options) := by
  rw [solve, Model.solve, isComplete_eq]
  simp only [Option.bind_eq_bind, Option.bind_some]
  cases complete : model.isComplete with
  | false => rfl
  | true =>
      have square := ((Model.isComplete_iff model).mp complete).1
      simp only [Bool.not_true, Bool.false_eq_true, if_false]
      split
      · rfl
      · split
        · rfl
        · rw [toProblem_eq square]
          simp only [Option.bind_some, dispatch_eq]
          generalize Model.dispatch model.toProblem _ _ _ = outcome
          split <;> rfl

/-! ## Sessions -/

theorem step_eq {model : Model} (wellFormed : model.WellFormed) (call : Call) :
    step model call = some (model.respond call, model.apply call) := by
  cases call with
  | addNode failure =>
      rw [step, addNode_eq]
      rfl
  | setDistance source target distance =>
      rw [step, setDistance_eq wellFormed]
      rfl

theorem run_eq {model : Model} (wellFormed : model.WellFormed) (calls : List Call) :
    run model calls = some (model.history calls, model.run calls) := by
  induction calls generalizing model with
  | nil => rfl
  | cons call rest ih =>
      rw [run, step_eq wellFormed]
      simp only [Option.bind_eq_bind, Option.bind_some, ih (wellFormed.apply call)]
      rfl

/--
No history of calls, with allocations failing wherever they may, and no
validation or solve of the model it leads to accesses a vector outside its
bounds or shifts by too much, whatever the distances, the options and the seed;
the checked library answers throughout like the plain one.
-/
theorem library_inBounds (calls : List Call) :
    ∃ model, run {} calls = some (({} : Model).history calls, model) ∧
      model = ({} : Model).run calls ∧ validate model = some model.validate ∧
      ∀ options, solve model options = some (model.solve options) :=
  ⟨({} : Model).run calls, run_eq Model.wellFormed_empty calls, rfl, validate_eq _, solve_eq _⟩

end Checked

end TspSolver
