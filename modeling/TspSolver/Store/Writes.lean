import TspSolver.Store.LastWrites

/-!
# Writing whole matrices

A run of writes inside the matrix succeeds throughout and leaves every written
cell with its value. So each zero-diagonal matrix of up to 2^32 nodes is the
outcome of a history: add the nodes, then write all pairs.
-/

namespace TspSolver

namespace Model

theorem isSquare_withDistance_iff (model : Model) (source target : ℕ) (distance : Cost) :
    (model.withDistance source target distance).isSquare = true ↔ model.isSquare = true := by
  simp only [isSquare_iff, size_withDistance, rowLength_withDistance]

/-- The calls that write all pairs of a model of the given size. -/
def writeMatrix (value : ℕ → ℕ → Cost) (size : ℕ) : List Call :=
  (List.range size).flatMap fun source =>
    (List.range size).map fun target => .setDistance source target (value source target)

variable {value : ℕ → ℕ → Cost}

theorem writeMatrix_mem {size : ℕ} {call : Call} :
    call ∈ writeMatrix value size ↔ ∃ source < size, ∃ target < size,
      .setDistance source target (value source target) = call := by
  simp [writeMatrix]

theorem writeMatrix_succeed {size : ℕ} {call : Call} (callMem : call ∈ writeMatrix value size) :
    call.AllocationsSucceed := by
  rcases writeMatrix_mem.mp callMem with ⟨_, _, _, _, rfl⟩
  trivial

/-- Writes inside the matrix all succeed; they change their own cells and no others. -/
theorem run_writes (calls : List Call) {model : Model} (wellFormed : model.WellFormed)
    (writes : ∀ call ∈ calls, ∃ source < model.size, ∃ target < model.size,
      .setDistance source target (value source target) = call) :
    (∀ event ∈ model.history calls, event.2.code = .ok) ∧
      (model.run calls).size = model.size ∧
      ((model.run calls).isSquare = true ↔ model.isSquare = true) ∧
      ∀ source target, (model.run calls).entry source target =
        if .setDistance source target (value source target) ∈ calls then
          some (if source = target then 0 else value source target)
        else model.entry source target := by
  induction calls generalizing model with
  | nil => simp [history]
  | cons call rest ih =>
      rcases writes call (by simp) with ⟨source, sourceLt, target, targetLt, rfl⟩
      rcases model.setDistance_cases source target (value source target) with
        ⟨outside, _⟩ | ⟨_, answer⟩
      · exact absurd ⟨sourceLt, targetLt⟩ outside
      have next : model.apply (.setDistance source target (value source target)) =
          model.withDistance source target (value source target) := by
        simp only [apply, answer]
      have formed : (model.withDistance source target (value source target)).WellFormed :=
        wellFormed.withDistance _ sourceLt targetLt
      have inRow := targetLt.trans_le (wellFormed.wide source sourceLt)
      rcases ih formed (by
        simp only [size_withDistance]
        exact fun other otherMem => writes other (by simp [otherMem])) with
        ⟨answers, sizes, squares, cells⟩
      rw [run_cons, next]
      refine ⟨?_, ?_, ?_, ?_⟩
      · intro event eventMem
        rw [history, next] at eventMem
        rcases List.mem_cons.mp eventMem with rfl | later
        · simp only [respond, answer]
        · exact answers event later
      · rw [sizes, size_withDistance]
      · rw [squares, isSquare_withDistance_iff]
      · intro row column
        rw [cells, entry_withDistance _ sourceLt inRow]
        by_cases later : Call.setDistance row column (value row column) ∈ rest
        · rw [if_pos later, if_pos (List.mem_cons_of_mem _ later)]
        · rw [if_neg later]
          by_cases here : row = source ∧ column = target
          · rcases here with ⟨rfl, rfl⟩
            rw [if_pos ⟨rfl, rfl⟩, if_pos List.mem_cons_self]
          · rw [if_neg here, if_neg]
            intro callMem
            rcases List.mem_cons.mp callMem with same | inRest
            · cases same
              exact here ⟨rfl, rfl⟩
            · exact later inRest

/-- After writing all pairs a model validates exactly when it is square. -/
theorem validate_run_writeMatrix {model : Model} (wellFormed : model.WellFormed) :
    (model.run (writeMatrix value model.size)).validate = .ok ↔ model.isSquare = true := by
  rcases run_writes (writeMatrix value model.size) wellFormed
    (fun _ callMem => writeMatrix_mem.mp callMem) with ⟨_, sizes, squares, cells⟩
  rw [validate_eq_ok_iff, isComplete_iff, squares, sizes]
  refine ⟨fun complete => complete.1, fun square => ⟨square, ?_⟩⟩
  intro source sourceLt target targetLt
  rw [cells, if_pos (writeMatrix_mem.mpr ⟨source, sourceLt, target, targetLt, rfl⟩)]
  rfl

/-! ## Histories of given matrices -/

/-- The model after adding the nodes and writing all pairs. -/
def ofMatrix (value : ℕ → ℕ → Cost) (size : ℕ) : Model :=
  (({} : Model).run (List.replicate size (.addNode none))).run (writeMatrix value size)

theorem run_addNodes {count : ℕ} (fits : count ≤ 2 ^ 32) :
    (({} : Model).run (List.replicate count (.addNode none))).size = count := by
  induction count with
  | zero => rfl
  | succ count ih =>
      have sizeEq := ih (by omega)
      rw [List.replicate_succ', run_append]
      rcases (({} : Model).run (List.replicate count (.addNode none))).addNode_cases none with
        ⟨full, _⟩ | ⟨_, _, _, impossible, _⟩ | ⟨_, _, added⟩
      · omega
      · simp at impossible
      · have last : (({} : Model).run (List.replicate count (.addNode none))).run
            [.addNode none] =
            (({} : Model).run (List.replicate count (.addNode none))).withNode := by
          rw [run_cons, run_nil, apply, added]
        rw [last, size_withNode, sizeEq]

theorem ofMatrix_eq_run (value : ℕ → ℕ → Cost) (size : ℕ) :
    ofMatrix value size = ({} : Model).run
      (List.replicate size (.addNode none) ++ writeMatrix value size) :=
  (run_append _ _ _).symm

theorem reachable_ofMatrix (value : ℕ → ℕ → Cost) (size : ℕ) : (ofMatrix value size).Reachable :=
  ⟨_, (ofMatrix_eq_run value size).symm⟩

section Matrix

variable {size : ℕ} (fits : size ≤ 2 ^ 32)

include fits

theorem ofMatrix_spec :
    (ofMatrix value size).size = size ∧ (ofMatrix value size).isComplete = true ∧
      ∀ source < size, ∀ target < size, (ofMatrix value size).entry source target =
        some (if source = target then 0 else value source target) := by
  have added := run_addNodes fits
  have refines := refines_ofHistory (List.replicate size (.addNode none))
    (fun call callMem => by rw [List.eq_of_mem_replicate callMem]; rfl)
  generalize grown : ({} : Model).run (List.replicate size (.addNode none)) = nodes
    at added refines
  rcases run_writes (writeMatrix value nodes.size) refines.wellFormed
    (fun _ callMem => writeMatrix_mem.mp callMem) with ⟨_, sizes, _, cells⟩
  have complete : (nodes.run (writeMatrix value nodes.size)).validate = .ok :=
    (validate_run_writeMatrix refines.wellFormed).mpr refines.square
  rw [added] at sizes cells complete
  rw [ofMatrix, grown]
  refine ⟨sizes, (validate_eq_ok_iff _).mp complete, ?_⟩
  intro source sourceLt target targetLt
  rw [cells, if_pos (writeMatrix_mem.mpr ⟨source, sourceLt, target, targetLt, rfl⟩)]

theorem size_ofMatrix : (ofMatrix value size).size = size := (ofMatrix_spec fits).1

theorem isComplete_ofMatrix : (ofMatrix value size).isComplete = true := (ofMatrix_spec fits).2.1

theorem entry_ofMatrix {source target : ℕ} (sourceLt : source < size) (targetLt : target < size) :
    (ofMatrix value size).entry source target =
      some (if source = target then 0 else value source target) :=
  (ofMatrix_spec fits).2.2 source sourceLt target targetLt

end Matrix

end Model

end TspSolver
