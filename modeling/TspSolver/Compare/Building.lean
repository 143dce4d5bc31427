import TspSolver.Compare.Parsing
import TspSolver.Effect.Ensures
import TspSolver.Handles.Ownership
import TspSolver.Loop.Checked
import TspSolver.Store.Writes

/-!
# Building the model of a matrix

Whatever fails on the way, the calls that build a model are defined, and a model
that is not handed over has been released. If no allocation fails and the nodes
have ids, the model that is handed over is the one of the matrix.
-/

namespace TspSolver.Compare

open Handles Effect Effect.Program

/-- The number for a pair of nodes. -/
def Matrix.cost (matrix : Matrix) (source target : ℕ) : Cost :=
  (matrix.values.getD source []).getD target 0

/-- The model that a matrix describes. -/
def Matrix.model (matrix : Matrix) : Model := Model.ofMatrix matrix.cost matrix.size

variable {allocator : Allocator NativeObject} {faults : Faults} {world : World} {model : Address}
  {object : Model}

/-! ## Single calls -/

section Calls

variable {Value Other : Type} {next : Value → Action Other} {value : Value} {memory : Memory}
  {post : Except String Other → World → Prop}

theorem ensures_call_bind {operation : Memory → Option (Value × Memory)}
    (ran : operation world.memory = some (value, memory))
    (goesOn : (next value).Ensures { world with memory := memory } post) :
    (call operation >>= next).Ensures world post := by
  apply ensures_native_bind _ goesOn
  simp [ran]

theorem ensures_element_bind {entries : List Value} {index : ℕ}
    (found : entries[index]? = some value) (goesOn : (next value).Ensures world post) :
    (element entries index >>= next).Ensures world post := by
  apply ensures_native_bind _ goesOn
  simp [found]

/-- A creating call leaves the memory alone, or the object belongs to the program from then on. -/
theorem ensures_create_bind {next : ErrorCode × Ptr Address → Action Other}
    {operation : Memory → Option ((ErrorCode × Ptr Address) × Memory)} {object : NativeObject}
    {fails : Bool} {owned : List (Address × NativeObject)} (owns : Owns world.memory owned)
    (creates : operation world.memory =
      Memory.create allocator object fails (some 0) world.memory)
    (failed : fails = true → (next (.allocationFailed, some 0)).Ensures world post)
    (made : fails = false → ∀ place later, later.stdout = world.stdout →
      Owns later.memory ((place, object) :: owned) →
        (next (.ok, some place)).Ensures later post) :
    (call operation >>= next).Ensures world post := by
  cases fails with
  | true => exact ensures_call_bind creates (failed rfl)
  | false =>
      apply ensures_call_bind creates
      exact made rfl _ _ rfl (owns.push allocator object)

end Calls

/-- How a run ends that raises: with its message, nothing printed and nothing left behind. -/
structure Abandoned (world : World) (message error : String) (final : World) : Prop where
  error_eq : error = message
  quiet : final.stdout = world.stdout
  owns : Owns final.memory []

/-- The program's only object is released and the error is raised. -/
theorem abandon_ensures {Value : Type} (owns : Owns world.memory [(model, .model object)])
    (message : String) (ends : Value → World → Prop) :
    (abandon model message : Action Value).Ensures world
      (Either ends (Abandoned world message)) := by
  rcases owns.release 0 rfl with ⟨released, releases, kept⟩
  have found := owns.read_eq 0 rfl
  apply ensures_call_bind (Memory.delete_of_read NativeType.model found releases)
  apply ensures_throw
  exact ⟨rfl, rfl, kept⟩

/-! ## Nodes -/

/-- No allocation fails while so many nodes are added. -/
def Faults.SparesNodes (faults : Faults) (size : ℕ) : Prop :=
  ∀ index < size, ∀ failing ≤ index + 1, faults.addNode index ≠ some failing

instance (faults : Faults) (size : ℕ) : Decidable (faults.SparesNodes size) :=
  inferInstanceAs (Decidable (∀ index < size, ∀ failing ≤ index + 1,
    faults.addNode index ≠ some failing))

/-- All nodes get their ids and no allocation fails. -/
def Faults.NodesFit (faults : Faults) (size : ℕ) : Prop :=
  size ≤ 2 ^ 32 ∧ faults.SparesNodes size

instance (faults : Faults) (size : ℕ) : Decidable (faults.NodesFit size) :=
  inferInstanceAs (Decidable (size ≤ 2 ^ 32 ∧ faults.SparesNodes size))

theorem Faults.NodesFit.succ {index : ℕ} (fit : faults.NodesFit index) (room : index < 2 ^ 32)
    (spared : ∀ failing ≤ index + 1, faults.addNode index ≠ some failing) :
    faults.NodesFit (index + 1) := by
  refine ⟨room, ?_⟩
  intro other otherLt
  rcases Nat.lt_succ_iff_lt_or_eq.mp otherLt with earlier | rfl
  · exact fit.2 other earlier
  · exact spared

/-- The model of so many nodes without distances. -/
def nodesModel (size : ℕ) : Model := ({} : Model).run (List.replicate size (.addNode none))

theorem nodesModel_succ {size : ℕ} (room : size < 2 ^ 32) :
    (nodesModel size).size = size ∧ nodesModel (size + 1) = (nodesModel size).withNode := by
  have sizeEq : (nodesModel size).size = size := Model.run_addNodes room.le
  refine ⟨sizeEq, ?_⟩
  rw [nodesModel, List.replicate_succ', Model.run_append]
  rcases (nodesModel size).addNode_cases none with
    ⟨full, _⟩ | ⟨_, _, _, impossible, _⟩ | ⟨_, _, added⟩
  · omega
  · cases impossible
  · rw [Model.run_cons, Model.run_nil, Model.apply]
    exact congrArg (fun answer => answer.2.1) added

theorem front_of_prefix_range {front : List ℕ} {index size : ℕ}
    (part : front ++ [index] <+: List.range size) : front = List.range index ∧ index < size := by
  have lengthLe := part.length_le
  simp only [List.length_append, List.length_singleton, List.length_range] at lengthLe
  have taken := List.prefix_iff_eq_take.mp part
  rw [List.take_range, List.length_append, List.length_singleton, min_eq_left lengthLe,
    List.range_succ] at taken
  rcases List.append_inj' taken rfl with ⟨frontEq, last⟩
  simp only [List.cons.injEq, and_true] at last
  refine ⟨?_, by omega⟩
  rw [frontEq, last]

/-- So many nodes have been added. -/
structure NodesAdded (faults : Faults) (model : Address) (world : World) (count : ℕ)
    (nodeIds : List ℕ) (final : World) : Prop where
  nodeIds_eq : nodeIds = List.range count
  fit : faults.NodesFit count
  quiet : final.stdout = world.stdout
  owns : Owns final.memory [(model, .model (nodesModel count))]

/-- Adding nodes ends as it should, or the nodes do not fit. -/
abbrev AddsNodes (faults : Faults) (model : Address) (world : World) (size count : ℕ) :
    Except String (List ℕ) → World → Prop :=
  Either (NodesAdded faults model world count) fun error final =>
    ¬faults.NodesFit size ∧ Abandoned world "failed to add node" error final

theorem addNextNode_ensures {size index : ℕ} {nodeIds : List ℕ} {middle : World}
    (added : NodesAdded faults model world index nodeIds middle) (indexLt : index < size) :
    (addNextNode faults model nodeIds index).Ensures middle
      (AddsNodes faults model world size (index + 1)) := by
  have found := added.owns.read_eq 0 rfl
  rcases added.owns.write 0 rfl (.model ((nodesModel index).addNode (faults.addNode index)).2.1)
    with ⟨written, writes, held⟩
  apply ensures_call_bind (Memory.addNode_of_read found writes)
  have sizeEq : (nodesModel index).size = index := Model.run_addNodes added.fit.1
  -- A failed call leaves a model that has to be released.
  have fails (failed : ((nodesModel index).addNode (faults.addNode index)).1 ≠ .ok)
      (unfit : ¬faults.NodesFit size) :
      (if ((nodesModel index).addNode (faults.addNode index)).1 ≠ .ok then
          abandon model "failed to add node"
        else pure (nodeIds ++ [(some (((nodesModel index).addNode
          (faults.addNode index)).2.2.getD 0)).getD 0]) : Action (List ℕ)).Ensures
        { middle with memory := written } (AddsNodes faults model world size (index + 1)) := by
    rw [if_pos failed]
    apply (abandon_ensures held "failed to add node" fun _ _ => False).mono
    rintro (error | value) final holds
    · exact ⟨unfit, holds.error_eq, holds.quiet.trans added.quiet, holds.owns⟩
    · exact holds.elim
  rcases (nodesModel index).addNode_cases (faults.addNode index) with
    ⟨full, answer⟩ | ⟨_, failing, failingLe, struck, answer⟩ | ⟨room, spared, answer⟩
  · apply fails (by simp [answer])
    intro fit
    have bound := fit.1
    omega
  · apply fails (by simp [answer])
    intro fit
    exact fit.2 index indexLt failing (by omega) struck
  · have roomLt : index < 2 ^ 32 := by omega
    rw [answer] at held ⊢
    apply ensures_pure
    refine ⟨?_, added.fit.succ roomLt ?_, added.quiet, ?_⟩
    · simp [added.nodeIds_eq, sizeEq, List.range_succ]
    · rwa [sizeEq] at spared
    · rw [(nodesModel_succ roomLt).2]
      exact held

theorem addNodes_ensures (size : ℕ) (owns : Owns world.memory [(model, .model {})]) :
    (addNodes faults model size).Ensures world (AddsNodes faults model world size size) := by
  have start : NodesAdded faults model world 0 [] world :=
    ⟨rfl, ⟨Nat.zero_le _, fun _ impossible => absurd impossible (Nat.not_lt_zero _)⟩, rfl, owns⟩
  have loop : (addNodes faults model size).Ensures world
      (AddsNodes faults model world size (List.range size).length) := by
    apply ensures_foldlM fun front => NodesAdded faults model world front.length
    · exact start
    · intro front index part nodeIds middle added
      rcases front_of_prefix_range part with ⟨frontEq, indexLt⟩
      have lengthEq : front.length = index := by simp [frontEq]
      rw [List.length_append, List.length_singleton, lengthEq]
      rw [lengthEq] at added
      exact addNextNode_ensures added indexLt
  rwa [List.length_range] at loop

/-! ## Distances -/

variable {matrix : Matrix}

/-- The calls made so far are exactly these. -/
structure DistancesSet (matrix : Matrix) (model : Address) (world : World) (calls : List Call)
    (final : World) : Prop where
  size_eq : ((nodesModel matrix.size).run calls).size = matrix.size
  quiet : final.stdout = world.stdout
  owns : Owns final.memory [(model, .model ((nodesModel matrix.size).run calls))]

/-- Setting distances inside the matrix never fails. -/
abbrev SetsDistances (matrix : Matrix) (model : Address) (world : World) (calls : List Call) :
    Except String Unit → World → Prop :=
  Either (fun _ final => DistancesSet matrix model world calls final) fun _ _ => False

theorem setNextDistance_ensures (wellFormed : matrix.WellFormed) {row column : ℕ}
    (rowLt : row < matrix.size) (columnLt : column < matrix.size) {calls : List Call}
    {middle : World} (set : DistancesSet matrix model world calls middle) :
    (setNextDistance matrix model (List.range matrix.size) row column).Ensures middle
      (SetsDistances matrix model world
        (calls ++ [.setDistance row column (matrix.cost row column)])) := by
  have rowInside : row < matrix.values.length := wellFormed.length_eq ▸ rowLt
  have columnInside : column < (matrix.values.getD row []).length := by
    rw [List.getD_eq_getElem _ _ rowInside, wellFormed.rows _ (List.getElem_mem rowInside)]
    exact columnLt
  apply ensures_element_bind (List.getElem?_range rowLt)
  apply ensures_element_bind (List.getElem?_range columnLt)
  apply ensures_element_bind (Loop.read_of_lt rowInside [])
  apply ensures_element_bind (Loop.read_of_lt columnInside 0)
  have found := set.owns.read_eq 0 rfl
  rcases set.owns.write 0 rfl (.model (((nodesModel matrix.size).run calls).setDistance row column
    (matrix.cost row column)).2) with ⟨written, writes, held⟩
  apply ensures_call_bind (Memory.setDistance_of_read found writes)
  rcases ((nodesModel matrix.size).run calls).setDistance_cases row column
    (matrix.cost row column) with ⟨outside, _⟩ | ⟨_, answer⟩
  · rw [set.size_eq] at outside
    exact absurd ⟨rowLt, columnLt⟩ outside
  · have next : (nodesModel matrix.size).run
        (calls ++ [.setDistance row column (matrix.cost row column)]) =
        ((nodesModel matrix.size).run calls).withDistance row column (matrix.cost row column) := by
      rw [Model.run_append, Model.run_cons, Model.run_nil, Model.apply, answer]
    rw [answer] at held ⊢
    apply ensures_pure
    refine ⟨?_, set.quiet, ?_⟩
    · rw [next, Model.size_withDistance, set.size_eq]
    · rw [next]
      exact held

theorem setRow_ensures (wellFormed : matrix.WellFormed) {row : ℕ} (rowLt : row < matrix.size)
    {calls : List Call} {middle : World} (set : DistancesSet matrix model world calls middle) :
    ((List.range matrix.size).foldlM
      (fun _ column => setNextDistance matrix model (List.range matrix.size) row column)
      ()).Ensures middle (SetsDistances matrix model world
        (calls ++ (List.range matrix.size).map fun column =>
          .setDistance row column (matrix.cost row column))) := by
  apply ensures_foldlM fun front _ => DistancesSet matrix model world
    (calls ++ front.map fun column => Call.setDistance row column (matrix.cost row column))
  · simpa using set
  · intro front column part _ later reached
    rcases front_of_prefix_range part with ⟨-, columnLt⟩
    have next := setNextDistance_ensures wellFormed rowLt columnLt reached
    simpa using next

theorem setDistances_ensures (wellFormed : matrix.WellFormed)
    (set : DistancesSet matrix model world [] world) :
    (setDistances matrix model (List.range matrix.size)).Ensures world
      (SetsDistances matrix model world (Model.writeMatrix matrix.cost matrix.size)) := by
  apply ensures_foldlM fun front _ => DistancesSet matrix model world
    (front.flatMap fun row => (List.range matrix.size).map fun column =>
      Call.setDistance row column (matrix.cost row column))
  · exact set
  · intro front row part _ middle reached
    rcases front_of_prefix_range part with ⟨-, rowLt⟩
    have next := setRow_ensures wellFormed rowLt reached
    simpa using next

/-! ## The whole construction -/

/-- Why no model of the matrix can be built. -/
def Faults.buildError (faults : Faults) (matrix : Matrix) : Option String :=
  if faults.modelCreate then some "failed to create model"
  else if faults.NodesFit matrix.size then none
  else some "failed to add node"

theorem Faults.buildError_eq_none_iff :
    faults.buildError matrix = none ↔
      faults.modelCreate = false ∧ faults.NodesFit matrix.size := by
  rw [buildError]
  split
  · next fails => simp [fails]
  · next succeeds =>
      split
      · next fit => simp [succeeds, fit]
      · next unfit => simp [unfit]

/-- Either the model of the matrix is handed over, or nothing is left of it. -/
theorem buildModel_ensures (wellFormed : matrix.WellFormed) (owns : Owns world.memory []) :
    (buildModel allocator faults matrix).Ensures world (Either
      (fun built final => faults.buildError matrix = none ∧ final.stdout = world.stdout ∧
        Owns final.memory [(built.1, .model matrix.model)])
      fun error final => ∃ message, faults.buildError matrix = some message ∧
        Abandoned world message error final) := by
  apply ensures_create_bind owns rfl
  · intro created
    apply ensures_throw
    exact ⟨_, if_pos created, rfl, rfl, owns⟩
  · intro created handle start quietStart fresh
    apply (addNodes_ensures matrix.size fresh).bind
    · rintro nodeIds middle ⟨rfl, fit, quiet, held⟩
      have unset : DistancesSet matrix handle middle [] middle :=
        ⟨Model.run_addNodes fit.1, rfl, held⟩
      apply (setDistances_ensures wellFormed unset).bind
      · rintro - last ⟨-, quietLast, heldLast⟩
        have complete : matrix.model.validate = .ok :=
          (Model.validate_eq_ok_iff _).mpr (Model.isComplete_ofMatrix fit.1)
        have found := heldLast.read_eq 0 rfl
        apply ensures_call_bind (Memory.validate_of_read found)
        have validated : ((nodesModel matrix.size).run
            (Model.writeMatrix matrix.cost matrix.size)).validate = .ok := complete
        rw [validated]
        apply ensures_pure
        refine ⟨?_, quietLast.trans (quiet.trans quietStart), heldLast⟩
        simp [Faults.buildError, created, fit]
      · rintro _ _ ⟨⟩
    · rintro error middle ⟨unfit, abandoned⟩
      refine ⟨_, ?_, abandoned.error_eq, abandoned.quiet.trans quietStart, abandoned.owns⟩
      simp [Faults.buildError, created, unfit]

end TspSolver.Compare
