import TspSolver.LocalSearch
import TspSolver.HeldKarp

/-!
# The C interface

Models, options, results and the entry points behind the exported functions.
The bodies come first, as functions on the objects behind the handles; the
exported functions add the null checks. An allocation failure is an argument:
for `add_node` it names the vector operation that throws, for `solve` the
allocation. The body of `solve` stands on its own for the runs in which memory
suffices.
-/

namespace TspSolver

/-- `tsp_solver_error_code_t`. -/
inductive ErrorCode where
  | ok
  | invalidArgument
  | outOfRange
  | allocationFailed
  | invalidModel
  | internalError
deriving DecidableEq, Repr

/-- `tsp_solver_status_t`. -/
inductive Status where
  | notSolved
  | feasible
  | optimal
  | infeasible
  | timeLimit
  | invalidModel
  | internalError
deriving DecidableEq, Repr

/-- The C enumeration; `unlisted` stands for every integer that is none of its values. -/
inductive Algorithm where
  | default
  | localSearch2Opt
  | greedyNearestNeighbor
  | greedyCheapestInsertion
  | heldKarp
  | metaheuristicIteratedLocalSearch
  | unlisted (value : ℕ)
deriving DecidableEq, Repr

/-! The enumerators as the integers that cross the language boundary. -/

/-- The number of an error code. -/
def ErrorCode.value : ErrorCode → ℕ
  | .ok => 0
  | .invalidArgument => 1
  | .outOfRange => 2
  | .allocationFailed => 3
  | .invalidModel => 4
  | .internalError => 5

/-- The number of a status. -/
def Status.value : Status → ℕ
  | .notSolved => 0
  | .feasible => 1
  | .optimal => 2
  | .infeasible => 3
  | .timeLimit => 4
  | .invalidModel => 5
  | .internalError => 6

/-- The number of an algorithm. -/
def Algorithm.value : Algorithm → ℕ
  | .default => 0
  | .localSearch2Opt => 1
  | .greedyNearestNeighbor => 2
  | .greedyCheapestInsertion => 3
  | .heldKarp => 4
  | .metaheuristicIteratedLocalSearch => 5
  | .unlisted value => value

/-- `static_cast<tsp_solver_algorithm_t>` of an integer. -/
def Algorithm.ofValue : ℕ → Algorithm
  | 0 => .default
  | 1 => .localSearch2Opt
  | 2 => .greedyNearestNeighbor
  | 3 => .greedyCheapestInsertion
  | 4 => .heldKarp
  | 5 => .metaheuristicIteratedLocalSearch
  | value => .unlisted value

/-- `tsp_solver_model`: a row for every node; a cell is empty until it is written. -/
structure Model where
  distances : List (List (Option Cost)) := []
deriving DecidableEq, Repr

/-- `tsp_solver_options`. -/
structure Options where
  timeLimitMs : UInt64 := 0xffffffffffffffff
  randomSeed : UInt64 := 0
  algorithm : Algorithm := .default
deriving DecidableEq, Repr

/-- `tsp_solver_result`. -/
structure Result where
  status : Status := .notSolved
  algorithm : Algorithm := .default
  objective : Cost := 0
  tour : List ℕ := []
deriving DecidableEq, Repr

/-- Whether the value is one of the enumeration. -/
def isValidAlgorithm : Algorithm → Bool
  | .unlisted _ => false
  | _ => true

/-- `DEFAULT` stands for the 2-opt local search. -/
def resolveAlgorithm (algorithm : Algorithm) : Algorithm :=
  if algorithm = .default then .localSearch2Opt else algorithm

namespace Model

/-- `distances.size()`. -/
def size (model : Model) : ℕ := model.distances.length

/-- `distances[source][target]`; a read outside the matrix gives an empty cell here. -/
def entry (model : Model) (source target : ℕ) : Option Cost :=
  (model.distances.getD source []).getD target none

/-- Every row has as many cells as there are rows. -/
def isSquare (model : Model) : Bool :=
  model.distances.all fun row => row.length == model.size

/-- The matrix is square and every cell has been written. -/
def isComplete (model : Model) : Bool :=
  model.isSquare &&
    (List.range model.size).all fun source =>
      (List.range model.size).all fun target => (model.entry source target).isSome

/-- The distances for the solvers; an empty cell counts as 0. -/
def toProblem (model : Model) : Problem where
  distances := (List.range model.size).map fun source =>
    (List.range model.size).map fun target => (model.entry source target).getD 0

/-- The start node is the seed modulo the node count. -/
def seedStartNode (model : Model) (randomSeed : UInt64) : ℕ :=
  if model.size = 0 then 0 else toNodeId (randomSeed.toNat % model.size)

/--
`push_back(std::nullopt)` on every row in order. The loop stops at the row
whose operation throws; the flag tells whether it finished.
-/
def pushBackRows (failure : Option ℕ) :
    ℕ → List (List (Option Cost)) → List (List (Option Cost)) × Bool
  | _, [] => ([], true)
  | row, head :: rest =>
      if failure = some row then (head :: rest, false)
      else
        let pushed := pushBackRows failure (row + 1) rest
        ((head ++ [none]) :: pushed.1, pushed.2)

/--
The body of `add_node`, with the id that is written through `out_node_id`. With
`n` rows, the operations that can throw `std::bad_alloc` are the `push_back` on
row `k < n`, the construction of the new row (`n`) and the growth of the outer
vector (`n + 1`).
-/
def addNode (failure : Option ℕ) (model : Model) : ErrorCode × Model × Option ℕ :=
  if model.size > 2 ^ 32 - 1 then (.outOfRange, model, none)
  else
    let nodeId := model.size
    let pushed := pushBackRows failure 0 model.distances
    if !pushed.2 ∨ failure = some nodeId ∨ failure = some (nodeId + 1) then
      (.allocationFailed, { distances := pushed.1 }, none)
    else
      let row := (List.replicate (nodeId + 1) none).set nodeId (some 0)
      (.ok, { distances := pushed.1 ++ [row] }, some (toNodeId nodeId))

/-- The body of `set_distance`; on the diagonal the distance stays 0. -/
def setDistance (model : Model) (source target : ℕ) (distance : Cost) :
    ErrorCode × Model :=
  if source ≥ model.size ∨ target ≥ model.size then (.outOfRange, model)
  else
    (.ok, { distances := model.distances.modify source fun row =>
      row.set target (some (if source = target then 0 else distance)) })

/-- The body of `validate`. -/
def validate (model : Model) : ErrorCode :=
  if !model.isComplete then .invalidModel else .ok

/--
The `switch` over the resolved algorithm. The `DEFAULT` case returns from
`solve` itself and has no outcome; a value outside the enumeration falls
through with the empty tour.
-/
def dispatch (problem : Problem) (startNode : ℕ) (randomSeed : UInt64) :
    Algorithm → Option (Except Exception Tour)
  | .localSearch2Opt => some (twoOptLocalSearchSolve problem startNode)
  | .greedyNearestNeighbor => some (nearestNeighborTour problem startNode)
  | .greedyCheapestInsertion => some (cheapestInsertionTour problem startNode)
  | .heldKarp => some (heldKarpTour problem startNode)
  | .metaheuristicIteratedLocalSearch =>
      some (iteratedLocalSearchTour problem startNode randomSeed)
  | .default => none
  | .unlisted _ => some (.ok {})

/-- The body of `tsp_solver_solve`, with the result that is written through `out_result`. -/
def solve (model : Model) (options : Options) : ErrorCode × Option Result :=
  if !model.isComplete then (.invalidModel, none)
  else if !isValidAlgorithm options.algorithm then (.invalidArgument, none)
  else
    let resolved := resolveAlgorithm options.algorithm
    if options.timeLimitMs = 0 then
      (.ok, some { status := .timeLimit, algorithm := resolved })
    else
      match dispatch model.toProblem (model.seedStartNode options.randomSeed)
        options.randomSeed resolved with
      | none => (.invalidArgument, none)
      | some (.error (.outOfRange _)) => (.outOfRange, none)
      | some (.error (.invalidArgument _)) => (.internalError, none)
      | some (.ok tour) =>
          (.ok, some
            { status := if resolved = .heldKarp then .optimal else .feasible
              algorithm := resolved
              objective := tour.totalCost
              tour := tour.order })

end Model

/-- The allocations inside `solve` that can fail. -/
inductive SolveAllocation where
  /-- A row of the problem that is handed to the solver. -/
  | problem
  /-- Any allocation of the algorithm. -/
  | search
  /-- The result object, by a `new` that does not throw. -/
  | result
  /-- The copy of the tour into the result object. -/
  | tour
deriving DecidableEq, Repr

/-- How `solve` ends. -/
structure SolveAnswer where
  code : ErrorCode
  /-- The object that is written through `out_result`. -/
  result : Option Result := none
  /-- An object that stays allocated although nobody has its address. -/
  lost : Option Result := none
deriving DecidableEq, Repr

/--
The body of `tsp_solver_solve` where an allocation fails. A model without nodes
needs no memory before the result object, and an empty tour needs none after it.
When the tour cannot be copied, the exception leaves the result object behind.
-/
def Model.solveUnder (failure : Option SolveAllocation) (model : Model) (options : Options) :
    SolveAnswer :=
  if !model.isComplete then { code := .invalidModel }
  else if !isValidAlgorithm options.algorithm then { code := .invalidArgument }
  else if failure = some .problem ∧ model.size ≠ 0 then { code := .allocationFailed }
  else
    let resolved := resolveAlgorithm options.algorithm
    if options.timeLimitMs = 0 then
      if failure = some .result then { code := .allocationFailed }
      else { code := .ok, result := some { status := .timeLimit, algorithm := resolved } }
    else if failure = some .search ∧ model.size ≠ 0 then { code := .allocationFailed }
    else
      match dispatch model.toProblem (model.seedStartNode options.randomSeed)
        options.randomSeed resolved with
      | none => { code := .invalidArgument }
      | some (.error (.outOfRange _)) => { code := .outOfRange }
      | some (.error (.invalidArgument _)) => { code := .internalError }
      | some (.ok tour) =>
          let result : Result :=
            { status := if resolved = .heldKarp then .optimal else .feasible
              algorithm := resolved
              objective := tour.totalCost }
          if failure = some .result then { code := .allocationFailed }
          else if failure = some .tour ∧ tour.order ≠ [] then
            { code := .allocationFailed, lost := some result }
          else { code := .ok, result := some { result with tour := tour.order } }

/-! ## Exported functions -/

/-- A pointer argument: `none` is the null pointer, `some` holds the object pointed to. -/
abbrev Ptr (Object : Type) := Option Object

/-- `tsp_solver_model_add_node`; nothing is written through `out_node_id` on failure. -/
def tspSolverModelAddNode (failure : Option ℕ) (model : Ptr Model) (outNodeId : Ptr ℕ) :
    ErrorCode × Ptr Model × Ptr ℕ :=
  match model, outNodeId with
  | some object, some stale =>
      let answer := object.addNode failure
      (answer.1, some answer.2.1, some (answer.2.2.getD stale))
  | _, _ => (.invalidArgument, model, outNodeId)

/-- `tsp_solver_model_set_distance`. -/
def tspSolverModelSetDistance (model : Ptr Model) (source target : ℕ) (distance : Cost) :
    ErrorCode × Ptr Model :=
  match model with
  | some object => ((object.setDistance source target distance).1,
      some (object.setDistance source target distance).2)
  | none => (.invalidArgument, none)

/-- `tsp_solver_model_validate`. -/
def tspSolverModelValidate (model : Ptr Model) : ErrorCode :=
  match model with
  | some object => object.validate
  | none => .invalidArgument

/-- `tsp_solver_options_set_algorithm`, which refuses what is not in the enumeration. -/
def tspSolverOptionsSetAlgorithm (options : Ptr Options) (algorithm : Algorithm) :
    ErrorCode × Ptr Options :=
  match options with
  | some object =>
      if !isValidAlgorithm algorithm then (.invalidArgument, options)
      else (.ok, some { object with algorithm := algorithm })
  | none => (.invalidArgument, none)

/-- `tsp_solver_options_set_time_limit_ms`. -/
def tspSolverOptionsSetTimeLimitMs (options : Ptr Options) (timeLimitMs : UInt64) :
    ErrorCode × Ptr Options :=
  match options with
  | some object => (.ok, some { object with timeLimitMs := timeLimitMs })
  | none => (.invalidArgument, none)

/-- `tsp_solver_options_set_random_seed`. -/
def tspSolverOptionsSetRandomSeed (options : Ptr Options) (randomSeed : UInt64) :
    ErrorCode × Ptr Options :=
  match options with
  | some object => (.ok, some { object with randomSeed := randomSeed })
  | none => (.invalidArgument, none)

/-- `validate_result_handle`. -/
def validateResultHandle (result : Ptr Result) : ErrorCode :=
  if result.isNone then .invalidArgument else .ok

/-- The getters differ in the field they read. -/
def getResultField {Value : Type} (field : Result → Value) (result : Ptr Result)
    (out : Ptr Value) : ErrorCode × Ptr Value :=
  if validateResultHandle result ≠ .ok ∨ out.isNone then (.invalidArgument, out)
  else (.ok, result.map field)

/-- `tsp_solver_result_get_status`. -/
def tspSolverResultGetStatus : Ptr Result → Ptr Status → ErrorCode × Ptr Status :=
  getResultField Result.status

/-- `tsp_solver_result_get_algorithm`. -/
def tspSolverResultGetAlgorithm : Ptr Result → Ptr Algorithm → ErrorCode × Ptr Algorithm :=
  getResultField Result.algorithm

/-- `tsp_solver_result_get_objective`. -/
def tspSolverResultGetObjective : Ptr Result → Ptr Cost → ErrorCode × Ptr Cost :=
  getResultField Result.objective

/-- `tsp_solver_result_get_tour_size`. -/
def tspSolverResultGetTourSize : Ptr Result → Ptr ℕ → ErrorCode × Ptr ℕ :=
  getResultField fun result => result.tour.length

/-- The copying loop; a store past the end of the caller's buffer is undefined. -/
def copyTour (tour buffer : List ℕ) : Option (List ℕ) :=
  (List.range tour.length).foldlM
    (fun filled index =>
      if index < filled.length then some (filled.set index (tour.getD index 0)) else none)
    buffer

/--
`tsp_solver_result_get_tour`. The buffer is all the memory behind `out_nodes`;
`capacity` is what the caller says of it.
-/
def tspSolverResultGetTour (result : Ptr Result) (outNodes : Ptr (List ℕ)) (capacity : ℕ)
    (outWritten : Ptr ℕ) : Option (ErrorCode × Ptr (List ℕ) × Ptr ℕ) :=
  match result, outNodes, outWritten with
  | some object, some buffer, some _ =>
      if capacity < object.tour.length then some (.invalidArgument, outNodes, outWritten)
      else
        (copyTour object.tour buffer).map fun filled =>
          (.ok, some filled, some object.tour.length)
  | _, _, _ => some (.invalidArgument, outNodes, outWritten)

/-! ## Histories -/

/-- A call that changes a model. -/
inductive Call where
  | addNode (failure : Option ℕ)
  | setDistance (source target : ℕ) (distance : Cost)
deriving DecidableEq, Repr

/-- What a call tells its caller. -/
structure Response where
  code : ErrorCode
  nodeId : Option ℕ := none
deriving DecidableEq, Repr

namespace Model

/-- What the model answers to a call. -/
def respond (model : Model) : Call → Response
  | .addNode failure =>
      { code := (model.addNode failure).1, nodeId := (model.addNode failure).2.2 }
  | .setDistance source target distance =>
      { code := (model.setDistance source target distance).1 }

/-- The model after a call. -/
def apply (model : Model) : Call → Model
  | .addNode failure => (model.addNode failure).2.1
  | .setDistance source target distance => (model.setDistance source target distance).2

/-- The model after a series of calls. -/
def run (model : Model) (calls : List Call) : Model := calls.foldl apply model

/-- The calls of a history with the answers they get, oldest first. -/
def history (model : Model) : List Call → List (Call × Response)
  | [] => []
  | call :: rest => (call, model.respond call) :: (model.apply call).history rest

/-- The models that calls can build from a fresh one, allocation failures included. -/
def Reachable (model : Model) : Prop := ∃ calls, ({} : Model).run calls = model

end Model

/-- No allocation inside the call fails. -/
def Call.AllocationsSucceed : Call → Prop
  | .addNode failure => failure = none
  | .setDistance _ _ _ => True

instance (call : Call) : Decidable call.AllocationsSucceed :=
  match call with
  | .addNode failure => inferInstanceAs (Decidable (failure = none))
  | .setDistance _ _ _ => inferInstanceAs (Decidable True)

end TspSolver
