import TspSolver.CApi.Memory
import TspSolver.Effect.Program
import TspSolver.Text.InputStream

/-!
# The comparison program

The command-line program that reads a matrix from a file, builds a model of it
and prints a line for each of three algorithms. It is a client of the native
library: it owns the model, the options and the results it asks for and has to
release them on every path. It catches no exception, so that it aborts when the
vector for the matrix is too long or finds no memory; its other vectors and its
strings are assumed to get the memory they need.
-/

namespace TspSolver.Compare

open Handles Effect Text

/-! ## The matrix file -/

/-- The numbers of the file, row by row. -/
structure Matrix where
  size : ℕ := 0
  values : List (List Cost) := []
deriving DecidableEq, Repr

/-- `long long value; input >> value`. -/
def readCost (input : InputStream) : Option Cost × InputStream :=
  let read := input.extract Numeral.toSigned
  (read.1.map Int64.ofInt, read.2)

/--
Which numbers of nodes get a vector of rows. No vector of 8-byte numbers has room
for 2^60 of them, and `std::length_error` is thrown for more.
-/
structure Storage where
  fits : ℕ → Bool
  fits_of_huge : ∀ size, 2 ^ 60 ≤ size → fits size = false

/-- How parsing stops: with a message, or with an exception that nobody catches. -/
inductive Stop where
  | message (text : String)
  | uncaught
deriving DecidableEq, Repr

/-- The file is `none` when it cannot be opened. The rows are allocated before they are read. -/
def parseMatrix (storage : Storage) (path : String) (file : Option (List Char)) :
    Except Stop Matrix :=
  match file with
  | none => .error (.message ("failed to open matrix file: " ++ path))
  | some text =>
      match InputStream.extract Numeral.toUnsigned { unread := text } with
      | (none, _) => .error (.message "matrix header is invalid")
      | (some size, input) =>
          if size = 0 then .error (.message "matrix header is invalid")
          else if !storage.fits size then .error .uncaught
          else
            match repeatRead (repeatRead readCost size) size input with
            | (none, _) => .error (.message "matrix is missing values")
            | (some values, input) =>
                match input.extract Numeral.toSigned with
                | (some _, _) => .error (.message "matrix file contains extra values")
                | (none, _) => .ok { size := size, values := values }

/-! ## Effects -/

/-- The native heap and what has been printed. -/
structure World where
  memory : Memory := .empty
  stdout : String := ""

/-- A piece of the program: it may stop with a message for `main`. -/
abbrev Action := Program String World

/-- A call of the native library. -/
def call {Value : Type} (operation : Memory → Option (Value × Memory)) : Action Value :=
  native fun world => (operation world.memory).map fun reached =>
    (reached.1, { world with memory := reached.2 })

/-- `std::cout << text`. -/
def print (text : String) : Action Unit :=
  native fun world => some ((), { world with stdout := world.stdout ++ text })

/-- `entries[index]`, undefined outside the vector. -/
def element {Entry : Type} (entries : List Entry) (index : ℕ) : Action Entry :=
  native fun world => (entries[index]?).map fun entry => (entry, world)

/-- The loop over the first entries of a vector, undefined when it has fewer. -/
def elements {Entry : Type} (entries : List Entry) (count : ℕ) : Action (List Entry) :=
  native fun world => if count ≤ entries.length then some (entries.take count, world) else none

/-- Which allocations of the native library fail. -/
structure Faults where
  modelCreate : Bool := false
  /-- By the number of the call, the operation inside `add_node` that throws. -/
  addNode : ℕ → Option ℕ := fun _ => none
  /-- By the number of the run. -/
  optionsCreate : ℕ → Bool := fun _ => false
  solve : ℕ → Option SolveAllocation := fun _ => none

/-! ## The program -/

/-- `algorithm_name`. -/
def algorithmName : Algorithm → String
  | .default => "TSP_SOLVER_ALGORITHM_DEFAULT"
  | .localSearch2Opt => "TSP_SOLVER_ALGORITHM_LOCAL_SEARCH_2OPT"
  | .greedyNearestNeighbor => "TSP_SOLVER_ALGORITHM_GREEDY_NEAREST_NEIGHBOR"
  | .greedyCheapestInsertion => "TSP_SOLVER_ALGORITHM_GREEDY_CHEAPEST_INSERTION"
  | .heldKarp => "TSP_SOLVER_ALGORITHM_HELD_KARP"
  | .metaheuristicIteratedLocalSearch =>
      "TSP_SOLVER_ALGORITHM_METAHEURISTIC_ITERATED_LOCAL_SEARCH"
  | .unlisted _ => "TSP_SOLVER_ALGORITHM_UNKNOWN"

/-- Every early return of `build_model` behind the creation releases the model. -/
def abandon {Value : Type} (model : Address) (error : String) : Action Value := do
  call (Memory.tspSolverModelDestroy model)
  throw error

/-- One turn of the loop that adds the nodes. -/
def addNextNode (faults : Faults) (model : Address) (nodeIds : List ℕ) (index : ℕ) :
    Action (List ℕ) := do
  let (code, nodeId) ← call (Memory.tspSolverModelAddNode (faults.addNode index) model (some 0))
  if code ≠ .ok then abandon model "failed to add node"
  else return nodeIds ++ [nodeId.getD 0]

/-- The loop of `build_model` over the nodes. -/
def addNodes (faults : Faults) (model : Address) (size : ℕ) : Action (List ℕ) :=
  (List.range size).foldlM (addNextNode faults model) []

/-- One turn of the inner loop that sets the distances. -/
def setNextDistance (matrix : Matrix) (model : Address) (nodeIds : List ℕ) (row column : ℕ) :
    Action Unit := do
  let source ← element nodeIds row
  let target ← element nodeIds column
  let values ← element matrix.values row
  let distance ← element values column
  let code ← call (Memory.tspSolverModelSetDistance model source target distance)
  if code ≠ .ok then abandon model "failed to set distance"
  else return ()

/-- The two loops of `build_model` over the pairs of nodes. -/
def setDistances (matrix : Matrix) (model : Address) (nodeIds : List ℕ) : Action Unit :=
  (List.range matrix.size).foldlM
    (fun _ row => (List.range matrix.size).foldlM
      (fun _ column => setNextDistance matrix model nodeIds row column) ())
    ()

/-- `build_model`. -/
def buildModel (allocator : Allocator NativeObject) (faults : Faults) (matrix : Matrix) :
    Action (Address × List ℕ) := do
  let (code, handle) ← call (Memory.tspSolverModelCreate allocator faults.modelCreate (some 0))
  if code ≠ .ok then throw "failed to create model"
  else
    let model := handle.getD 0
    let nodeIds ← addNodes faults model matrix.size
    setDistances matrix model nodeIds
    let code ← call (Memory.tspSolverModelValidate model)
    if code ≠ .ok then abandon model "model validation failed"
    else return (model, nodeIds)

/-- The line of a result. -/
def line (requested : Algorithm) (objective : Cost) (tour : List ℕ) : String :=
  algorithmName requested ++ "\t" ++ toString objective.toInt ++ "\t" ++
    " ".intercalate (tour.map toString) ++ "\n"

/-- The tour of a result; nothing is asked of the library when it is empty. -/
def fetchTour (result : Address) (size : ℕ) : Action (Option (List ℕ)) := do
  if size = 0 then return some []
  else
    let (code, nodes, written) ← call
      (Memory.tspSolverResultGetTour result (some (List.replicate size 0)) size (some 0))
    if code ≠ .ok then return none
    else
      let tour ← elements (nodes.getD []) (written.getD 0)
      return some tour

/-- `print_solution`. -/
def printSolution (requested : Algorithm) (result : Address) : Action Bool := do
  let (code, status) ← call (Memory.tspSolverResultGetStatus result (some .notSolved))
  if code ≠ .ok then return false
  else
    let (code, objective) ← call (Memory.tspSolverResultGetObjective result (some 0))
    if code ≠ .ok then return false
    else
      let (code, size) ← call (Memory.tspSolverResultGetTourSize result (some 0))
      if code ≠ .ok then return false
      else
        match ← fetchTour result (size.getD 0) with
        | none => return false
        | some tour => do
            print (line requested (objective.getD 0) tour)
            return status = some .feasible ∨ status = some .optimal

/-- What went wrong with the solve or with the printing of its result, if anything. -/
def solveAndPrint (allocator : Allocator NativeObject) (failure : Option SolveAllocation)
    (model options : Address) (algorithm : Algorithm) : Action (Address × Option String) := do
  let (code, handle) ← call (Memory.tspSolverSolve allocator failure model options (some 0))
  let result := handle.getD 0
  if code ≠ .ok then return (result, some "failed to solve model")
  else
    let printed ← printSolution algorithm result
    return (result, if printed then none else some "failed to read result")

/-- `run_algorithm`, which releases its result and its options on every path. -/
def runAlgorithm (allocator : Allocator NativeObject) (faults : Faults) (turn : ℕ)
    (model : Address) (algorithm : Algorithm) : Action Unit := do
  let (code, handle) ← call
    (Memory.tspSolverOptionsCreate allocator (faults.optionsCreate turn) (some 0))
  if code ≠ .ok then throw "failed to create options"
  else
    let options := handle.getD 0
    let code ← call (Memory.tspSolverOptionsSetAlgorithm options algorithm)
    if code ≠ .ok then do
      call (Memory.tspSolverOptionsDestroy options)
      throw "failed to set algorithm"
    else
      let (result, error) ← solveAndPrint allocator (faults.solve turn) model options algorithm
      call (Memory.tspSolverResultDestroy result)
      call (Memory.tspSolverOptionsDestroy options)
      match error with
      | none => return ()
      | some error => throw error

/-- The algorithms that `main` runs, in this order. -/
def compared : List Algorithm := [.default, .greedyNearestNeighbor, .localSearch2Opt]

/-- `ok = run_algorithm(...) && ok`: later runs go on after a failure, the last error is kept. -/
def runAlgorithms (allocator : Allocator NativeObject) (faults : Faults) (model : Address) :
    List (Algorithm × ℕ) → Option String → World → Option (Option String × World)
  | [], error, world => some (error, world)
  | (algorithm, turn) :: rest, error, world => do
      match ← (runAlgorithm allocator faults turn model algorithm).execute world with
      | (.ok (), world) => runAlgorithms allocator faults model rest error world
      | (.error later, world) => runAlgorithms allocator faults model rest (some later) world

/-- How the program ends: `main` returns a code, or an exception reaches its caller. -/
inductive Exit where
  | returned (code : ℕ) (stderr : String)
  | aborted
deriving DecidableEq, Repr

/-- The first line of the table. -/
def header : String := "algorithm\tobjective\ttour\n"

/-- The end of the program behind a model that has been built. -/
def compareOn (allocator : Allocator NativeObject) (faults : Faults) (model : Address)
    (world : World) : Option (Exit × World) := do
  let (_, world) ← (print header).execute world
  let (error, world) ← runAlgorithms allocator faults model compared.zipIdx none world
  let (_, world) ← (call (Memory.tspSolverModelDestroy model)).execute world
  match error with
  | none => return (.returned 0 "", world)
  | some error => return (.returned 1 (error ++ "\n"), world)

/-- `main`, with the arguments behind the program's name and the files it may open. -/
def main (allocator : Allocator NativeObject) (storage : Storage) (faults : Faults)
    (arguments : List String) (files : String → Option (List Char)) : Option (Exit × World) :=
  match arguments with
  | [path] =>
      match parseMatrix storage path (files path) with
      | .error .uncaught => some (.aborted, {})
      | .error (.message error) => some (.returned 1 (error ++ "\n"), {})
      | .ok matrix => do
          match ← (buildModel allocator faults matrix).execute {} with
          | (.error error, world) => return (.returned 1 (error ++ "\n"), world)
          | (.ok (model, _), world) => compareOn allocator faults model world
  | _ => some (.returned 1 "usage: compare_algorithms <matrix_path>\n", {})

end TspSolver.Compare
