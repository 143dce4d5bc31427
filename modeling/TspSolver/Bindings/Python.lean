import TspSolver.Bindings.Session
import TspSolver.Effect.Machine

/-!
# The Python binding

The wrapper classes and their methods. A method takes its wrapper as it stands
and returns what it changed. The library is loaded, so loading and its version
check are left out. A script uses one wrapper after another.
-/

namespace TspSolver.Python

open Handles Effect

/-! ## Exceptions and tables -/

/--
The classes that the binding raises, and those that an argument of the caller may
raise. `noSuchObject` is no Python class: it answers a reference to a wrapper that
is not there.
-/
inductive ExceptionClass where
  | typeError
  | valueError
  | overflowError
  | indexError
  | runtimeError
  | nativeCallError
  | other (name : String)
  | noSuchObject
deriving DecidableEq, Repr

/-- An exception with its text. -/
structure Raised where
  cls : ExceptionClass
  text : String
deriving DecidableEq, Repr

/-- The body of a method: it may raise, and it reads and changes the native memory. -/
abbrev Method (Value : Type) := Program Raised Memory Value

/-- `_ErrorCode(code)`. -/
def errorCode : ℕ → Except Raised ErrorCode
  | 0 => .ok .ok
  | 1 => .ok .invalidArgument
  | 2 => .ok .outOfRange
  | 3 => .ok .allocationFailed
  | 4 => .ok .invalidModel
  | 5 => .ok .internalError
  | code => .error ⟨.nativeCallError, s!"Native API returned unknown error code {code}"⟩

/-- `_raise_for_error(code, context)`. -/
def raiseForError (code : ℕ) (context : String) : Except Raised Unit := do
  let error ← errorCode code
  if error = .ok then return
  if error = .outOfRange then throw ⟨.indexError, context⟩
  if error = .invalidArgument ∨ error = .invalidModel then throw ⟨.valueError, context⟩
  throw ⟨.nativeCallError, context⟩

/-- `Status(value)`. -/
def statusOf : ℕ → Except Raised Status
  | 0 => .ok .notSolved
  | 1 => .ok .feasible
  | 2 => .ok .optimal
  | 3 => .ok .infeasible
  | 4 => .ok .timeLimit
  | 5 => .ok .invalidModel
  | 6 => .ok .internalError
  | value => .error ⟨.valueError, s!"{value} is not a valid Status"⟩

/--
An argument where an integer is due: an `int`, or an object of another class and
the number it is equal to, if there is one. `shown` is what its `repr` returns or
raises; that of an `int` raises where it has too many digits.
-/
inductive Argument where
  | int (value : ℤ) (shown : Except Raised String)
  | other (equals : Option ℤ) (shown : Except Raised String)
deriving DecidableEq, Repr

namespace Argument

/-- A plain `int` of few digits. -/
def ofInt (value : ℤ) : Argument := .int value (.ok (toString value))

/-- The number that an enumeration finds in place of the argument. -/
def number : Argument → Option ℤ
  | .int value _ => some value
  | .other equals _ => equals

/-- `repr(value)`. -/
def repr : Argument → Except Raised String
  | .int _ shown => shown
  | .other _ shown => shown

end Argument

/-- `Algorithm(value)`, which shows a value that it does not know. -/
def algorithmOf (value : Argument) : Except Raised Algorithm :=
  match value.number with
  | some 0 => .ok .default
  | some 1 => .ok .localSearch2Opt
  | some 2 => .ok .greedyNearestNeighbor
  | some 3 => .ok .greedyCheapestInsertion
  | some 4 => .ok .heldKarp
  | some 5 => .ok .metaheuristicIteratedLocalSearch
  | _ => do
      let shown ← value.repr
      .error ⟨.valueError, s!"{shown} is not a valid Algorithm"⟩

/-- The coercions differ in the range and in the class raised outside it. -/
def coerceInteger (low high : ℤ) (outside : ExceptionClass) (value : Argument) (name : String) :
    Except Raised ℤ :=
  match value with
  | .other _ _ => .error ⟨.typeError, s!"{name} must be an integer"⟩
  | .int value _ =>
      if value < low ∨ value > high then
        .error ⟨outside, s!"{name} must be between {low} and {high}"⟩
      else .ok value

/-- `_coerce_uint64(value, name)`. -/
def coerceUint64 : Argument → String → Except Raised ℤ :=
  coerceInteger 0 (2 ^ 64 - 1) .valueError

/-- `_coerce_int64(value, name)`. -/
def coerceInt64 : Argument → String → Except Raised ℤ :=
  coerceInteger (-2 ^ 63) (2 ^ 63 - 1) .valueError

/-- `_coerce_node_id(value, name)`, which raises `OverflowError` outside the range. -/
def coerceNodeId : Argument → String → Except Raised ℤ :=
  coerceInteger 0 (2 ^ 32 - 1) .overflowError

/-! ## Wrappers -/

/-- What an `Options` object remembers on the Python side. -/
structure Settings where
  timeLimitMs : ℤ := 2 ^ 64 - 1
  randomSeed : ℤ := 0
  algorithm : Algorithm := .default
deriving DecidableEq, Repr

/-- The class of a wrapper, with the attributes its class adds to the handle. -/
inductive WrapperClass where
  | model
  | options (settings : Settings)
  | result
deriving DecidableEq, Repr

/-- `__class__.__name__`. -/
def WrapperClass.name : WrapperClass → String
  | .model => "Model"
  | .options _ => "Options"
  | .result => "Result"

/-- The type of the native object behind a wrapper of the class. -/
def WrapperClass.kind : WrapperClass → Kind
  | .model => .model
  | .options _ => .options
  | .result => .result

/-- A wrapper: a closed one has no handle any more. -/
structure NativeResource where
  cls : WrapperClass
  handle : Option Address
deriving DecidableEq, Repr

/-- `_require_handle`. -/
def requireHandle (self : NativeResource) : Except Raised Address :=
  match self.handle with
  | none => .error ⟨.runtimeError, s!"{self.cls.name} has been closed"⟩
  | some handle => .ok handle

/-- `_destroy`, which every class defines for its own native type. -/
def destroy (self : NativeResource) (handle : Address) : Memory → Option (Unit × Memory) :=
  match self.cls with
  | .model => Memory.tspSolverModelDestroy handle
  | .options _ => Memory.tspSolverOptionsDestroy handle
  | .result => Memory.tspSolverResultDestroy handle

/-- Releases the native object; without a handle there is nothing to do. -/
def release (self : NativeResource) (memory : Memory) : Option (Unit × Memory) :=
  match self.handle with
  | none => some ((), memory)
  | some handle => destroy self handle memory

/-- `close`: a wrapper that is closed already stays as it is. -/
def close (self : NativeResource) : Method NativeResource := do
  native (release self)
  return { self with handle := none }

/-! ## Models -/

/-- `Model()`. -/
def modelInit (allocator : Allocator NativeObject) (fails : Bool) : Method NativeResource := do
  let (code, handle) ← native (Memory.tspSolverModelCreate allocator fails (some 0))
  check (raiseForError code.value "failed to create model")
  return { cls := .model, handle := handle }

/-- `Model.add_node`. -/
def addNode (failure : Option ℕ) (self : NativeResource) : Method ℕ := do
  let handle ← check (requireHandle self)
  let (code, nodeId) ← native (Memory.tspSolverModelAddNode failure handle (some 0))
  check (raiseForError code.value "failed to add node")
  return nodeId.getD 0

/-- The three coercions at the head of `set_distance`, in this order. -/
def coerceDistance (fromNode toNode distance : Argument) : Except Raised (ℤ × ℤ × ℤ) := do
  let source ← coerceNodeId fromNode "from_node"
  let target ← coerceNodeId toNode "to_node"
  let cost ← coerceInt64 distance "distance"
  return (source, target, cost)

/-- `Model.set_distance`. -/
def setDistance (fromNode toNode distance : Argument) (self : NativeResource) : Method Unit := do
  let handle ← check (requireHandle self)
  let (source, target, cost) ← check (coerceDistance fromNode toNode distance)
  let code ← native (Memory.tspSolverModelSetDistance handle (source % 2 ^ 32).toNat
    (target % 2 ^ 32).toNat (Int64.ofInt cost))
  check (raiseForError code.value "failed to set distance")

/-- `Model.validate`. -/
def validate (self : NativeResource) : Method Unit := do
  let handle ← check (requireHandle self)
  let code ← native (Memory.tspSolverModelValidate handle)
  check (raiseForError code.value "model is incomplete")

/-! ## Options -/

/-- `Options()`. -/
def optionsInit (allocator : Allocator NativeObject) (fails : Bool) : Method NativeResource := do
  let (code, handle) ← native (Memory.tspSolverOptionsCreate allocator fails (some 0))
  check (raiseForError code.value "failed to create options")
  return { cls := .options {}, handle := handle }

/-- The attributes of an `Options` object; a wrapper of another class has none. -/
def NativeResource.settings (self : NativeResource) : Settings :=
  match self.cls with
  | .options settings => settings
  | _ => {}

/-- The setters differ in the coercion, in the native call and in the attribute they keep. -/
def setOption {Coerced : Type} (coerced : Except Raised Coerced)
    (call : Address → Coerced → Memory → Option (ErrorCode × Memory)) (context : String)
    (remember : Coerced → Settings → Settings) (self : NativeResource) : Method NativeResource := do
  let handle ← check (requireHandle self)
  let value ← check coerced
  let code ← native (call handle value)
  check (raiseForError code.value context)
  return { self with cls := .options (remember value self.settings) }

/-- The setter of `Options.time_limit_ms`. -/
def setTimeLimitMs (value : Argument) : NativeResource → Method NativeResource :=
  setOption (coerceUint64 value "time_limit_ms")
    (fun handle limit => Memory.tspSolverOptionsSetTimeLimitMs handle (UInt64.ofInt limit))
    "failed to set time limit" fun limit settings => { settings with timeLimitMs := limit }

/-- The setter of `Options.random_seed`. -/
def setRandomSeed (value : Argument) : NativeResource → Method NativeResource :=
  setOption (coerceUint64 value "random_seed")
    (fun handle seed => Memory.tspSolverOptionsSetRandomSeed handle (UInt64.ofInt seed))
    "failed to set random seed" fun seed settings => { settings with randomSeed := seed }

/-- The setter of `Options.algorithm`. -/
def setAlgorithm (value : Argument) : NativeResource → Method NativeResource :=
  setOption (algorithmOf value)
    (fun handle algorithm =>
      Memory.tspSolverOptionsSetAlgorithm handle (Algorithm.ofValue algorithm.value))
    "failed to set algorithm" fun algorithm settings => { settings with algorithm := algorithm }

/-! ## Results -/

/-- The getters of single fields differ in the native call and in what they make of its answer. -/
def resultField {Field Value : Type} (stale : Field)
    (call : Address → Ptr Field → Memory → Option ((ErrorCode × Ptr Field) × Memory))
    (context : String) (convert : Field → Except Raised Value) (self : NativeResource) :
    Method Value := do
  let handle ← check (requireHandle self)
  let (code, field) ← native (call handle (some stale))
  check (raiseForError code.value context)
  check (convert (field.getD stale))

/-- `Result.status`. -/
def resultStatus : NativeResource → Method Status :=
  resultField .notSolved Memory.tspSolverResultGetStatus "failed to get result status"
    fun status => statusOf status.value

/-- `Result.algorithm`. -/
def resultAlgorithm : NativeResource → Method Algorithm :=
  resultField .default Memory.tspSolverResultGetAlgorithm "failed to get result algorithm"
    fun algorithm => algorithmOf (.ofInt algorithm.value)

/-- `Result.objective`. -/
def resultObjective : NativeResource → Method ℤ :=
  resultField 0 Memory.tspSolverResultGetObjective "failed to get result objective"
    fun objective => .ok objective.toInt

/-- `Result.tour_size`. -/
def resultTourSize : NativeResource → Method ℕ :=
  resultField 0 Memory.tspSolverResultGetTourSize "failed to get result tour size" .ok

/-- `Result.tour`, which asks for the size first. -/
def resultTour (self : NativeResource) : Method (List ℕ) := do
  let handle ← check (requireHandle self)
  let size ← resultTourSize self
  if size = 0 then return []
  let (code, nodes, written) ← native
    (Memory.tspSolverResultGetTour handle (some (List.replicate size 0)) size (some 0))
  check (raiseForError code.value "failed to get result tour")
  return (List.range (written.getD 0)).map fun index => (nodes.getD []).getD index 0

/-! ## Solving -/

/-- The `try` block of `solve`. -/
def solveWith (allocator : Allocator NativeObject) (failure : Option SolveAllocation)
    (model options : NativeResource) : Method NativeResource := do
  let modelHandle ← check (requireHandle model)
  let optionsHandle ← check (requireHandle options)
  let (code, handle) ← native
    (Memory.tspSolverSolve allocator failure modelHandle optionsHandle (some 0))
  check (raiseForError code.value "failed to solve model")
  return { cls := .result, handle := handle }

/--
`solve(model, options)`. An argument that is not a wrapper of the right class is
`none`; for the options the outer level tells whether they were passed at all.
Options made for the call are closed on every path.
-/
def solve (allocator : Allocator NativeObject) (optionsFails : Bool)
    (failure : Option SolveAllocation) (model : Option NativeResource)
    (options : Option (Option NativeResource)) : Method NativeResource :=
  match model, options with
  | none, _ => throw ⟨.typeError, "model must be a Model instance"⟩
  | some _, some none => throw ⟨.typeError, "options must be an Options instance or None"⟩
  | some model, some (some options) => solveWith allocator failure model options
  | some model, none => do
      let owned ← optionsInit allocator optionsFails
      ensure (solveWith allocator failure model owned) (release owned)

/-! ## Sessions -/

/--
What a script does with the binding; a wrapper is named by its number of creation.
Which allocation of the library fails is part of the call.
-/
inductive Call where
  | newModel (fails : Bool)
  | addNode (self : ℕ) (failure : Option ℕ)
  | setDistance (self : ℕ) (fromNode toNode distance : Argument)
  | validate (self : ℕ)
  | newOptions (fails : Bool)
  | timeLimitMs (self : ℕ)
  | setTimeLimitMs (self : ℕ) (value : Argument)
  | randomSeed (self : ℕ)
  | setRandomSeed (self : ℕ) (value : Argument)
  | optionsAlgorithm (self : ℕ)
  | setAlgorithm (self : ℕ) (value : Argument)
  | solve (model : ℕ) (options : Option ℕ) (optionsFails : Bool)
      (failure : Option SolveAllocation)
  | resultStatus (self : ℕ)
  | resultAlgorithm (self : ℕ)
  | resultObjective (self : ℕ)
  | resultTourSize (self : ℕ)
  | resultTour (self : ℕ)
  | closed (self : ℕ)
  | close (self : ℕ)
deriving DecidableEq, Repr

/-- What a call returns. -/
inductive Reply where
  | nothing
  | object (reference : ℕ)
  | integer (value : ℤ)
  | status (value : Status)
  | algorithm (value : Algorithm)
  | tour (nodes : List ℕ)
  | flag (value : Bool)
deriving DecidableEq, Repr

/-- The wrapper classes of the binding. -/
def binding : Binding NativeResource Raised where
  kind object := object.cls.kind
  noSuchObject := ⟨.noSuchObject, ""⟩

/-- The session of a script. -/
abbrev Session := Binding.Session NativeResource

namespace Session

/-- One call of a script; `none` when a native call is undefined. -/
def step (allocator : Allocator NativeObject) (session : Session) :
    Call → Option (Except Raised Reply × Session)
  | .newModel fails => Binding.construct session (modelInit allocator fails) .object
  | .addNode self failure =>
      binding.query session .model self (addNode failure) fun nodeId => .integer nodeId
  | .setDistance self fromNode toNode distance =>
      binding.query session .model self (setDistance fromNode toNode distance) fun _ => .nothing
  | .validate self => binding.query session .model self validate fun _ => .nothing
  | .newOptions fails => Binding.construct session (optionsInit allocator fails) .object
  | .timeLimitMs self =>
      binding.peek session .options self fun object => .integer object.settings.timeLimitMs
  | .setTimeLimitMs self value =>
      binding.mutate session .options self (setTimeLimitMs value) .nothing
  | .randomSeed self =>
      binding.peek session .options self fun object => .integer object.settings.randomSeed
  | .setRandomSeed self value =>
      binding.mutate session .options self (setRandomSeed value) .nothing
  | .optionsAlgorithm self =>
      binding.peek session .options self fun object => .algorithm object.settings.algorithm
  | .setAlgorithm self value =>
      binding.mutate session .options self (setAlgorithm value) .nothing
  | .solve model options optionsFails failure =>
      Binding.construct session (solve allocator optionsFails failure
        (binding.find session .model model) (options.map (binding.find session .options))) .object
  | .resultStatus self => binding.query session .result self resultStatus .status
  | .resultAlgorithm self => binding.query session .result self resultAlgorithm .algorithm
  | .resultObjective self => binding.query session .result self resultObjective .integer
  | .resultTourSize self =>
      binding.query session .result self resultTourSize fun size => .integer size
  | .resultTour self => binding.query session .result self resultTour .tour
  | .closed self =>
      match session.objects[self]? with
      | none => some (.error binding.noSuchObject, session)
      | some object => some (.ok (.flag object.handle.isNone), session)
  | .close self =>
      match session.objects[self]? with
      | none => some (.error binding.noSuchObject, session)
      | some object => binding.mutate session object.cls.kind self close .nothing

/-- The outcomes of a script, oldest first, with the session it ends in. -/
def run (allocator : Allocator NativeObject) (calls : List Call) :
    Option (List (Except Raised Reply) × Session) :=
  runCalls (step allocator) {} calls

end Session

end TspSolver.Python
