import TspSolver.Bindings.Session
import TspSolver.Effect.Machine

/-!
# The Java binding

Two layers: the native methods behind the JNI bridge, which take a handle as a
number and throw for error codes, and the Java classes in front of them. A
handle is an address, and the number zero marks a wrapper that has been closed.
The library is loaded, so loading and its version check are left out.
-/

namespace TspSolver.Java

open Handles Effect

/-- The classes that the binding and the bridge throw. -/
inductive ExceptionClass where
  | illegalArgumentException
  | illegalStateException
  | indexOutOfBoundsException
  | nullPointerException
  | outOfMemoryError
  | solverNativeException
deriving DecidableEq, Repr

/-- An exception with its message. -/
structure Raised where
  cls : ExceptionClass
  text : String
deriving DecidableEq, Repr

/-- The body of a method: it may throw, and it reads and changes the native memory. -/
abbrev Method (Value : Type) := Program Raised Memory Value

/-! ## The bridge -/

namespace Jni

/-- `require_handle`; the text is the argument that the source calls `type_name`. -/
def requireHandle (handle : Address) (typeName : String) : Except Raised Address :=
  if handle = 0 then .error ⟨.illegalStateException, typeName⟩ else .ok handle

/-- `throw_for_error`. -/
def throwForError (code : ErrorCode) (context : String) : Except Raised Unit :=
  match code with
  | .ok => .ok ()
  | .invalidArgument => .error ⟨.illegalArgumentException, context⟩
  | .outOfRange => .error ⟨.indexOutOfBoundsException, context⟩
  | .invalidModel => .error ⟨.illegalStateException, context⟩
  | .allocationFailed | .internalError => .error ⟨.solverNativeException, context⟩

/-- `Model.nativeCreate`. -/
def modelNativeCreate (allocator : Allocator NativeObject) (fails : Bool) : Method Address := do
  let (code, model) ← native (Memory.tspSolverModelCreate allocator fails (some 0))
  check (throwForError code "failed to create model")
  return model.getD 0

/-- `Model.nativeDestroy`. -/
def modelNativeDestroy (handle : Address) : Method Unit :=
  native (Memory.tspSolverModelDestroy handle)

/-- `Model.nativeAddNode`. -/
def modelNativeAddNode (failure : Option ℕ) (handle : Address) : Method Int32 := do
  let model ← check (requireHandle handle "Model is closed")
  let (code, nodeId) ← native (Memory.tspSolverModelAddNode failure model (some 0))
  check (throwForError code "failed to add node")
  return Int32.ofNat (nodeId.getD 0)

/-- A negative `jint` becomes a large node id. -/
def modelNativeSetDistance (handle : Address) (source target : Int32) (distance : Int64) :
    Method Unit := do
  let model ← check (requireHandle handle "Model is closed")
  let code ← native (Memory.tspSolverModelSetDistance model source.toUInt32.toNat
    target.toUInt32.toNat distance)
  check (throwForError code "failed to set distance")

/-- `Model.nativeValidate`. -/
def modelNativeValidate (handle : Address) : Method Unit := do
  let model ← check (requireHandle handle "Model is closed")
  let code ← native (Memory.tspSolverModelValidate model)
  check (throwForError code "model is incomplete")

/-- `Options.nativeCreate`. -/
def optionsNativeCreate (allocator : Allocator NativeObject) (fails : Bool) : Method Address := do
  let (code, options) ← native (Memory.tspSolverOptionsCreate allocator fails (some 0))
  check (throwForError code "failed to create options")
  return options.getD 0

/-- `Options.nativeDestroy`. -/
def optionsNativeDestroy (handle : Address) : Method Unit :=
  native (Memory.tspSolverOptionsDestroy handle)

/-- The two numeric setters differ in the native call and in their texts. -/
def optionsNativeSetNumber (call : Address → UInt64 → Memory → Option (ErrorCode × Memory))
    (negative context : String) (handle : Address) (value : Int64) : Method Unit := do
  let options ← check (requireHandle handle "Options is closed")
  if value < 0 then throw ⟨.illegalArgumentException, negative⟩
  let code ← native (call options value.toUInt64)
  check (throwForError code context)

/-- `Options.nativeSetTimeLimitMs`. -/
def optionsNativeSetTimeLimitMs : Address → Int64 → Method Unit :=
  optionsNativeSetNumber Memory.tspSolverOptionsSetTimeLimitMs "time limit must be >= 0"
    "failed to set time limit"

/-- `Options.nativeSetRandomSeed`. -/
def optionsNativeSetRandomSeed : Address → Int64 → Method Unit :=
  optionsNativeSetNumber Memory.tspSolverOptionsSetRandomSeed "random seed must be >= 0"
    "failed to set random seed"

/-- `Options.nativeSetAlgorithm`. -/
def optionsNativeSetAlgorithm (handle : Address) (algorithmValue : Int32) : Method Unit := do
  let options ← check (requireHandle handle "Options is closed")
  let code ← native (Memory.tspSolverOptionsSetAlgorithm options
    (TspSolver.Algorithm.ofValue algorithmValue.toUInt32.toNat))
  check (throwForError code "failed to set algorithm")

/-- `Result.nativeDestroy`. -/
def resultNativeDestroy (handle : Address) : Method Unit :=
  native (Memory.tspSolverResultDestroy handle)

/-- The getters of single fields differ in the native call and in the cast to a Java type. -/
def resultNativeGetField {Field Value : Type} (stale : Field)
    (call : Address → Ptr Field → Memory → Option ((ErrorCode × Ptr Field) × Memory))
    (context : String) (cast : Field → Value) (handle : Address) : Method Value := do
  let result ← check (requireHandle handle "Result is closed")
  let (code, field) ← native (call result (some stale))
  check (throwForError code context)
  return cast (field.getD stale)

/-- `Result.nativeGetAlgorithm`. -/
def resultNativeGetAlgorithm : Address → Method Int32 :=
  resultNativeGetField .default Memory.tspSolverResultGetAlgorithm "failed to get result algorithm"
    fun algorithm => Int32.ofNat algorithm.value

/-- `Result.nativeGetStatus`. -/
def resultNativeGetStatus : Address → Method Int32 :=
  resultNativeGetField .notSolved Memory.tspSolverResultGetStatus "failed to get result status"
    fun status => Int32.ofNat status.value

/-- `Result.nativeGetObjective`. -/
def resultNativeGetObjective : Address → Method Int64 :=
  resultNativeGetField 0 Memory.tspSolverResultGetObjective "failed to get result objective" id

/-- The size of a tour, if it is a `jint`. -/
def fitJint (size : ℕ) : Except Raised ℕ :=
  if size > 2 ^ 31 - 1 then .error ⟨.solverNativeException, "tour size does not fit in jint"⟩
  else .ok size

/-- The two functions that return a tour or its size start alike. -/
def resultTourSize (handle : Address) : Method ℕ := do
  let result ← check (requireHandle handle "Result is closed")
  let (code, size) ← native (Memory.tspSolverResultGetTourSize result (some 0))
  check (throwForError code "failed to get result tour size")
  check (fitJint (size.getD 0))

/-- `Result.nativeGetTourSize`. -/
def resultNativeGetTourSize (handle : Address) : Method Int32 := do
  let size ← resultTourSize handle
  return Int32.ofNat size

/-- The vector that receives the tour, and how much of it is written. -/
def resultTourNodes (handle : Address) (size : ℕ) : Method (List ℕ × ℕ) :=
  if size > 0 then do
    let (code, tour, written) ← native
      (Memory.tspSolverResultGetTour handle (some (List.replicate size 0)) size (some 0))
    check (throwForError code "failed to get result tour")
    return (tour.getD [], written.getD 0)
  else return ([], 0)

/-- `NewIntArray`, which leaves its own error pending when it finds no memory. -/
def newIntArray (fails : Bool) : Except Raised Unit :=
  if fails then .error ⟨.outOfMemoryError, ""⟩ else .ok ()

/-- `Result.nativeGetTour`. -/
def resultNativeGetTour (arrayFails : Bool) (handle : Address) : Method (List Int32) := do
  let size ← resultTourSize handle
  let (tour, written) ← resultTourNodes handle size
  check (newIntArray arrayFails)
  return (List.range written).map fun index => Int32.ofNat (tour.getD index 0)

/--
`Solver.nativeSolve`. Both handles are checked before either is looked at again; a second throw on
top of a pending exception has no outcome here.
-/
def solverNativeSolve (allocator : Allocator NativeObject) (failure : Option SolveAllocation)
    (modelHandle optionsHandle : Address) : Method Address := do
  if modelHandle = 0 ∧ optionsHandle = 0 then native fun _ => none
  let model ← check (requireHandle modelHandle "Model is closed")
  let options ← check (requireHandle optionsHandle "Options is closed")
  let (code, result) ← native (Memory.tspSolverSolve allocator failure model options (some 0))
  check (throwForError code "failed to solve model")
  return result.getD 0

end Jni

/-! ## Enumerations -/

/-- The enumeration has the listed values only. -/
abbrev Algorithm := { algorithm : TspSolver.Algorithm // isValidAlgorithm algorithm = true }

namespace Algorithm

/-- `Algorithm.values()`, in the order of declaration. -/
def values : List Algorithm :=
  [⟨.default, rfl⟩, ⟨.localSearch2Opt, rfl⟩, ⟨.greedyNearestNeighbor, rfl⟩,
    ⟨.greedyCheapestInsertion, rfl⟩, ⟨.heldKarp, rfl⟩, ⟨.metaheuristicIteratedLocalSearch, rfl⟩]

/-- The `nativeValue` of an enumerator. -/
def nativeValue (algorithm : Algorithm) : Int32 := Int32.ofNat algorithm.val.value

/-- `Algorithm.fromNative`. -/
def fromNative (value : Int32) : Except Raised Algorithm :=
  match values.find? fun algorithm => algorithm.nativeValue = value with
  | some algorithm => .ok algorithm
  | none => .error ⟨.illegalArgumentException, s!"unknown algorithm value: {value.toInt}"⟩

end Algorithm

namespace Status

/-- `Status.values()`, in the order of declaration. -/
def values : List Status :=
  [.notSolved, .feasible, .optimal, .infeasible, .timeLimit, .invalidModel, .internalError]

/-- `Status.fromNative`. -/
def fromNative (value : Int32) : Except Raised Status :=
  match values.find? fun status => Int32.ofNat status.value = value with
  | some status => .ok status
  | none => .error ⟨.solverNativeException, s!"Unknown native status: {value.toInt}"⟩

end Status

/-! ## Classes -/

/-- A wrapper: the zero handle marks a closed one. -/
structure NativeResource where
  cls : Kind
  nativeHandle : Address
deriving DecidableEq, Repr

/-- `getClass().getSimpleName()`. -/
def simpleName : Kind → String
  | .model => "Model"
  | .options => "Options"
  | .result => "Result"

/-- `requireHandle`. -/
def requireHandle (self : NativeResource) : Except Raised Address :=
  if self.nativeHandle = 0 then
    .error ⟨.illegalStateException, simpleName self.cls ++ " is closed"⟩
  else .ok self.nativeHandle

/-- `release`, which every class defines with its own native method. -/
def release (self : NativeResource) (handle : Address) : Method Unit :=
  match self.cls with
  | .model => Jni.modelNativeDestroy handle
  | .options => Jni.optionsNativeDestroy handle
  | .result => Jni.resultNativeDestroy handle

/-- The handle is forgotten before the native object is released. -/
def close (self : NativeResource) : Method NativeResource :=
  if self.nativeHandle = 0 then return self
  else do
    release self self.nativeHandle
    return { self with nativeHandle := 0 }

/-- `new Model()`. -/
def newModel (allocator : Allocator NativeObject) (fails : Bool) : Method NativeResource := do
  let handle ← Jni.modelNativeCreate allocator fails
  return { cls := .model, nativeHandle := handle }

/-- `new Options()`. -/
def newOptions (allocator : Allocator NativeObject) (fails : Bool) : Method NativeResource := do
  let handle ← Jni.optionsNativeCreate allocator fails
  return { cls := .options, nativeHandle := handle }

/-- Most methods hand their handle to a native method. -/
def withHandle {Value : Type} (call : Address → Method Value) (self : NativeResource) :
    Method Value := do
  let handle ← check (requireHandle self)
  call handle

/-- `Model.addNode`. -/
def addNode (failure : Option ℕ) : NativeResource → Method Int32 :=
  withHandle (Jni.modelNativeAddNode failure)

/-- `Model.setDistance`. -/
def setDistance (source target : Int32) (distance : Int64) : NativeResource → Method Unit :=
  withHandle fun handle => Jni.modelNativeSetDistance handle source target distance

/-- `Model.validate`. -/
def validate : NativeResource → Method Unit := withHandle Jni.modelNativeValidate

/-- `Options.setTimeLimitMs`. -/
def setTimeLimitMs (value : Int64) : NativeResource → Method Unit :=
  withHandle fun handle => Jni.optionsNativeSetTimeLimitMs handle value

/-- `Options.setRandomSeed`. -/
def setRandomSeed (value : Int64) : NativeResource → Method Unit :=
  withHandle fun handle => Jni.optionsNativeSetRandomSeed handle value

/-- `Options.setAlgorithm`, where null is refused before the handle is looked at. -/
def setAlgorithm (algorithm : Option Algorithm) (self : NativeResource) : Method Unit :=
  match algorithm with
  | none => throw ⟨.illegalArgumentException, "algorithm must not be null"⟩
  | some algorithm =>
      withHandle (fun handle => Jni.optionsNativeSetAlgorithm handle algorithm.nativeValue) self

/-- `Result.getStatus`. -/
def getStatus : NativeResource → Method Status :=
  withHandle fun handle => do
    let value ← Jni.resultNativeGetStatus handle
    check (Status.fromNative value)

/-- `Result.getAlgorithm`. -/
def getAlgorithm : NativeResource → Method Algorithm :=
  withHandle fun handle => do
    let value ← Jni.resultNativeGetAlgorithm handle
    check (Algorithm.fromNative value)

/-- `Result.getObjective`. -/
def getObjective : NativeResource → Method Int64 := withHandle Jni.resultNativeGetObjective

/-- `Result.getTourSize`. -/
def getTourSize : NativeResource → Method Int32 := withHandle Jni.resultNativeGetTourSize

/-- `Result.getTour`. -/
def getTour (arrayFails : Bool) : NativeResource → Method (List Int32) :=
  withHandle (Jni.resultNativeGetTour arrayFails)

/-- `Solver.solve`; `none` is the null reference. -/
def solve (allocator : Allocator NativeObject) (failure : Option SolveAllocation)
    (model options : Option NativeResource) : Method NativeResource :=
  match model, options with
  | none, _ => throw ⟨.illegalArgumentException, "model must not be null"⟩
  | some _, none => throw ⟨.illegalArgumentException, "options must not be null"⟩
  | some model, some options => do
      let modelHandle ← check (requireHandle model)
      let optionsHandle ← check (requireHandle options)
      let handle ← Jni.solverNativeSolve allocator failure modelHandle optionsHandle
      return { cls := .result, nativeHandle := handle }

/-! ## Sessions -/

/-- What a program does with the binding; a name that no wrapper of the class has is null. -/
inductive Call where
  | newModel (fails : Bool)
  | addNode (self : ℕ) (failure : Option ℕ)
  | setDistance (self : ℕ) (source target : Int32) (distance : Int64)
  | validate (self : ℕ)
  | newOptions (fails : Bool)
  | setTimeLimitMs (self : ℕ) (value : Int64)
  | setRandomSeed (self : ℕ) (value : Int64)
  | setAlgorithm (self : ℕ) (algorithm : Option Algorithm)
  | solve (model options : ℕ) (failure : Option SolveAllocation)
  | modelSolve (self options : ℕ) (failure : Option SolveAllocation)
  | getStatus (self : ℕ)
  | getAlgorithm (self : ℕ)
  | getObjective (self : ℕ)
  | getTourSize (self : ℕ)
  | getTour (self : ℕ) (arrayFails : Bool)
  | close (self : ℕ)
deriving DecidableEq

/-- What a call returns. -/
inductive Reply where
  | nothing
  | object (reference : ℕ)
  | int (value : Int32)
  | long (value : Int64)
  | status (value : Status)
  | algorithm (value : TspSolver.Algorithm)
  | tour (nodes : List Int32)
deriving DecidableEq

/-- A method of the null reference is the language's own exception. -/
def binding : Binding NativeResource Raised where
  kind object := object.cls
  noSuchObject := ⟨.nullPointerException, ""⟩

/-- The session of a program. -/
abbrev Session := Binding.Session NativeResource

namespace Session

/-- One call of a program; `none` when a native call is undefined. -/
def step (allocator : Allocator NativeObject) (session : Session) :
    Call → Option (Except Raised Reply × Session)
  | .newModel fails => Binding.construct session (newModel allocator fails) .object
  | .addNode self failure => binding.query session .model self (addNode failure) .int
  | .setDistance self source target distance =>
      binding.query session .model self (setDistance source target distance) fun _ => .nothing
  | .validate self => binding.query session .model self validate fun _ => .nothing
  | .newOptions fails => Binding.construct session (newOptions allocator fails) .object
  | .setTimeLimitMs self value =>
      binding.query session .options self (setTimeLimitMs value) fun _ => .nothing
  | .setRandomSeed self value =>
      binding.query session .options self (setRandomSeed value) fun _ => .nothing
  | .setAlgorithm self algorithm =>
      binding.query session .options self (setAlgorithm algorithm) fun _ => .nothing
  | .solve model options failure =>
      Binding.construct session (solve allocator failure (binding.find session .model model)
        (binding.find session .options options)) .object
  | .modelSolve self options failure =>
      match binding.find session .model self with
      | none => some (.error binding.noSuchObject, session)
      | some model =>
          Binding.construct session
            (solve allocator failure (some model) (binding.find session .options options)) .object
  | .getStatus self => binding.query session .result self getStatus .status
  | .getAlgorithm self =>
      binding.query session .result self getAlgorithm fun algorithm => .algorithm algorithm.val
  | .getObjective self => binding.query session .result self getObjective .long
  | .getTourSize self => binding.query session .result self getTourSize .int
  | .getTour self arrayFails => binding.query session .result self (getTour arrayFails) .tour
  | .close self =>
      match session.objects[self]? with
      | none => some (.error binding.noSuchObject, session)
      | some object => binding.mutate session object.cls self close .nothing

/-- The outcomes of a program, oldest first, with the session it ends in. -/
def run (allocator : Allocator NativeObject) (calls : List Call) :
    Option (List (Except Raised Reply) × Session) :=
  runCalls (step allocator) {} calls

end Session

end TspSolver.Java
