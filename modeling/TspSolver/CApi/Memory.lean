import TspSolver.CApi.Results
import TspSolver.Handles.Heap

/-!
# The C interface behind handles

The exported functions as a client calls them: with the addresses of models,
options and results that live in native memory. A null address is an argument
like any other; an address that is not null must hold a live object of the
expected type, and otherwise the call is undefined. Which allocation fails is an
argument; where a new object goes is up to the allocator. A solve that cannot
copy its tour leaves a result in memory that no handle leads to.
-/

namespace TspSolver

open Handles

/-- The types that handles point to. -/
inductive Kind where
  | model
  | options
  | result
deriving DecidableEq, Repr

/-- What a live address can hold. -/
inductive NativeObject where
  | model (object : Model)
  | options (object : Options)
  | result (object : Result)
deriving DecidableEq, Repr

namespace NativeObject

/-- The type of an object. -/
def kind : NativeObject → Kind
  | .model _ => .model
  | .options _ => .options
  | .result _ => .result

end NativeObject

/-- What a solve leaves in memory for good: the result whose tour could not be copied. -/
def Model.lostBy (model : Model) (options : Options) (failure : Option SolveAllocation) :
    List NativeObject :=
  ((model.solveUnder failure options).lost.map NativeObject.result).toList

/-- One of the native types: how its objects enter the heap and are recognised there. -/
structure NativeType (Object : Type) where
  kind : Kind
  wrap : Object → NativeObject
  view : NativeObject → Option Object
  view_eq_some_iff : ∀ native object, view native = some object ↔ native = wrap object
  isSome_view_iff : ∀ native, (view native).isSome ↔ native.kind = kind

namespace NativeType

/-- `tsp_solver_model`. -/
def model : NativeType Model where
  kind := .model
  wrap := .model
  view
    | .model object => some object
    | _ => none
  view_eq_some_iff native object := by cases native <;> simp
  isSome_view_iff native := by cases native <;> simp [NativeObject.kind]

/-- `tsp_solver_options`. -/
def options : NativeType Options where
  kind := .options
  wrap := .options
  view
    | .options object => some object
    | _ => none
  view_eq_some_iff native object := by cases native <;> simp
  isSome_view_iff native := by cases native <;> simp [NativeObject.kind]

/-- `tsp_solver_result`. -/
def result : NativeType Result where
  kind := .result
  wrap := .result
  view
    | .result object => some object
    | _ => none
  view_eq_some_iff native object := by cases native <;> simp
  isSome_view_iff native := by cases native <;> simp [NativeObject.kind]

@[simp]
theorem view_wrap {Object : Type} (type : NativeType Object) (object : Object) :
    type.view (type.wrap object) = some object :=
  (type.view_eq_some_iff _ object).mpr rfl

@[simp]
theorem wrap_inj {Object : Type} (type : NativeType Object) {object other : Object} :
    type.wrap object = type.wrap other ↔ object = other := by
  rw [← type.view_eq_some_iff, view_wrap, Option.some.injEq]

@[simp]
theorem kind_wrap {Object : Type} (type : NativeType Object) (object : Object) :
    (type.wrap object).kind = type.kind := by
  rw [← type.isSome_view_iff, view_wrap]
  rfl

end NativeType

/-- The part of the heap that holds the objects of the library. -/
abbrev Memory := Heap NativeObject

namespace Memory

section Access

variable {Object Answer : Type} (type : NativeType Object)

/-- The object behind a pointer; a pointer to anything else has no meaning. -/
def pointee (memory : Memory) (handle : Address) : Option (Ptr Object) :=
  if handle = 0 then some none else ((memory.read handle).bind type.view).map some

/-- A call that only looks at the object. -/
def reading (memory : Memory) (handle : Address) (call : Ptr Object → Answer) :
    Option (Answer × Memory) :=
  (memory.pointee type handle).map fun object => (call object, memory)

/-- A call that leaves the object changed. -/
def updating (memory : Memory) (handle : Address)
    (call : Ptr Object → Answer × Ptr Object) : Option (Answer × Memory) :=
  (memory.pointee type handle).bind fun object =>
    match (call object).2 with
    | none => some ((call object).1, memory)
    | some changed => (memory.write handle (type.wrap changed)).map fun written =>
        ((call object).1, written)

/-- `delete`: nothing happens to the null pointer. -/
def delete (memory : Memory) (handle : Address) : Option (Unit × Memory) :=
  (memory.pointee type handle).bind fun object =>
    match object with
    | none => some ((), memory)
    | some _ => (memory.release handle).map fun released => ((), released)

variable {memory after : Memory} {handle : Address} {object changed : Object}

theorem pointee_of_read (found : memory.read handle = some (type.wrap object)) :
    memory.pointee type handle = some (some object) := by
  rw [pointee, if_neg (Heap.ne_null_of_read found), found, Option.bind_some,
    NativeType.view_wrap, Option.map_some]

theorem reading_of_read (call : Ptr Object → Answer)
    (found : memory.read handle = some (type.wrap object)) :
    memory.reading type handle call = some (call (some object), memory) := by
  rw [reading, pointee_of_read type found, Option.map_some]

theorem updating_of_read (call : Ptr Object → Answer × Ptr Object)
    (found : memory.read handle = some (type.wrap object))
    (changes : (call (some object)).2 = some changed)
    (written : memory.write handle (type.wrap changed) = some after) :
    memory.updating type handle call = some ((call (some object)).1, after) := by
  simp only [updating, pointee_of_read type found, Option.bind_some, changes, written,
    Option.map_some]

theorem delete_of_read (found : memory.read handle = some (type.wrap object))
    (released : memory.release handle = some after) :
    memory.delete type handle = some ((), after) := by
  simp only [delete, pointee_of_read type found, Option.bind_some, released, Option.map_some]

end Access

/-- The two creating functions differ in the object they make. -/
def create (allocator : Allocator NativeObject) (object : NativeObject) (fails : Bool)
    (out : Ptr Address) (memory : Memory) : Option ((ErrorCode × Ptr Address) × Memory) :=
  if out.isNone then some ((.invalidArgument, none), memory)
  else if fails then some ((.allocationFailed, some 0), memory)
  else
    some ((.ok, some (memory.allocate allocator object).1), (memory.allocate allocator object).2)

/-- `tsp_solver_model_create`. -/
def tspSolverModelCreate (allocator : Allocator NativeObject) (fails : Bool)
    (outModel : Ptr Address) (memory : Memory) : Option ((ErrorCode × Ptr Address) × Memory) :=
  create allocator (.model {}) fails outModel memory

/-- `tsp_solver_model_destroy`. -/
def tspSolverModelDestroy (model : Address) (memory : Memory) : Option (Unit × Memory) :=
  memory.delete NativeType.model model

/-- `tsp_solver_model_add_node`. -/
def tspSolverModelAddNode (failure : Option ℕ) (model : Address) (outNodeId : Ptr ℕ)
    (memory : Memory) : Option ((ErrorCode × Ptr ℕ) × Memory) :=
  memory.updating NativeType.model model fun object =>
    let answer := TspSolver.tspSolverModelAddNode failure object outNodeId
    ((answer.1, answer.2.2), answer.2.1)

/-- `tsp_solver_model_set_distance`. -/
def tspSolverModelSetDistance (model : Address) (source target : ℕ) (distance : Cost)
    (memory : Memory) : Option (ErrorCode × Memory) :=
  memory.updating NativeType.model model fun object =>
    TspSolver.tspSolverModelSetDistance object source target distance

/-- `tsp_solver_model_validate`. -/
def tspSolverModelValidate (model : Address) (memory : Memory) : Option (ErrorCode × Memory) :=
  memory.reading NativeType.model model TspSolver.tspSolverModelValidate

/-- `tsp_solver_options_create`. -/
def tspSolverOptionsCreate (allocator : Allocator NativeObject) (fails : Bool)
    (outOptions : Ptr Address) (memory : Memory) : Option ((ErrorCode × Ptr Address) × Memory) :=
  create allocator (.options {}) fails outOptions memory

/-- `tsp_solver_options_destroy`. -/
def tspSolverOptionsDestroy (options : Address) (memory : Memory) : Option (Unit × Memory) :=
  memory.delete NativeType.options options

/-- `tsp_solver_options_set_time_limit_ms`. -/
def tspSolverOptionsSetTimeLimitMs (options : Address) (timeLimitMs : UInt64) (memory : Memory) :
    Option (ErrorCode × Memory) :=
  memory.updating NativeType.options options fun object =>
    TspSolver.tspSolverOptionsSetTimeLimitMs object timeLimitMs

/-- `tsp_solver_options_set_random_seed`. -/
def tspSolverOptionsSetRandomSeed (options : Address) (randomSeed : UInt64) (memory : Memory) :
    Option (ErrorCode × Memory) :=
  memory.updating NativeType.options options fun object =>
    TspSolver.tspSolverOptionsSetRandomSeed object randomSeed

/-- `tsp_solver_options_set_algorithm`. -/
def tspSolverOptionsSetAlgorithm (options : Address) (algorithm : Algorithm) (memory : Memory) :
    Option (ErrorCode × Memory) :=
  memory.updating NativeType.options options fun object =>
    TspSolver.tspSolverOptionsSetAlgorithm object algorithm

/-- The objects of a solve enter memory; `*out_result` stays null without a result. -/
def deliver (allocator : Allocator NativeObject) (answer : SolveAnswer) (memory : Memory) :
    (ErrorCode × Ptr Address) × Memory :=
  match answer.result, answer.lost with
  | some result, _ =>
      let placed := memory.allocate allocator (.result result)
      ((answer.code, some placed.1), placed.2)
  | none, some lost => ((answer.code, some 0), (memory.allocate allocator (.result lost)).2)
  | none, none => ((answer.code, some 0), memory)

/-- `tsp_solver_solve`. -/
def tspSolverSolve (allocator : Allocator NativeObject) (failure : Option SolveAllocation)
    (model options : Address) (outResult : Ptr Address) (memory : Memory) :
    Option ((ErrorCode × Ptr Address) × Memory) := do
  let object ← memory.pointee NativeType.model model
  let settings ← memory.pointee NativeType.options options
  match object, settings, outResult with
  | some object, some settings, some _ =>
      return memory.deliver allocator (object.solveUnder failure settings)
  | _, _, _ => return ((.invalidArgument, outResult), memory)

/-- `tsp_solver_result_destroy`. -/
def tspSolverResultDestroy (result : Address) (memory : Memory) : Option (Unit × Memory) :=
  memory.delete NativeType.result result

/-- `tsp_solver_result_get_status`. -/
def tspSolverResultGetStatus (result : Address) (out : Ptr Status) (memory : Memory) :
    Option ((ErrorCode × Ptr Status) × Memory) :=
  memory.reading NativeType.result result fun object =>
    TspSolver.tspSolverResultGetStatus object out

/-- `tsp_solver_result_get_algorithm`. -/
def tspSolverResultGetAlgorithm (result : Address) (out : Ptr Algorithm) (memory : Memory) :
    Option ((ErrorCode × Ptr Algorithm) × Memory) :=
  memory.reading NativeType.result result fun object =>
    TspSolver.tspSolverResultGetAlgorithm object out

/-- `tsp_solver_result_get_objective`. -/
def tspSolverResultGetObjective (result : Address) (out : Ptr Cost) (memory : Memory) :
    Option ((ErrorCode × Ptr Cost) × Memory) :=
  memory.reading NativeType.result result fun object =>
    TspSolver.tspSolverResultGetObjective object out

/-- `tsp_solver_result_get_tour_size`. -/
def tspSolverResultGetTourSize (result : Address) (out : Ptr ℕ) (memory : Memory) :
    Option ((ErrorCode × Ptr ℕ) × Memory) :=
  memory.reading NativeType.result result fun object =>
    TspSolver.tspSolverResultGetTourSize object out

/-- `tsp_solver_result_get_tour`. -/
def tspSolverResultGetTour (result : Address) (outNodes : Ptr (List ℕ)) (capacity : ℕ)
    (outWritten : Ptr ℕ) (memory : Memory) :
    Option ((ErrorCode × Ptr (List ℕ) × Ptr ℕ) × Memory) := do
  let object ← memory.pointee NativeType.result result
  let answer ← TspSolver.tspSolverResultGetTour object outNodes capacity outWritten
  return (answer, memory)

/-! ## On live objects -/

variable {allocator : Allocator NativeObject} {memory after : Memory} {handle other : Address}
  {model : Model} {options : Options} {result : Result}

theorem addNode_of_read {failure : Option ℕ} {stale : ℕ}
    (found : memory.read handle = some (.model model))
    (written : memory.write handle (.model (model.addNode failure).2.1) = some after) :
    tspSolverModelAddNode failure handle (some stale) memory =
      some (((model.addNode failure).1, some ((model.addNode failure).2.2.getD stale)), after) :=
  updating_of_read _ _ found rfl written

theorem setDistance_of_read {source target : ℕ} {distance : Cost}
    (found : memory.read handle = some (.model model))
    (written : memory.write handle (.model (model.setDistance source target distance).2) =
      some after) :
    tspSolverModelSetDistance handle source target distance memory =
      some ((model.setDistance source target distance).1, after) :=
  updating_of_read _ _ found rfl written

theorem validate_of_read (found : memory.read handle = some (.model model)) :
    tspSolverModelValidate handle memory = some (model.validate, memory) :=
  reading_of_read _ _ found

theorem setTimeLimitMs_of_read {value : UInt64}
    (found : memory.read handle = some (.options options))
    (written : memory.write handle (.options { options with timeLimitMs := value }) = some after) :
    tspSolverOptionsSetTimeLimitMs handle value memory = some (.ok, after) :=
  updating_of_read _ _ found rfl written

theorem setRandomSeed_of_read {value : UInt64}
    (found : memory.read handle = some (.options options))
    (written : memory.write handle (.options { options with randomSeed := value }) = some after) :
    tspSolverOptionsSetRandomSeed handle value memory = some (.ok, after) :=
  updating_of_read _ _ found rfl written

theorem setAlgorithm_of_read {value : Algorithm} (listed : isValidAlgorithm value = true)
    (found : memory.read handle = some (.options options))
    (written : memory.write handle (.options { options with algorithm := value }) = some after) :
    tspSolverOptionsSetAlgorithm handle value memory = some (.ok, after) := by
  have accepted : TspSolver.tspSolverOptionsSetAlgorithm (some options) value =
      (.ok, some { options with algorithm := value }) := by
    simp [TspSolver.tspSolverOptionsSetAlgorithm, listed]
  have ran := updating_of_read NativeType.options
    (fun object => TspSolver.tspSolverOptionsSetAlgorithm object value) found
    (congrArg Prod.snd accepted) written
  rw [accepted] at ran
  exact ran

theorem getStatus_of_read {stale : Status} (found : memory.read handle = some (.result result)) :
    tspSolverResultGetStatus handle (some stale) memory =
      some ((.ok, some result.status), memory) :=
  reading_of_read _ _ found

theorem getAlgorithm_of_read {stale : Algorithm}
    (found : memory.read handle = some (.result result)) :
    tspSolverResultGetAlgorithm handle (some stale) memory =
      some ((.ok, some result.algorithm), memory) :=
  reading_of_read _ _ found

theorem getObjective_of_read {stale : Cost} (found : memory.read handle = some (.result result)) :
    tspSolverResultGetObjective handle (some stale) memory =
      some ((.ok, some result.objective), memory) :=
  reading_of_read _ _ found

theorem getTourSize_of_read {stale : ℕ} (found : memory.read handle = some (.result result)) :
    tspSolverResultGetTourSize handle (some stale) memory =
      some ((.ok, some result.tour.length), memory) :=
  reading_of_read _ _ found

/-- A buffer of exactly the tour's size receives the tour. -/
theorem getTour_of_read {buffer : List ℕ} {capacity stale : ℕ}
    (found : memory.read handle = some (.result result)) (room : buffer.length = capacity)
    (size : capacity = result.tour.length) :
    tspSolverResultGetTour handle (some buffer) capacity (some stale) memory =
      some ((.ok, some result.tour, some result.tour.length), memory) := by
  rw [tspSolverResultGetTour, pointee_of_read NativeType.result found]
  simp [TspSolver.tspSolverResultGetTour, copyTour_eq, room, size]

/-- A solve of live objects answers as the function on the objects does. -/
theorem solve_of_read {failure : Option SolveAllocation} {stale : Address}
    (foundModel : memory.read handle = some (.model model))
    (foundOptions : memory.read other = some (.options options)) :
    tspSolverSolve allocator failure handle other (some stale) memory =
      some (memory.deliver allocator (model.solveUnder failure options)) := by
  rw [tspSolverSolve, pointee_of_read NativeType.model foundModel,
    pointee_of_read NativeType.options foundOptions]
  rfl

end Memory

end TspSolver
