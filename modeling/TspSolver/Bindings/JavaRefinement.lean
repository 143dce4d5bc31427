import TspSolver.Bindings.Java
import TspSolver.Bindings.Language
import TspSolver.CApi.Results

/-!
# Java programs refine sessions without handles

The wrappers of a program own the live native objects, one each. A native
method is reached only with the address of a live object, so that its own check
of the handle never throws. Under this invariant every call is defined and
answers what the session without handles answers.
-/

namespace TspSolver.Java

open Handles Effect TspSolver.Language

/-! ## What a program sees of a session without handles -/

/-- What `throw_for_error` throws for an error. -/
def raisedFor (context : String) : ErrorCode → Raised
  | .outOfRange => ⟨.indexOutOfBoundsException, context⟩
  | .invalidArgument => ⟨.illegalArgumentException, context⟩
  | .invalidModel => ⟨.illegalStateException, context⟩
  | _ => ⟨.solverNativeException, context⟩

/-- Sizes beyond `jint` are refused; node ids and enumerators are cast. -/
def replyOf : Value → Except Raised Reply
  | .nothing => .ok .nothing
  | .object reference => .ok (.object reference)
  | .nodeId id => .ok (.int (Int32.ofNat id))
  | .status status => .ok (.status status)
  | .algorithm algorithm => .ok (.algorithm algorithm)
  | .objective cost => .ok (.long cost)
  | .tourSize size => (Jni.fitJint size).map fun size => .int (Int32.ofNat size)
  | .tour nodes => (Jni.fitJint nodes.length).map fun _ => .tour (nodes.map Int32.ofNat)

/-- The binding as a language. -/
def language : Language NativeResource Raised Reply Kind where
  toBinding := binding
  look := NativeResource.cls
  handle wrapper := if wrapper.nativeHandle = 0 then none else some wrapper.nativeHandle
  wrap cls handle := { cls := cls, nativeHandle := handle.getD 0 }
  lookOf := NativeObject.kind
  requireHandle := requireHandle
  closed kind := ⟨.illegalStateException, simpleName kind ++ " is closed"⟩
  failed := raisedFor
  replyOf := replyOf
  wrap_eq wrapper := by
    rcases wrapper with ⟨cls, handle⟩
    split_ifs with isNull
    · rw [← isNull]
      rfl
    · rfl
  look_wrap _ _ := rfl
  handle_wrap cls handle notNull := by
    cases handle with
    | none => rfl
    | some address =>
        apply if_neg
        simpa using notNull
  kind_wrap _ _ := rfl
  requireHandle_eq wrapper := by
    rw [requireHandle]
    split_ifs <;> rfl

/-- What a solve throws or returns. -/
def presentSolve : Answer → Except Raised Reply :=
  language.presentSolve ⟨.illegalArgumentException, "model must not be null"⟩
    ⟨.illegalArgumentException, "options must not be null"⟩ "failed to solve model"

/-- The request of a setter whose value must not be negative. -/
def nonNegative (value : Int64) (negative : String) (request : UInt64 → Request) :
    Except Raised Request :=
  if value < 0 then .error ⟨.illegalArgumentException, negative⟩ else .ok (request value.toUInt64)

section Expected

variable (objects : Objects)

/-- The specified outcome of `Solver.solve`. -/
def expectedSolve (model options : ℕ) (failure : Option SolveAllocation) :
    Except Raised Reply × Objects :=
  let served := objects.serve (.solve model options failure)
  (presentSolve served.1, served.2)

/-- The specified outcome of a call, with the objects after it. -/
def expected : Call → Except Raised Reply × Objects
  | .newModel fails => language.answered objects "failed to create model" (.newModel fails)
  | .addNode self failure =>
      language.answered objects "failed to add node" (.addNode self failure)
  | .setDistance self source target distance =>
      language.answered objects "failed to set distance"
        (.setDistance self source.toUInt32.toNat target.toUInt32.toNat distance)
  | .validate self => language.answered objects "model is incomplete" (.validate self)
  | .newOptions fails => language.answered objects "failed to create options" (.newOptions fails)
  | .setTimeLimitMs self value =>
      language.answeredOn objects .options self "failed to set time limit"
        (nonNegative value "time limit must be >= 0" (.setTimeLimitMs self))
  | .setRandomSeed self value =>
      language.answeredOn objects .options self "failed to set random seed"
        (nonNegative value "random seed must be >= 0" (.setRandomSeed self))
  | .setAlgorithm self none =>
      match Objects.access .options objects self with
      | .error (.missing _) => (.error binding.noSuchObject, objects)
      | _ => (.error ⟨.illegalArgumentException, "algorithm must not be null"⟩, objects)
  | .setAlgorithm self (some algorithm) =>
      language.answered objects "failed to set algorithm" (.setAlgorithm self algorithm.val)
  | .solve model options failure => expectedSolve objects model options failure
  | .modelSolve self options failure =>
      match Objects.access .model objects self with
      | .error (.missing _) => (.error binding.noSuchObject, objects)
      | _ => expectedSolve objects self options failure
  | .getStatus self => language.answered objects "failed to get result status" (.status self)
  | .getAlgorithm self =>
      language.answered objects "failed to get result algorithm" (.algorithm self)
  | .getObjective self =>
      language.answered objects "failed to get result objective" (.objective self)
  | .getTourSize self =>
      language.answered objects "failed to get result tour size" (.tourSize self)
  | .getTour self arrayFails =>
      let specified := language.answered objects "failed to get result tour" (.tour self)
      (specified.1.bind fun reply => (Jni.newIntArray arrayFails).map fun _ => reply, specified.2)
  | .close self =>
      match objects[self]? with
      | none => (.error binding.noSuchObject, objects)
      | some slot => language.answered objects "" (.close slot.object.kind self)

/-- What a call leaves behind for good: the result of a solve that could not copy its tour. -/
def leaves : Call → List NativeObject
  | .solve model options failure => objects.leaves (.solve model options failure)
  | .modelSolve self options failure => objects.leaves (.solve self options failure)
  | _ => []

end Expected

/-! ## Native methods on live objects -/

variable {lost : List NativeObject} {session : Session} {objects : Objects} {self : ℕ}
  {allocator : Allocator NativeObject} {memory after : Memory} {handle : Address}

theorem execute_withHandle {Value : Type} {object : NativeObject} (call : Address → Method Value)
    (read : memory.read handle = some object) :
    (withHandle call (language.shown object (some handle))).execute memory =
      (call handle).execute memory := by
  change (check (language.requireHandle (language.shown object (some handle))) >>=
    call).execute memory = _
  exact Language.execute_require call read

theorem withHandle_requires {Value : Type} (call : Address → Method Value) :
    language.RequiresHandle (withHandle call) :=
  requiresHandle_bind fun _ => call

theorem nativeHandle_shown (object : NativeObject) (handle : Address) :
    (language.shown object (some handle)).nativeHandle = handle := rfl

/-- The bridge's own check of the handle passes. -/
theorem execute_native_require {Value : Type} {object : NativeObject} {typeName : String}
    (next : Address → Method Value) (read : memory.read handle = some object) :
    (check (Jni.requireHandle handle typeName) >>= next).execute memory =
      (next handle).execute memory :=
  Program.execute_check_ok (if_neg (Heap.ne_null_of_read read)) next memory

theorem throwForError_eq (code : ErrorCode) (context : String) :
    Jni.throwForError code context =
      if code = .ok then .ok () else .error (raisedFor context code) := by
  cases code <;> rfl

theorem execute_throw {Value : Type} (code : ErrorCode) (context : String)
    (next : Unit → Method Value) (memory : Memory) :
    (check (Jni.throwForError code context) >>= next).execute memory =
      if code = .ok then (next ()).execute memory
      else some (.error (raisedFor context code), memory) := by
  rw [Program.execute_bind, Program.execute_check, throwForError_eq]
  split_ifs <;> rfl

/-! ## Calls -/

theorem answers_addNode (simulates : language.Simulates lost session objects) (failure : Option ℕ) :
    Answers (language.Simulates lost)
      (language.answered objects "failed to add node" (.addNode self failure))
      (binding.query session .model self (addNode failure) .int) := by
  refine simulates.query .model "failed to add node" (withHandle_requires _) ?_ ?_
  · intro refusal refused
    rw [answered, Objects.serve, Objects.change_of_error refused]
  · intro model handle found read opened
    rcases simulates.storeUnseen .model found read opened
        (.model model (.addNode failure)) rfl with
      ⟨written, writes, simulated⟩
    rw [addNode, execute_withHandle _ read, Jni.modelNativeAddNode, execute_native_require _ read,
      Program.execute_bind_of_ok
        (Program.execute_native_of_some (Memory.addNode_of_read read writes)),
      execute_throw, answered, Objects.serve, Objects.change_of_ok opened, present_answerOf]
    refine ⟨if (model.addNode failure).1 = .ok then
        .ok (Int32.ofNat ((model.addNode failure).2.2.getD 0))
      else .error (raisedFor "failed to add node" (model.addNode failure).1), written, ?_, ?_,
      simulated⟩ <;> split_ifs <;> rfl

theorem answers_setDistance (simulates : language.Simulates lost session objects)
    (source target : Int32) (distance : Int64) :
    Answers (language.Simulates lost) (expected objects (.setDistance self source target distance))
      (binding.query session .model self (setDistance source target distance)
        fun _ => .nothing) := by
  refine simulates.query .model "failed to set distance" (withHandle_requires _) ?_ ?_
  · intro refusal refused
    rw [expected, answered, Objects.serve, Objects.change_of_error refused]
  · intro model handle found read opened
    rcases simulates.storeUnseen .model found read opened
        (.model model (.setDistance source.toUInt32.toNat target.toUInt32.toNat distance)) rfl with
      ⟨written, writes, simulated⟩
    rw [setDistance, execute_withHandle _ read, Jni.modelNativeSetDistance,
      execute_native_require _ read,
      Program.execute_bind_of_ok
        (Program.execute_native_of_some (Memory.setDistance_of_read read writes)),
      Program.execute_check, throwForError_eq, expected, answered, Objects.serve,
      Objects.change_of_ok opened, present_answerOf]
    refine ⟨_, _, rfl, ?_, simulated⟩
    split_ifs <;> rfl

theorem answers_validate (simulates : language.Simulates lost session objects) :
    Answers (language.Simulates lost)
      (language.answered objects "model is incomplete" (.validate self))
      (binding.query session .model self validate fun _ => .nothing) := by
  refine simulates.query .model "model is incomplete" (withHandle_requires _) ?_ ?_
  · intro refusal refused
    rw [answered, Objects.serve, Objects.inspect_of_error refused]
  · intro model handle found read opened
    rw [validate, execute_withHandle _ read, Jni.modelNativeValidate,
      execute_native_require _ read,
      Program.execute_bind_of_ok (Program.execute_native_of_some (Memory.validate_of_read read)),
      Program.execute_check, throwForError_eq, answered, Objects.serve,
      Objects.inspect_of_ok opened, present_answerOf]
    refine ⟨_, _, rfl, ?_, simulates⟩
    split_ifs <;> rfl

theorem answers_setNumber {native : Address → Int64 → Method Unit}
    {call : Address → UInt64 → Memory → Option (ErrorCode × Memory)} {negative context : String}
    {request : UInt64 → Request} {value : Int64} (update : UInt64 → Options → Options)
    (simulates : language.Simulates lost session objects)
    (nativeEq : native = Jni.optionsNativeSetNumber call negative context)
    (serves : ∀ number, objects.serve (request number) =
      Objects.change .options objects self fun options => (.done .nothing, update number options))
    (runs : ∀ number memory after handle options, memory.read handle = some (.options options) →
      memory.write handle (.options (update number options)) = some after →
      call handle number memory = some (.ok, after))
    (listed : ∀ number options, (update number options).algorithm = options.algorithm) :
    Answers (language.Simulates lost)
      (language.answeredOn objects .options self context (nonNegative value negative request))
      (binding.query session NativeType.options.kind self
        (withHandle fun handle => native handle value) fun _ => .nothing) := by
  refine simulates.query .options context (withHandle_requires _) ?_ ?_
  · intro refusal refused
    exact answeredOn_of_refused _ refused
  · intro options handle found read opened
    rw [execute_withHandle _ read, nativeEq, Jni.optionsNativeSetNumber,
      execute_native_require _ read, nonNegative]
    split_ifs with isNegative
    · rw [answeredOn_of_raised _ opened]
      exact ⟨_, _, rfl, rfl, simulates⟩
    · rcases simulates.storeUnseen .options found read opened
          (.options options (update value.toUInt64 options)
            fun valid => by rwa [listed]) rfl with
        ⟨written, writes, simulated⟩
      rw [answeredOn_of_ok _ opened, answered, serves, Objects.change_of_ok opened]
      refine ⟨.ok (), written, ?_, rfl, simulated⟩
      exact Program.execute_bind_of_ok (Program.execute_native_of_some (runs _ _ _ _ _ read writes))

/-- The native value of an enumerator names it again. -/
theorem ofValue_nativeValue (algorithm : Algorithm) :
    TspSolver.Algorithm.ofValue algorithm.nativeValue.toUInt32.toNat = algorithm.val := by
  rcases algorithm with ⟨algorithm, valid⟩
  cases algorithm with
  | unlisted value => cases valid
  | _ => rfl

theorem fromNative_nativeValue (algorithm : Algorithm) :
    Algorithm.fromNative algorithm.nativeValue = .ok algorithm := by
  rcases algorithm with ⟨algorithm, valid⟩
  cases algorithm with
  | unlisted value => cases valid
  | _ => rfl

theorem fromNative_value (status : Status) :
    Status.fromNative (Int32.ofNat status.value) = .ok status := by
  cases status <;> rfl

theorem answers_setAlgorithm (simulates : language.Simulates lost session objects)
    (algorithm : Option Algorithm) :
    Answers (language.Simulates lost) (expected objects (.setAlgorithm self algorithm))
      (binding.query session .options self (setAlgorithm algorithm) fun _ => .nothing) := by
  cases algorithm with
  | none =>
      rw [expected]
      cases simulates.locate .options self with
      | missing find access =>
          rw [access, Binding.query, show binding.find session .options self = _ from find]
          exact ⟨session, rfl, simulates⟩
      | closed wrapper find released access =>
          rw [access, Binding.query, show binding.find session .options self = _ from find]
          exact ⟨session, rfl, simulates⟩
      | opened options handle find found read access =>
          rw [access, Binding.query, show binding.find session .options self = _ from find]
          exact ⟨session, rfl, simulates⟩
  | some algorithm =>
      refine simulates.query .options "failed to set algorithm" (withHandle_requires _) ?_ ?_
      · intro refusal refused
        rw [expected, answered, Objects.serve, Objects.change_of_error refused]
      · intro options handle found read opened
        rcases simulates.storeUnseen .options found read opened
            (.options options { options with algorithm := algorithm.val } fun _ => algorithm.2)
            rfl with
          ⟨written, writes, simulated⟩
        rw [setAlgorithm, execute_withHandle _ read, Jni.optionsNativeSetAlgorithm,
          execute_native_require _ read, ofValue_nativeValue, expected, answered, Objects.serve,
          Objects.change_of_ok opened]
        simp only [algorithm.2, if_true]
        refine ⟨.ok (), written, ?_, rfl, simulated⟩
        exact Program.execute_bind_of_ok (Program.execute_native_of_some
          (Memory.setAlgorithm_of_read algorithm.2 read writes))

/-- A getter answers with its field of the result. -/
theorem answers_getter {Value : Type} {call : Address → Method Value} {context : String}
    {reply : Value → Reply} {request : Request} (value : Result → TspSolver.Value)
    (simulates : language.Simulates lost session objects)
    (serves : objects.serve request =
      Objects.inspect .result objects self fun result => .done (value result))
    (runs : ∀ handle result, session.memory.read handle = some (.result result) →
      Objects.access .result objects self = .ok result →
      ∃ outcome, (call handle).execute session.memory = some (outcome, session.memory) ∧
        outcome.map reply = replyOf (value result)) :
    Answers (language.Simulates lost) (language.answered objects context request)
      (binding.query session NativeType.result.kind self (withHandle call) reply) := by
  refine simulates.query .result context (withHandle_requires _) ?_ ?_
  · intro refusal refused
    rw [answered, serves, Objects.inspect_of_error refused]
  · intro result handle found read opened
    rcases runs handle result read opened with ⟨outcome, ran, replied⟩
    rw [execute_withHandle _ read, answered, serves, Objects.inspect_of_ok opened]
    exact ⟨outcome, _, ran, replied, simulates⟩

theorem execute_getField {Field Value : Type} {stale : Field} {context : String}
    {call : Address → Ptr Field → Memory → Option ((ErrorCode × Ptr Field) × Memory)}
    {result : Result} {field : Field} (cast : Field → Value)
    (read : memory.read handle = some (.result result))
    (runs : call handle (some stale) memory = some ((.ok, some field), memory)) :
    (Jni.resultNativeGetField stale call context cast handle).execute memory =
      some (.ok (cast field), memory) := by
  rw [Jni.resultNativeGetField, execute_native_require _ read,
    Program.execute_bind_of_ok (Program.execute_native_of_some runs)]
  rfl

theorem execute_tourSize {result : Result} (read : memory.read handle = some (.result result)) :
    (Jni.resultTourSize handle).execute memory =
      some (Jni.fitJint result.tour.length, memory) := by
  rw [Jni.resultTourSize, execute_native_require _ read, Program.execute_bind_of_ok
    (Program.execute_native_of_some (Memory.getTourSize_of_read read)), execute_throw, if_pos rfl]
  rfl

theorem fitJint_eq_ok {size fitted : ℕ} (fits : Jni.fitJint size = .ok fitted) :
    fitted = size := by
  rw [Jni.fitJint] at fits
  split_ifs at fits
  cases fits
  rfl

theorem execute_tourNodes {result : Result} (read : memory.read handle = some (.result result)) :
    (Jni.resultTourNodes handle result.tour.length).execute memory =
      some (.ok (result.tour, result.tour.length), memory) := by
  rw [Jni.resultTourNodes]
  split_ifs with hasTour
  · exact Program.execute_bind_of_ok (Program.execute_native_of_some
      (Memory.getTour_of_read read List.length_replicate rfl))
  · rw [List.eq_nil_of_length_eq_zero (Nat.eq_zero_of_not_pos hasTour)]
    rfl

/-- The whole tour arrives, each id cast on its own. -/
theorem execute_getTour {result : Result} (arrayFails : Bool)
    (read : memory.read handle = some (.result result)) :
    (Jni.resultNativeGetTour arrayFails handle).execute memory =
      some ((Jni.fitJint result.tour.length).bind fun _ =>
        (Jni.newIntArray arrayFails).map fun _ => result.tour.map Int32.ofNat, memory) := by
  have sized := execute_tourSize read
  cases fits : Jni.fitJint result.tour.length with
  | error raised =>
      rw [fits] at sized
      exact Program.execute_bind_of_error sized
  | ok size =>
      rw [fits, fitJint_eq_ok fits] at sized
      rw [Jni.resultNativeGetTour, Program.execute_bind_of_ok sized,
        Program.execute_bind_of_ok (execute_tourNodes read)]
      cases arrayFails with
      | true => rfl
      | false =>
          exact congrArg (fun nodes => some (Except.ok nodes, memory))
            (map_cast_range Int32.ofNat result.tour)

theorem answers_getTour (simulates : language.Simulates lost session objects) (arrayFails : Bool) :
    Answers (language.Simulates lost) (expected objects (.getTour self arrayFails))
      (binding.query session .result self (getTour arrayFails) .tour) := by
  refine simulates.query .result "failed to get result tour" (withHandle_requires _) ?_ ?_
  · intro refusal refused
    rw [expected, answered, Objects.serve, Objects.inspect_of_error refused]
    cases refusal with
    | done value => exact absurd refused (Objects.access_ne_done value)
    | _ => rfl
  · intro result handle found read opened
    rw [getTour, execute_withHandle _ read, execute_getTour arrayFails read, expected, answered,
      Objects.serve, Objects.inspect_of_ok opened]
    refine ⟨_, _, rfl, ?_, simulates⟩
    simp only [present, language, replyOf]
    cases Jni.fitJint result.tour.length <;> cases arrayFails <;> rfl

theorem answers_newModel (simulates : language.Simulates lost session objects) (fails : Bool) :
    Answers (language.Simulates lost)
      (language.answered objects "failed to create model" (.newModel fails))
      (Binding.construct session (newModel allocator fails) .object) := by
  cases fails with
  | true => exact answers_unmade simulates rfl
  | false => exact answers_made (.model {}) simulates (.model false) rfl

theorem answers_newOptions (simulates : language.Simulates lost session objects) (fails : Bool) :
    Answers (language.Simulates lost)
      (language.answered objects "failed to create options" (.newOptions fails))
      (Binding.construct session (newOptions allocator fails) .object) := by
  cases fails with
  | true => exact answers_unmade simulates rfl
  | false => exact answers_made (.options {}) simulates (.options false) rfl

theorem execute_handle {Value : Type} {object : NativeObject} (next : Address → Method Value)
    (read : memory.read handle = some object) :
    (check (requireHandle (language.shown object (some handle))) >>= next).execute memory =
      (next handle).execute memory :=
  execute_withHandle next read

/-- The native method returns the address that the wrapper will have. -/
theorem execute_solverNativeSolve (allocator : Allocator NativeObject) {model : Model}
    {options : Options} {modelHandle optionsHandle : Address} (failure : Option SolveAllocation)
    (readModel : memory.read modelHandle = some (.model model))
    (readOptions : memory.read optionsHandle = some (.options options)) :
    (Jni.solverNativeSolve allocator failure modelHandle optionsHandle).execute memory =
      some ((language.delivered allocator "failed to solve model"
          (model.solveUnder failure options) memory).1.map NativeResource.nativeHandle,
        (language.delivered allocator "failed to solve model"
          (model.solveUnder failure options) memory).2) := by
  have notNull : ¬(modelHandle = 0 ∧ optionsHandle = 0) := fun both =>
    Heap.ne_null_of_read readModel both.1
  rw [Jni.solverNativeSolve, if_neg notNull]
  dsimp only
  rw [execute_native_require _ readModel, execute_native_require _ readOptions,
    Program.execute_bind_of_ok (Program.execute_native_of_some
      (Memory.solve_of_read readModel readOptions))]
  have ends := Model.solve_ends model options failure
  generalize model.solveUnder failure options = answer at ends ⊢
  cases ends with
  | returned | lost => rfl
  | refused code failing =>
      dsimp only [Memory.deliver]
      rw [execute_throw, if_neg failing]
      rfl

/-- A solve of open wrappers wraps what the native method returns. -/
theorem execute_solve (allocator : Allocator NativeObject) {model : Model} {options : Options}
    {modelHandle optionsHandle : Address} (failure : Option SolveAllocation)
    (readModel : memory.read modelHandle = some (.model model))
    (readOptions : memory.read optionsHandle = some (.options options)) :
    (solve allocator failure (some (language.shown (.model model) (some modelHandle)))
      (some (language.shown (.options options) (some optionsHandle)))).execute memory =
      some (language.delivered allocator "failed to solve model"
        (model.solveUnder failure options) memory) := by
  rw [solve, execute_handle _ readModel, execute_handle _ readOptions, Program.execute_bind,
    execute_solverNativeSolve allocator failure readModel readOptions]
  have ends := Model.solve_ends model options failure
  generalize model.solveUnder failure options = answer at ends ⊢
  cases ends <;> rfl

theorem execute_released {Value : Type} {wrapper : NativeResource} {raised : Raised}
    (next : Address → Method Value) (released : language.requireHandle wrapper = .error raised)
    (memory : Memory) :
    (check (requireHandle wrapper) >>= next).execute memory = some (.error raised, memory) :=
  Program.execute_check_error released next memory

theorem answers_solver (simulates : language.Simulates lost session objects)
    (model options : ℕ) (failure : Option SolveAllocation) :
    Answers (language.Simulates (lost ++ objects.leaves (.solve model options failure)))
      (expectedSolve objects model options failure)
      (Binding.construct session (solve allocator failure (binding.find session .model model)
        (binding.find session .options options)) .object) := by
  refine answers_solve allocator (solve allocator failure) (fun _ => rfl) simulates
    (fun _ _ => rfl) (fun _ _ => rfl) ?_ ?_ ?_
  · intro wrapper other raised memory released
    exact execute_released _ released memory
  · intro object handle wrapper raised memory read released
    rw [solve, execute_handle _ read]
    exact execute_released _ released memory
  · intro object settings handle other memory readModel readOptions
    exact execute_solve allocator failure readModel readOptions

theorem answers_modelSolve (simulates : language.Simulates lost session objects) (options : ℕ)
    (failure : Option SolveAllocation) :
    Answers (language.Simulates (lost ++ leaves objects (.modelSolve self options failure)))
      (expected objects (.modelSolve self options failure))
      (session.step allocator (.modelSolve self options failure)) := by
  have solved : Answers (language.Simulates (lost ++ objects.leaves (.solve self options failure)))
      (expectedSolve objects self options failure)
      (Binding.construct session (solve allocator failure (binding.find session .model self)
        (binding.find session .options options)) .object) :=
    answers_solver simulates self options failure
  rw [expected, Session.step]
  cases simulates.locate .model self with
  | missing find access =>
      rw [access, show binding.find session .model self = none from find, leaves, Objects.leaves,
        Objects.solveArguments, access]
      simp only [List.append_nil]
      exact ⟨session, rfl, simulates⟩
  | closed wrapper find released access =>
      rw [show binding.find session .model self = some wrapper from find] at solved ⊢
      rw [access]
      exact solved
  | opened object handle find found read access =>
      rw [show binding.find session .model self = _ from find] at solved ⊢
      rw [access]
      exact solved

theorem release_of_read {object : NativeObject}
    (read : memory.read handle = some object) (releases : memory.release handle = some after) :
    (release (language.shown object (some handle)) handle).execute memory =
      some (.ok (), after) := by
  cases object with
  | model object =>
      exact Program.execute_native_of_some (Memory.delete_of_read .model read releases)
  | options object =>
      exact Program.execute_native_of_some (Memory.delete_of_read .options read releases)
  | result object =>
      exact Program.execute_native_of_some (Memory.delete_of_read .result read releases)

theorem answers_close (simulates : language.Simulates lost session objects) :
    Answers (language.Simulates lost) (expected objects (.close self))
      (session.step allocator (.close self)) := by
  rw [expected, Session.step]
  cases found : session.objects[self]? with
  | none =>
      rw [simulates.beyond found]
      exact ⟨session, rfl, simulates⟩
  | some wrapper =>
      rcases simulates.matched found with ⟨slot, atSlot, paired⟩
      have present : binding.find session wrapper.cls self = some wrapper := by
        simp [Binding.find, binding, found]
      rw [atSlot]
      dsimp only
      rw [Binding.mutate, present, answered, Objects.serve, Objects.closeAt_of_some atSlot]
      cases paired with
      | closed object =>
          refine ⟨_, rfl, ?_⟩
          rw [set_eq_self atSlot]
          change language.Simulates lost
            { session with objects := session.objects.set self (language.shown object none) }
            objects
          rw [set_eq_self found]
          exact simulates
      | opened object handle read =>
          rcases simulates.close found read atSlot with ⟨released, releases, simulated⟩
          have ran : (close (language.shown object (some handle))).execute session.memory =
              some (.ok (language.shown object none), released) := by
            rw [close, nativeHandle_shown, if_neg (Heap.ne_null_of_read read)]
            exact Program.execute_bind_of_ok (release_of_read read releases)
          dsimp only
          rw [ran]
          exact ⟨_, rfl, simulated⟩

/-! ## Sessions -/

/-- Every call but a solve leaves nothing behind. -/
theorem answers_step {call : Call} (simulates : language.Simulates lost session objects)
    (unsolving : ∀ model options failure, call ≠ .solve model options failure ∧
      call ≠ .modelSolve model options failure) :
    Answers (language.Simulates lost) (expected objects call) (session.step allocator call) := by
  cases call with
  | newModel fails => exact answers_newModel simulates fails
  | addNode self failure => exact answers_addNode simulates failure
  | setDistance self source target distance =>
      exact answers_setDistance simulates source target distance
  | validate self => exact answers_validate simulates
  | newOptions fails => exact answers_newOptions simulates fails
  | setTimeLimitMs self value =>
      apply answers_setNumber (fun number options => { options with timeLimitMs := number })
        simulates rfl
      · intro number
        rfl
      · intro number memory after handle options read writes
        exact Memory.setTimeLimitMs_of_read read writes
      · intro number options
        rfl
  | setRandomSeed self value =>
      apply answers_setNumber (fun number options => { options with randomSeed := number })
        simulates rfl
      · intro number
        rfl
      · intro number memory after handle options read writes
        exact Memory.setRandomSeed_of_read read writes
      · intro number options
        rfl
  | setAlgorithm self algorithm => exact answers_setAlgorithm simulates algorithm
  | getStatus self =>
      apply answers_getter (fun result => .status result.status) simulates rfl
      intro handle result read opened
      have ran : (Jni.resultNativeGetStatus handle).execute session.memory =
          some (.ok (Int32.ofNat result.status.value), session.memory) :=
        execute_getField _ read (Memory.getStatus_of_read read)
      refine ⟨.ok result.status, ?_, rfl⟩
      rw [Program.execute_bind_of_ok ran, Program.execute_check, fromNative_value]
  | getAlgorithm self =>
      apply answers_getter (fun result => .algorithm result.algorithm) simulates rfl
      intro handle result read opened
      have ran : (Jni.resultNativeGetAlgorithm handle).execute session.memory =
          some (.ok (Int32.ofNat result.algorithm.value), session.memory) :=
        execute_getField _ read (Memory.getAlgorithm_of_read read)
      have wellFormed := simulates.wellFormed.at_place (Objects.access_eq_ok_iff.mp opened)
      have valid : isValidAlgorithm result.algorithm = true := wellFormed.valid_algorithm
      refine ⟨.ok ⟨result.algorithm, valid⟩, ?_, rfl⟩
      rw [Program.execute_bind_of_ok ran, Program.execute_check]
      exact congrArg (fun outcome => some (outcome, session.memory))
        (fromNative_nativeValue ⟨result.algorithm, valid⟩)
  | getObjective self =>
      apply answers_getter (fun result => .objective result.objective) simulates rfl
      intro handle result read opened
      exact ⟨_, execute_getField _ read (Memory.getObjective_of_read read), rfl⟩
  | getTourSize self =>
      apply answers_getter (fun result => .tourSize result.tour.length) simulates rfl
      intro handle result read opened
      refine ⟨(Jni.fitJint result.tour.length).map Int32.ofNat, ?_, ?_⟩
      · rw [Jni.resultNativeGetTourSize, Program.execute_bind, execute_tourSize read]
        cases Jni.fitJint result.tour.length <;> rfl
      · rw [replyOf]
        cases Jni.fitJint result.tour.length <;> rfl
  | getTour self arrayFails => exact answers_getTour simulates arrayFails
  | close self => exact answers_close simulates
  | solve model options failure => exact absurd rfl (unsolving _ _ _).1
  | modelSolve self options failure => exact absurd rfl (unsolving _ _ _).2

theorem step_simulates (allocator : Allocator NativeObject) :
    Simulation language.Simulates (Session.step allocator) expected leaves := by
  intro lost session objects call simulates
  cases call with
  | solve model options failure => exact answers_solver simulates model options failure
  | modelSolve self options failure => exact answers_modelSolve simulates options failure
  | _ =>
      rw [leaves, List.append_nil]
      · apply answers_step simulates
        simp
      all_goals simp

/-- What a program is answered by a session without handles. -/
def expectedRun (calls : List Call) : List (Except Raised Reply) × Objects :=
  serveCalls expected [] calls

/-- What a program leaves behind for good, oldest first. -/
def lostRun (calls : List Call) : List NativeObject := residues expected leaves [] calls

theorem run_simulates (allocator : Allocator NativeObject) (calls : List Call) :
    Answers (language.Simulates (lostRun calls)) (expectedRun calls)
      (Session.run allocator calls) :=
  (step_simulates allocator).run Language.simulates_start calls

/--
No program makes the binding or the bridge use a native object wrongly, and
every program is answered as by a session that holds its objects directly.
-/
theorem program_refines (allocator : Allocator NativeObject) (calls : List Call) :
    ∃ final, Session.run allocator calls = some ((expectedRun calls).1, final) := by
  rcases run_simulates allocator calls with ⟨final, ran, -⟩
  exact ⟨final, ran⟩

theorem mem_leaves {call : Call} {object : NativeObject} (member : object ∈ leaves objects call) :
    (∃ model options, call = .solve model options (some .tour) ∨
        call = .modelSolve model options (some .tour)) ∧
      ∃ result : Result, object = .result result ∧ result.tour = [] := by
  cases call with
  | solve model options failure =>
      rw [leaves] at member
      rcases Objects.mem_leaves member with ⟨copying, isResult⟩
      simp only [reduceCtorEq, exists_false, or_false, Request.solve.injEq] at copying
      rcases copying with ⟨_, _, -, -, rfl⟩
      exact ⟨⟨model, options, .inl rfl⟩, isResult⟩
  | modelSolve self options failure =>
      rw [leaves] at member
      rcases Objects.mem_leaves member with ⟨copying, isResult⟩
      simp only [reduceCtorEq, exists_false, or_false, Request.solve.injEq] at copying
      rcases copying with ⟨_, _, -, -, rfl⟩
      exact ⟨⟨self, options, .inr rfl⟩, isResult⟩
  | _ => cases member

end TspSolver.Java
