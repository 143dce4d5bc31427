import TspSolver.Bindings.Python
import TspSolver.Bindings.Language
import TspSolver.Machine.UInt64

/-!
# Python sessions refine sessions without handles

The wrappers of a script own the live native objects, one each, and an `Options`
wrapper looks like its native object: it remembers what the object holds. Under
this invariant every call is defined and answers what the session without
handles answers.
-/

namespace TspSolver.Python

open Handles Effect TspSolver.Language

/-! ## What a script sees of a session without handles -/

/-- What an `Options` object remembers of its native object. -/
def settingsOf (options : Options) : Settings where
  timeLimitMs := options.timeLimitMs.toNat
  randomSeed := options.randomSeed.toNat
  algorithm := options.algorithm

/-- The class that wraps a native object. -/
def classOf : NativeObject → WrapperClass
  | .model _ => .model
  | .options options => .options (settingsOf options)
  | .result _ => .result

/-- The name of the class, as the message of a closed wrapper shows it. -/
def kindName : Kind → String
  | .model => "Model"
  | .options => "Options"
  | .result => "Result"

/-- What `_raise_for_error` raises for an error. -/
def raisedFor (context : String) : ErrorCode → Raised
  | .outOfRange => ⟨.indexError, context⟩
  | .invalidArgument | .invalidModel => ⟨.valueError, context⟩
  | _ => ⟨.nativeCallError, context⟩

/-- How a value is shown. -/
def replyOf : Value → Reply
  | .nothing => .nothing
  | .object reference => .object reference
  | .nodeId id => .integer id
  | .status status => .status status
  | .algorithm algorithm => .algorithm algorithm
  | .objective cost => .integer cost.toInt
  | .tourSize size => .integer size
  | .tour nodes => .tour nodes

@[simp]
theorem kind_classOf (object : NativeObject) : (classOf object).kind = object.kind := by
  cases object <;> rfl

/-- The binding as a language. -/
def language : Language NativeResource Raised Reply WrapperClass where
  toBinding := binding
  look := NativeResource.cls
  handle := NativeResource.handle
  wrap cls handle := { cls := cls, handle := handle }
  lookOf := classOf
  requireHandle := requireHandle
  closed kind := ⟨.runtimeError, s!"{kindName kind} has been closed"⟩
  failed := raisedFor
  replyOf value := .ok (replyOf value)
  wrap_eq _ := rfl
  look_wrap _ _ := rfl
  handle_wrap _ _ _ := rfl
  kind_wrap object _ := kind_classOf object
  requireHandle_eq wrapper := by
    rcases wrapper with ⟨cls, - | handle⟩
    · cases cls <;> rfl
    · rfl

@[simp]
theorem language_handle (wrapper : NativeResource) : language.handle wrapper = wrapper.handle := rfl

/-- What a solve raises or returns. -/
def presentSolve : Answer → Except Raised Reply :=
  language.presentSolve ⟨.typeError, "model must be a Model instance"⟩
    ⟨.typeError, "options must be an Options instance or None"⟩ "failed to solve model"

section Expected

variable (objects : Objects)

/-- An attribute of an `Options` object, which outlives its native object. -/
def remembered (self : ℕ) (field : Settings → Reply) : Except Raised Reply × Objects :=
  match objects[self]? with
  | some { object := .options options, .. } => (.ok (field (settingsOf options)), objects)
  | _ => (.error binding.noSuchObject, objects)

/-- The specified outcome of a call, with the objects after it. -/
def expected : Call → Except Raised Reply × Objects
  | .newModel fails => language.answered objects "failed to create model" (.newModel fails)
  | .addNode self failure => language.answered objects "failed to add node" (.addNode self failure)
  | .setDistance self fromNode toNode distance =>
      language.answeredOn objects .model self "failed to set distance"
        ((coerceDistance fromNode toNode distance).map fun (source, target, cost) =>
          .setDistance self source.toNat target.toNat (Int64.ofInt cost))
  | .validate self => language.answered objects "model is incomplete" (.validate self)
  | .newOptions fails => language.answered objects "failed to create options" (.newOptions fails)
  | .timeLimitMs self => remembered objects self fun settings => .integer settings.timeLimitMs
  | .setTimeLimitMs self value =>
      language.answeredOn objects .options self "failed to set time limit"
        ((coerceUint64 value "time_limit_ms").map fun limit =>
          .setTimeLimitMs self (UInt64.ofInt limit))
  | .randomSeed self => remembered objects self fun settings => .integer settings.randomSeed
  | .setRandomSeed self value =>
      language.answeredOn objects .options self "failed to set random seed"
        ((coerceUint64 value "random_seed").map fun seed =>
          .setRandomSeed self (UInt64.ofInt seed))
  | .optionsAlgorithm self =>
      remembered objects self fun settings => .algorithm settings.algorithm
  | .setAlgorithm self value =>
      language.answeredOn objects .options self "failed to set algorithm"
        ((algorithmOf value).map fun algorithm => .setAlgorithm self algorithm)
  | .solve model (some options) _ failure =>
      let served := objects.serve (.solve model options failure)
      (presentSolve served.1, served.2)
  | .solve model none optionsFails failure =>
      match Objects.access .model objects model, optionsFails with
      | .error (.missing kind), _ => (presentSolve (.missing kind), objects)
      | _, true =>
          (language.present "failed to create options" (.failed .allocationFailed), objects)
      | _, false =>
          let served := objects.serve (.solveWithDefaults model failure)
          (presentSolve served.1, served.2)
  | .resultStatus self => language.answered objects "failed to get result status" (.status self)
  | .resultAlgorithm self =>
      language.answered objects "failed to get result algorithm" (.algorithm self)
  | .resultObjective self =>
      language.answered objects "failed to get result objective" (.objective self)
  | .resultTourSize self =>
      language.answered objects "failed to get result tour size" (.tourSize self)
  | .resultTour self => language.answered objects "failed to get result tour" (.tour self)
  | .closed self =>
      match objects[self]? with
      | none => (.error binding.noSuchObject, objects)
      | some slot => (.ok (.flag slot.closed), objects)
  | .close self =>
      match objects[self]? with
      | none => (.error binding.noSuchObject, objects)
      | some slot => language.answered objects "" (.close slot.object.kind self)

/-- What a call leaves behind for good: the result of a solve that could not copy its tour. -/
def leaves : Call → List NativeObject
  | .solve model (some options) _ failure => objects.leaves (.solve model options failure)
  | .solve model none optionsFails failure =>
      if optionsFails then [] else objects.leaves (.solveWithDefaults model failure)
  | _ => []

end Expected

/-! ## Calls -/

variable {lost : List NativeObject} {session : Session} {objects : Objects} {self : ℕ}

theorem execute_require {Value : Type} {object : NativeObject} {handle : Address} {memory : Memory}
    (method : Address → Method Value) (read : memory.read handle = some object) :
    (check (requireHandle (language.shown object (some handle))) >>= method).execute memory =
      (method handle).execute memory := by
  change (check (language.requireHandle (language.shown object (some handle))) >>=
    method).execute memory = _
  exact Language.execute_require method read

theorem execute_released {Value : Type} {wrapper : NativeResource} {raised : Raised}
    (method : Address → Method Value) (released : language.requireHandle wrapper = .error raised)
    (memory : Memory) :
    (check (requireHandle wrapper) >>= method).execute memory = some (.error raised, memory) :=
  Program.execute_check_error released method memory

theorem check_raiseForError (code : ErrorCode) (context : String) :
    raiseForError code.value context =
      if code = .ok then .ok () else .error (raisedFor context code) := by
  cases code <;> rfl

theorem execute_raise {Value : Type} (code : ErrorCode) (context : String)
    (next : Unit → Method Value) (memory : Memory) :
    (check (raiseForError code.value context) >>= next).execute memory =
      if code = .ok then (next ()).execute memory
      else some (.error (raisedFor context code), memory) := by
  rw [Program.execute_bind, Program.execute_check, check_raiseForError]
  split_ifs <;> rfl

theorem answers_addNode (simulates : language.Simulates lost session objects) (failure : Option ℕ) :
    Answers (language.Simulates lost)
      (language.answered objects "failed to add node" (.addNode self failure))
      (binding.query session .model self (addNode failure) fun nodeId => .integer nodeId) := by
  refine simulates.query .model "failed to add node"
    (requiresHandle_bind _) ?_ ?_
  · intro refusal refused
    rw [answered, Objects.serve, Objects.change_of_error refused]
  · intro model handle found read opened
    rcases simulates.storeUnseen .model found read opened
        (.model model (.addNode failure)) rfl with
      ⟨written, writes, simulated⟩
    rw [addNode, execute_require _ read,
      Program.execute_bind_of_ok
        (Program.execute_native_of_some (Memory.addNode_of_read read writes)),
      execute_raise, answered, Objects.serve, Objects.change_of_ok opened, present_answerOf]
    refine ⟨if (model.addNode failure).1 = .ok then .ok ((model.addNode failure).2.2.getD 0)
      else .error (raisedFor "failed to add node" (model.addNode failure).1), written, ?_, ?_,
      simulated⟩ <;> split_ifs <;> rfl

theorem coerceInteger_eq_ok {low high coerced : ℤ} {outside : ExceptionClass} {value : Argument}
    {name : String} (accepted : coerceInteger low high outside value name = .ok coerced) :
    low ≤ coerced ∧ coerced ≤ high := by
  cases value with
  | other equals shown => simp [coerceInteger] at accepted
  | int value shown =>
      simp only [coerceInteger] at accepted
      split_ifs at accepted with beyond
      simp only [Except.ok.injEq] at accepted
      omega

theorem coerceDistance_eq_ok {fromNode toNode distance : Argument} {source target cost : ℤ}
    (accepted : coerceDistance fromNode toNode distance = .ok (source, target, cost)) :
    (0 ≤ source ∧ source < 2 ^ 32) ∧ 0 ≤ target ∧ target < 2 ^ 32 := by
  rw [coerceDistance] at accepted
  cases sourceEq : coerceNodeId fromNode "from_node" with
  | error raised => simp [sourceEq, bind, Except.bind] at accepted
  | ok first =>
      cases targetEq : coerceNodeId toNode "to_node" with
      | error raised => simp [sourceEq, targetEq, bind, Except.bind] at accepted
      | ok second =>
          have sourceBounds := coerceInteger_eq_ok sourceEq
          have targetBounds := coerceInteger_eq_ok targetEq
          cases costEq : coerceInt64 distance "distance" with
          | error raised =>
              simp [sourceEq, targetEq, costEq, bind, Except.bind] at accepted
          | ok third =>
              simp only [sourceEq, targetEq, costEq, bind, Except.bind, pure, Except.pure,
                Except.ok.injEq, Prod.mk.injEq] at accepted
              omega

theorem answers_setDistance (simulates : language.Simulates lost session objects)
    (fromNode toNode distance : Argument) :
    Answers (language.Simulates lost) (expected objects (.setDistance self fromNode toNode distance))
      (binding.query session .model self (setDistance fromNode toNode distance)
        fun _ => .nothing) := by
  rw [expected]
  refine simulates.query .model "failed to set distance"
    (requiresHandle_bind _) ?_ ?_
  · intro refusal refused
    exact answeredOn_of_refused _ refused
  · intro model handle found read opened
    rw [setDistance, execute_require _ read]
    cases coerced : coerceDistance fromNode toNode distance with
    | error raised =>
        rw [Program.execute_check_error rfl, Except.map, answeredOn_of_raised raised opened]
        exact ⟨_, _, rfl, rfl, simulates⟩
    | ok arguments =>
        rcases arguments with ⟨source, target, cost⟩
        rcases coerceDistance_eq_ok coerced with ⟨sourceBounds, targetBounds⟩
        rcases simulates.storeUnseen .model found read opened
            (.model model (.setDistance source.toNat target.toNat (Int64.ofInt cost))) rfl with
          ⟨written, writes, simulated⟩
        rw [Program.execute_check_ok rfl, Except.map, answeredOn_of_ok _ opened, answered,
          Objects.serve, Objects.change_of_ok opened, present_answerOf]
        dsimp only
        rw [Int.emod_eq_of_lt sourceBounds.1 sourceBounds.2,
          Int.emod_eq_of_lt targetBounds.1 targetBounds.2,
          Program.execute_bind_of_ok
            (Program.execute_native_of_some (Memory.setDistance_of_read read writes)),
          Program.execute_check, check_raiseForError]
        refine ⟨_, _, rfl, ?_, simulated⟩
        split_ifs <;> rfl

theorem answers_validate (simulates : language.Simulates lost session objects) :
    Answers (language.Simulates lost) (language.answered objects "model is incomplete" (.validate self))
      (binding.query session .model self validate fun _ => .nothing) := by
  refine simulates.query .model "model is incomplete"
    (requiresHandle_bind _) ?_ ?_
  · intro refusal refused
    rw [answered, Objects.serve, Objects.inspect_of_error refused]
  · intro model handle found read opened
    rw [validate, execute_require _ read,
      Program.execute_bind_of_ok (Program.execute_native_of_some (Memory.validate_of_read read)),
      Program.execute_check, check_raiseForError, answered, Objects.serve,
      Objects.inspect_of_ok opened, present_answerOf]
    refine ⟨_, _, rfl, ?_, simulates⟩
    split_ifs <;> rfl

/-- A setter coerces, changes the native object, and then remembers the same change. -/
theorem answers_setOption {Coerced : Type} {coerced : Except Raised Coerced}
    {call : Address → Coerced → Memory → Option (ErrorCode × Memory)} {context : String}
    {remember : Coerced → Settings → Settings} {request : Coerced → Request}
    (update : Coerced → Options → Options) (simulates : language.Simulates lost session objects)
    (serves : ∀ value, coerced = .ok value → objects.serve (request value) =
      Objects.change .options objects self fun options => (.done .nothing, update value options))
    (runs : ∀ value, coerced = .ok value → ∀ memory after handle options,
      memory.read handle = some (.options options) →
      memory.write handle (.options (update value options)) = some after →
      call handle value memory = some (.ok, after))
    (remembers : ∀ value, coerced = .ok value → ∀ options,
      settingsOf (update value options) = remember value (settingsOf options))
    (listed : ∀ value, coerced = .ok value → ∀ options,
      isValidAlgorithm options.algorithm = true →
        isValidAlgorithm (update value options).algorithm = true) :
    Answers (language.Simulates lost)
      (language.answeredOn objects .options self context (coerced.map request))
      (binding.mutate session NativeType.options.kind self
        (setOption coerced call context remember) .nothing) := by
  cases simulates.locate .options self with
  | missing find refused =>
      rw [answeredOn_of_refused _ refused, Binding.mutate,
        show binding.find _ _ _ = _ from find]
      exact ⟨session, rfl, simulates⟩
  | closed wrapper find released refused =>
      rw [answeredOn_of_refused _ refused, Binding.mutate,
        show binding.find _ _ _ = _ from find]
      refine ⟨session, ?_, simulates⟩
      dsimp only
      rw [setOption, execute_released _ released]
      rfl
  | opened options handle find found read opened =>
      rw [Binding.mutate, show binding.find _ _ _ = _ from find]
      dsimp only
      rw [setOption, execute_require _ read]
      cases coercedEq : coerced with
      | error raised =>
          rw [Program.execute_check_error rfl, Except.map, answeredOn_of_raised raised opened]
          exact ⟨session, rfl, simulates⟩
      | ok value =>
          rcases simulates.store .options found read opened
              (.options options (update value options) (listed value coercedEq options)) with
            ⟨written, writes, simulated⟩
          rw [Program.execute_check_ok rfl,
            Program.execute_bind_of_ok (Program.execute_native_of_some
              (runs value coercedEq _ _ _ _ read writes)),
            execute_raise, if_pos rfl, Program.execute_pure, Except.map,
            answeredOn_of_ok _ opened, answered, serves value coercedEq,
            Objects.change_of_ok opened]
          have kept :
              language.shown (NativeType.options.wrap (update value options)) (some handle) =
                { cls := .options (remember value (settingsOf options)), handle := some handle } :=
            congrArg (fun settings => NativeResource.mk (.options settings) (some handle))
              (remembers value coercedEq options)
          rw [kept] at simulated
          exact ⟨_, rfl, simulated⟩

/-- A getter answers with its field of the result. -/
theorem answers_resultField {Field Value : Type} {stale : Field}
    {call : Address → Ptr Field → Memory → Option ((ErrorCode × Ptr Field) × Memory)}
    {context : String} {convert : Field → Except Raised Value} {reply : Value → Reply}
    {request : Request} (field : Result → Field) (value : Result → TspSolver.Value)
    (simulates : language.Simulates lost session objects)
    (serves : objects.serve request =
      Objects.inspect .result objects self fun result => .done (value result))
    (runs : ∀ memory handle result, memory.read handle = some (.result result) →
      call handle (some stale) memory = some ((.ok, some (field result)), memory))
    (converts : ∀ result, Objects.access .result objects self = .ok result →
      (convert (field result)).map reply = .ok (replyOf (value result))) :
    Answers (language.Simulates lost) (language.answered objects context request)
      (binding.query session NativeType.result.kind self
        (resultField stale call context convert) reply) := by
  refine simulates.query .result context (requiresHandle_bind _) ?_ ?_
  · intro refusal refused
    rw [answered, serves, Objects.inspect_of_error refused]
  · intro result handle found read opened
    rw [resultField, execute_require _ read,
      Program.execute_bind_of_ok (Program.execute_native_of_some (runs _ _ _ read)),
      execute_raise, if_pos rfl, Program.execute_check, answered, serves,
      Objects.inspect_of_ok opened]
    exact ⟨_, _, rfl, converts result opened, simulates⟩

theorem execute_resultTourSize {handle : Address} {memory : Memory} {result : Result}
    (read : memory.read handle = some (.result result)) :
    (resultTourSize (language.shown (.result result) (some handle))).execute memory =
      some (.ok result.tour.length, memory) := by
  rw [resultTourSize, resultField, execute_require _ read,
    Program.execute_bind_of_ok
      (Program.execute_native_of_some (Memory.getTourSize_of_read read)),
    execute_raise, if_pos rfl, Program.execute_check]
  rfl

theorem answers_resultTour (simulates : language.Simulates lost session objects) :
    Answers (language.Simulates lost) (language.answered objects "failed to get result tour" (.tour self))
      (binding.query session .result self resultTour .tour) := by
  refine simulates.query .result "failed to get result tour"
    (requiresHandle_bind _) ?_ ?_
  · intro refusal refused
    rw [answered, Objects.serve, Objects.inspect_of_error refused]
  · intro result handle found read opened
    have sized : (resultTourSize (language.shown (NativeType.result.wrap result)
        (some handle))).execute session.memory = _ := execute_resultTourSize read
    rw [resultTour, execute_require _ read, Program.execute_bind_of_ok sized, answered,
      Objects.serve,
      Objects.inspect_of_ok opened]
    refine ⟨.ok result.tour, session.memory, ?_, rfl, simulates⟩
    split_ifs with noTour
    · rw [Program.execute_pure, List.length_eq_zero_iff.mp noTour]
    · rw [Program.execute_bind_of_ok (Program.execute_native_of_some
          (Memory.getTour_of_read read List.length_replicate rfl)),
        execute_raise, if_pos rfl, Program.execute_pure]
      exact congrArg (fun nodes => some (Except.ok nodes, session.memory)) (map_getD_range _)

variable {allocator : Allocator NativeObject}

theorem answers_newModel (simulates : language.Simulates lost session objects) (fails : Bool) :
    Answers (language.Simulates lost)
      (language.answered objects "failed to create model" (.newModel fails))
      (Binding.construct session (modelInit allocator fails) .object) := by
  cases fails with
  | true => exact answers_unmade simulates rfl
  | false => exact answers_made (.model {}) simulates (.model false) rfl

theorem answers_newOptions (simulates : language.Simulates lost session objects) (fails : Bool) :
    Answers (language.Simulates lost)
      (language.answered objects "failed to create options" (.newOptions fails))
      (Binding.construct session (optionsInit allocator fails) .object) := by
  cases fails with
  | true => exact answers_unmade simulates rfl
  | false => exact answers_made (.options {}) simulates (.options false) rfl

/-- A solve of open wrappers delivers its result as a wrapper. -/
theorem execute_solveWith (allocator : Allocator NativeObject) {model : Model} {options : Options}
    {modelHandle optionsHandle : Address} {memory : Memory} (failure : Option SolveAllocation)
    (readModel : memory.read modelHandle = some (.model model))
    (readOptions : memory.read optionsHandle = some (.options options)) :
    (solveWith allocator failure (language.shown (.model model) (some modelHandle))
      (language.shown (.options options) (some optionsHandle))).execute memory =
      some (language.delivered allocator "failed to solve model"
        (model.solveUnder failure options) memory) := by
  rw [solveWith, execute_require _ readModel, execute_require _ readOptions,
    Program.execute_bind_of_ok (Program.execute_native_of_some
      (Memory.solve_of_read readModel readOptions))]
  have ends := Model.solve_ends model options failure
  generalize model.solveUnder failure options = answer at ends ⊢
  cases ends with
  | returned | lost => rfl
  | refused code failing =>
      dsimp only [Memory.deliver]
      rw [execute_raise, if_neg failing]
      rfl

theorem answers_solvePassed (simulates : language.Simulates lost session objects)
    (model options : ℕ) (optionsFails : Bool) (failure : Option SolveAllocation) :
    Answers (language.Simulates (lost ++ objects.leaves (.solve model options failure)))
      (expected objects (.solve model (some options) optionsFails failure))
      (Binding.construct session (solve allocator optionsFails failure
        (binding.find session .model model) (some (binding.find session .options options)))
        .object) := by
  refine answers_solve allocator
    (fun first second => solve allocator optionsFails failure first (some second))
    (fun _ => rfl) simulates (fun _ _ => rfl) (fun _ _ => rfl) ?_ ?_ ?_
  · intro wrapper other raised memory released
    exact execute_released _ released memory
  · intro object handle wrapper raised memory read released
    rw [solve, solveWith, execute_require _ read]
    exact execute_released _ released memory
  · intro object settings handle other memory readModel readOptions
    exact execute_solveWith allocator failure readModel readOptions

/-- Options made for one call are released after it, whatever it did. -/
theorem execute_owned {body : NativeResource → Method NativeResource}
    {outcome : Except Raised NativeResource} {memory middle final : Memory}
    (ran : (body (language.shown (.options {}) (some (allocator.place memory)))).execute
      (memory.allocate allocator (.options {})).2 = some (outcome, middle))
    (read : middle.read (allocator.place memory) = some (.options {}))
    (releases : middle.release (allocator.place memory) = some final) :
    (optionsInit allocator false >>= fun owned => ensure (body owned) (release owned)).execute
      memory = some (outcome, final) := by
  rw [Program.execute_bind_of_ok rfl]
  apply Program.execute_ensure ran
  exact Memory.delete_of_read NativeType.options read releases

/-- Options made for one call are there to be released, and a lost result stays behind. -/
theorem answers_owned (allocator : Allocator NativeObject) (failure : Option SolveAllocation)
    {object : Model} {handle : Address} {place : ℕ} (simulates : language.Simulates lost session objects)
    (readModel : session.memory.read handle = some (.model object))
    (openModel : Objects.access .model objects place = .ok object) :
    Answers (language.Simulates (lost ++ object.lostBy {} failure))
      (language.present "failed to solve model" (objects.solveWith object {} failure).1,
        (objects.solveWith object {} failure).2)
      (Binding.construct session (solve allocator false failure
        (some (language.shown (.model object) (some handle))) none) .object) := by
  have notNull := allocator.place_ne_null session.memory
  have started := simulates.create allocator (.options false)
  have atModel := (Heap.read_allocate_of_mem allocator (.options {})
    (Heap.mem_of_read readModel)).trans readModel
  have atOptions := Heap.read_allocate_place allocator (.options {}) session.memory
  have ran := execute_solveWith allocator failure atModel atOptions
  have ends := Model.solve_ends object {} failure
  rw [Objects.solveWith, Model.lostBy]
  generalize object.solveUnder failure {} = answer at ran ends ⊢
  cases ends with
  | returned result solved =>
      have slot := Objects.access_eq_ok_iff.mp openModel
      have source : (objects ++ [{ object := .options {} }])[place]? =
          some { object := .model object } :=
        (List.getElem?_append_left (List.getElem?_eq_some_iff.mp slot).1).trans slot
      have solves : Solves _ (.solveWithDefaults place failure) object {} := .defaults source
      have finished := started.create allocator (.result solves solved)
      rw [List.append_assoc, List.append_assoc] at finished
      rcases Language.Simulates.discard notNull finished simulates.length_eq with
        ⟨temporary, released, releases, kept⟩
      rw [Option.map_none, Option.toList_none, List.append_nil]
      exact answers_wrapped simulates.length_eq (execute_owned ran temporary releases) kept
  | lost result =>
      rcases Language.Simulates.discard notNull (started.lose allocator)
        simulates.length_eq with ⟨temporary, released, releases, kept⟩
      simp only [List.append_nil] at kept
      exact answers_raised (execute_owned ran temporary releases) kept
  | refused code failing =>
      rcases Language.Simulates.discard notNull started simulates.length_eq with
        ⟨temporary, released, releases, kept⟩
      simp only [List.append_nil] at kept
      rw [Option.map_none, Option.toList_none, List.append_nil]
      exact answers_raised (execute_owned ran temporary releases) kept

theorem answers_solveWithDefaults (simulates : language.Simulates lost session objects)
    (model : ℕ) (optionsFails : Bool) (failure : Option SolveAllocation) :
    Answers
      (language.Simulates (lost ++ leaves objects (.solve model none optionsFails failure)))
      (expected objects (.solve model none optionsFails failure))
      (Binding.construct session (solve allocator optionsFails failure
        (binding.find session .model model) none) .object) := by
  cases simulates.locate .model model with
  | missing find noModel =>
      rw [show binding.find session .model model = none from find]
      simp only [expected, leaves, Objects.leaves, noModel, ite_self, List.append_nil]
      exact answers_unmade simulates rfl
  | closed wrapper find closed noModel =>
      rw [show binding.find session .model model = _ from find]
      simp only [leaves, Objects.leaves, noModel, ite_self, List.append_nil]
      cases optionsFails with
      | true =>
          simp only [expected, noModel]
          exact answers_unmade simulates rfl
      | false =>
          have started := simulates.create allocator (.options false)
          rcases Language.Simulates.discard (allocator.place_ne_null session.memory) started
            simulates.length_eq with ⟨temporary, released, releases, kept⟩
          simp only [List.append_nil] at kept
          simp only [expected, noModel, Objects.serve]
          refine answers_raised (execute_owned ?_ temporary releases) kept
          exact Program.execute_check_error closed _ _
  | opened object handle find found readModel openModel =>
      rw [show binding.find session .model model = _ from find]
      cases optionsFails with
      | true =>
          simp only [expected, leaves, openModel, if_true, List.append_nil]
          exact answers_unmade simulates rfl
      | false =>
          simp only [expected, leaves, Objects.leaves, Objects.serve, openModel, presentSolve,
            presentSolve_solveWith, Bool.false_eq_true, if_false]
          exact answers_owned allocator failure simulates readModel openModel

theorem release_of_read {object : NativeObject} {handle : Address} {memory after : Memory}
    (read : memory.read handle = some object) (releases : memory.release handle = some after) :
    release (language.shown object (some handle)) memory = some ((), after) := by
  cases object with
  | model object => exact Memory.delete_of_read .model read releases
  | options object => exact Memory.delete_of_read .options read releases
  | result object => exact Memory.delete_of_read .result read releases

theorem answers_close (simulates : language.Simulates lost session objects) :
    Answers (language.Simulates lost) (expected objects (.close self))
      (session.step allocator (.close self)) := by
  rw [expected, Session.step]
  cases found : session.objects[self]? with
  | none =>
      rw [simulates.beyond found]
      exact ⟨session, rfl, simulates⟩
  | some wrapper =>
      rcases simulates.matched found with ⟨slot, atSlot, paired⟩
      have present : binding.find session wrapper.cls.kind self = some wrapper := by
        simp [Binding.find, binding, found]
      rw [atSlot]
      dsimp only
      rw [Binding.mutate, present, answered, Objects.serve, Objects.closeAt_of_some atSlot]
      cases paired with
      | closed object =>
          refine ⟨_, rfl, ?_⟩
          rw [set_eq_self atSlot]
          change language.Simulates lost
            { session with objects := session.objects.set self (language.shown object none) }
            objects
          rw [set_eq_self found]
          exact simulates
      | opened object handle read =>
          rcases simulates.close found read atSlot with ⟨released, releases, simulated⟩
          have ran : (close (language.shown object (some handle))).execute session.memory =
              some (.ok (language.shown object none), released) := by
            rw [close, Program.execute_bind_of_ok
              (Program.execute_native_of_some (release_of_read read releases))]
            rfl
          dsimp only
          rw [ran]
          exact ⟨_, rfl, simulated⟩

theorem answers_remembered (simulates : language.Simulates lost session objects)
    (field : Settings → Reply) :
    Answers (language.Simulates lost) (remembered objects self field)
      (binding.peek session .options self fun object => field object.settings) := by
  rw [remembered, Binding.peek]
  cases found : session.objects[self]? with
  | none =>
      rw [simulates.beyond found, Binding.find, found]
      exact ⟨session, rfl, simulates⟩
  | some wrapper =>
      rcases simulates.matched found with ⟨slot, atSlot, paired⟩
      rw [atSlot, Binding.find, found]
      cases paired with
      | closed object => cases object <;> exact ⟨session, rfl, simulates⟩
      | opened object handle read => cases object <;> exact ⟨session, rfl, simulates⟩

theorem answers_closed (simulates : language.Simulates lost session objects) :
    Answers (language.Simulates lost) (expected objects (.closed self))
      (session.step allocator (.closed self)) := by
  rw [expected, Session.step]
  cases found : session.objects[self]? with
  | none =>
      rw [simulates.beyond found]
      exact ⟨session, rfl, simulates⟩
  | some wrapper =>
      rcases simulates.matched found with ⟨slot, atSlot, paired⟩
      rw [atSlot]
      cases paired <;> exact ⟨session, rfl, simulates⟩

/-! ## Sessions -/

theorem algorithmOf_ofInt {algorithm : Algorithm} (valid : isValidAlgorithm algorithm = true) :
    algorithmOf (.ofInt algorithm.value) = .ok algorithm := by
  cases algorithm with
  | unlisted value => cases valid
  | _ => rfl

theorem algorithmOf_eq_ok {value : Argument} {algorithm : Algorithm}
    (accepted : algorithmOf value = .ok algorithm) :
    isValidAlgorithm algorithm = true ∧ Algorithm.ofValue algorithm.value = algorithm := by
  unfold algorithmOf at accepted
  split at accepted
  case h_7 =>
    -- Showing the value never ends in an algorithm.
    cases shown : value.repr <;> simp [shown, bind, Except.bind] at accepted
  all_goals
    cases accepted
    exact ⟨rfl, rfl⟩

theorem statusOf_value (status : Status) : statusOf status.value = .ok status := by
  cases status <;> rfl

/-- Every call but a solve leaves nothing behind. -/
theorem answers_step {call : Call} (simulates : language.Simulates lost session objects)
    (unsolving : ∀ model options optionsFails failure,
      call ≠ .solve model options optionsFails failure) :
    Answers (language.Simulates lost) (expected objects call) (session.step allocator call) := by
  cases call with
  | newModel fails => exact answers_newModel simulates fails
  | addNode self failure => exact answers_addNode simulates failure
  | setDistance self fromNode toNode distance =>
      exact answers_setDistance simulates fromNode toNode distance
  | validate self => exact answers_validate simulates
  | newOptions fails => exact answers_newOptions simulates fails
  | timeLimitMs self =>
      exact answers_remembered simulates fun settings => .integer settings.timeLimitMs
  | setTimeLimitMs self value =>
      apply answers_setOption
        (fun limit options => { options with timeLimitMs := UInt64.ofInt limit }) simulates
      · intro limit _
        rfl
      · intro limit _ memory after handle options read writes
        exact Memory.setTimeLimitMs_of_read read writes
      · intro limit accepted options
        rcases coerceInteger_eq_ok accepted with ⟨low, high⟩
        simp only [settingsOf, UInt64.toNat_ofInt_of_le low high]
      · intro limit _ options valid
        exact valid
  | randomSeed self =>
      exact answers_remembered simulates fun settings => .integer settings.randomSeed
  | setRandomSeed self value =>
      apply answers_setOption
        (fun seed options => { options with randomSeed := UInt64.ofInt seed }) simulates
      · intro seed _
        rfl
      · intro seed _ memory after handle options read writes
        exact Memory.setRandomSeed_of_read read writes
      · intro seed accepted options
        rcases coerceInteger_eq_ok accepted with ⟨low, high⟩
        simp only [settingsOf, UInt64.toNat_ofInt_of_le low high]
      · intro seed _ options valid
        exact valid
  | optionsAlgorithm self =>
      exact answers_remembered simulates fun settings => .algorithm settings.algorithm
  | setAlgorithm self value =>
      apply answers_setOption (fun algorithm options => { options with algorithm := algorithm })
        simulates
      · intro algorithm accepted
        rw [Objects.serve]
        simp only [(algorithmOf_eq_ok accepted).1, if_true]
      · intro algorithm accepted memory after handle options read writes
        rcases algorithmOf_eq_ok accepted with ⟨valid, same⟩
        rw [same]
        exact Memory.setAlgorithm_of_read valid read writes
      · intro algorithm _ options
        rfl
      · intro algorithm accepted options _
        exact (algorithmOf_eq_ok accepted).1
  | resultStatus self =>
      apply answers_resultField Result.status (fun result => .status result.status) simulates rfl
      · intro memory handle result read
        exact Memory.getStatus_of_read read
      · intro result _
        rw [statusOf_value]
        rfl
  | resultAlgorithm self =>
      apply answers_resultField Result.algorithm (fun result => .algorithm result.algorithm)
        simulates rfl
      · intro memory handle result read
        exact Memory.getAlgorithm_of_read read
      · intro result opened
        have wellFormed := simulates.wellFormed.at_place (Objects.access_eq_ok_iff.mp opened)
        rw [algorithmOf_ofInt wellFormed.valid_algorithm]
        rfl
  | resultObjective self =>
      apply answers_resultField Result.objective (fun result => .objective result.objective)
        simulates rfl
      · intro memory handle result read
        exact Memory.getObjective_of_read read
      · intro result _
        rfl
  | resultTourSize self =>
      apply answers_resultField (fun result => result.tour.length)
        (fun result => .tourSize result.tour.length) simulates rfl
      · intro memory handle result read
        exact Memory.getTourSize_of_read read
      · intro result _
        rfl
  | resultTour self => exact answers_resultTour simulates
  | closed self => exact answers_closed simulates
  | close self => exact answers_close simulates
  | solve model options optionsFails failure => exact absurd rfl (unsolving _ _ _ _)

theorem step_simulates (allocator : Allocator NativeObject) :
    Simulation language.Simulates (Session.step allocator) expected leaves := by
  intro lost session objects call simulates
  cases call with
  | solve model options optionsFails failure =>
      cases options with
      | none => exact answers_solveWithDefaults simulates model optionsFails failure
      | some options => exact answers_solvePassed simulates model options optionsFails failure
  | _ =>
      rw [leaves, List.append_nil]
      · apply answers_step simulates
        simp
      all_goals simp

/-- What a script is answered by a session without handles. -/
def expectedRun (calls : List Call) : List (Except Raised Reply) × Objects :=
  serveCalls expected [] calls

/-- What a script leaves behind for good, oldest first. -/
def lostRun (calls : List Call) : List NativeObject := residues expected leaves [] calls

theorem run_simulates (allocator : Allocator NativeObject) (calls : List Call) :
    Answers (language.Simulates (lostRun calls)) (expectedRun calls)
      (Session.run allocator calls) :=
  (step_simulates allocator).run Language.simulates_start calls

/--
No script makes the binding use a native object wrongly, and every script is
answered as by a session that holds its objects directly.
-/
theorem run_refines (allocator : Allocator NativeObject) (calls : List Call) :
    ∃ final, Session.run allocator calls = some ((expectedRun calls).1, final) := by
  rcases run_simulates allocator calls with ⟨final, ran, -⟩
  exact ⟨final, ran⟩

theorem mem_leaves {call : Call} {object : NativeObject} (member : object ∈ leaves objects call) :
    (∃ model options optionsFails, call = .solve model options optionsFails (some .tour)) ∧
      ∃ result : Result, object = .result result ∧ result.tour = [] := by
  cases call with
  | solve model options optionsFails failure =>
      have left : object ∈ objects.leaves (.solveWithDefaults model failure) ∨
          ∃ passed, object ∈ objects.leaves (.solve model passed failure) := by
        cases options with
        | some options => exact .inr ⟨options, member⟩
        | none =>
            rw [leaves] at member
            split_ifs at member
            · cases member
            · exact .inl member
      rcases left with fromDefaults | ⟨passed, fromPassed⟩
      · rcases Objects.mem_leaves fromDefaults with ⟨copying, isResult⟩
        simp only [reduceCtorEq, exists_false, false_or, Request.solveWithDefaults.injEq] at copying
        rcases copying with ⟨_, -, rfl⟩
        exact ⟨⟨model, options, optionsFails, rfl⟩, isResult⟩
      · rcases Objects.mem_leaves fromPassed with ⟨copying, isResult⟩
        simp only [reduceCtorEq, exists_false, or_false, Request.solve.injEq] at copying
        rcases copying with ⟨_, _, -, -, rfl⟩
        exact ⟨⟨model, options, optionsFails, rfl⟩, isResult⟩
  | _ => cases member

/-- An open `Options` wrapper remembers exactly what its native object holds. -/
theorem run_remembers (allocator : Allocator NativeObject) (calls : List Call) :
    ∃ outcomes final, Session.run allocator calls = some (outcomes, final) ∧
      ∀ (self : ℕ) (settings : Settings) (handle : Address),
        final.objects[self]? = some { cls := .options settings, handle := some handle } →
        ∃ options, final.memory.read handle = some (.options options) ∧
          settings = settingsOf options := by
  rcases run_simulates allocator calls with ⟨final, ran, simulates⟩
  refine ⟨_, final, ran, ?_⟩
  intro self settings handle found
  rcases simulates.matched found with ⟨slot, -, paired⟩
  generalize wrapperEq : ({ cls := .options settings, handle := some handle } : NativeResource) =
    wrapper at paired
  cases paired with
  | closed object => cases congrArg NativeResource.handle wrapperEq
  | opened object address read =>
      cases object with
      | options options =>
          cases congrArg NativeResource.handle wrapperEq
          cases congrArg NativeResource.cls wrapperEq
          exact ⟨options, read, rfl⟩
      | model model => cases congrArg NativeResource.cls wrapperEq
      | result result => cases congrArg NativeResource.cls wrapperEq

end TspSolver.Python
