import TspSolver.CApi.Memory

/-!
# Sessions without handles

What the library is for, seen from a language with objects: a session is a list
of models, options and results, each with its value and a mark once it has been
closed. Requests read and change these values directly. There is no memory, so
nothing can be released twice or used after its end; the bindings are compared
with this session. What a request leaves in the memory of the library for good
is said on its own.
-/

namespace TspSolver

/-- An object of a session. Its last value stays after it has been closed. -/
structure Slot where
  object : NativeObject
  closed : Bool := false
deriving DecidableEq, Repr

/-- The value of an object that is still open. -/
def Slot.live (slot : Slot) : Option NativeObject :=
  if slot.closed then none else some slot.object

theorem Slot.live_eq_none_iff {slot : Slot} : slot.live = none ↔ slot.closed = true := by
  simp [live]

theorem Slot.live_eq_some_iff {slot : Slot} {object : NativeObject} :
    slot.live = some object ↔ slot.closed = false ∧ slot.object = object := by
  simp [live]

/-- The objects of a session, in the order in which they were made. -/
abbrev Objects := List Slot

/-- What a request can return. -/
inductive Value where
  | nothing
  | object (reference : ℕ)
  | nodeId (id : ℕ)
  | status (status : Status)
  | algorithm (algorithm : Algorithm)
  | objective (cost : Cost)
  | tourSize (size : ℕ)
  | tour (nodes : List ℕ)
deriving DecidableEq, Repr

/-- What a request is answered: a refusal of the session, an error or a value. -/
inductive Answer where
  | missing (kind : Kind)
  | closed (kind : Kind)
  | failed (code : ErrorCode)
  | done (value : Value)
deriving DecidableEq, Repr

/-- What can be asked of a session; references are positions in the list of objects. -/
inductive Request where
  | newModel (fails : Bool)
  | addNode (self : ℕ) (failure : Option ℕ)
  | setDistance (self source target : ℕ) (distance : Cost)
  | validate (self : ℕ)
  | newOptions (fails : Bool)
  | setTimeLimitMs (self : ℕ) (value : UInt64)
  | setRandomSeed (self : ℕ) (value : UInt64)
  | setAlgorithm (self : ℕ) (value : Algorithm)
  | solve (model options : ℕ) (failure : Option SolveAllocation)
  | solveWithDefaults (model : ℕ) (failure : Option SolveAllocation)
  | status (self : ℕ)
  | algorithm (self : ℕ)
  | objective (self : ℕ)
  | tourSize (self : ℕ)
  | tour (self : ℕ)
  | close (kind : Kind) (self : ℕ)
deriving DecidableEq, Repr

/-- The value of a call that succeeds, or its error. -/
def answerOf (code : ErrorCode) (value : Value) : Answer :=
  if code = .ok then .done value else .failed code

namespace Objects

section Access

variable {Object : Type} (type : NativeType Object) (objects : Objects) (self : ℕ)

/-- The open object of a type behind a reference, or why there is none. -/
def access : Except Answer Object :=
  match objects[self]? with
  | none => .error (.missing type.kind)
  | some slot =>
      match type.view slot.object with
      | none => .error (.missing type.kind)
      | some object => if slot.closed then .error (.closed type.kind) else .ok object

/-- The session with a new value at a reference. -/
def store (object : Object) : Objects :=
  objects.set self { object := type.wrap object }

/-- A request that looks at one object. -/
def inspect (answer : Object → Answer) : Answer × Objects :=
  match access type objects self with
  | .error refusal => (refusal, objects)
  | .ok object => (answer object, objects)

/-- A request that changes one object, whether it succeeds or not. -/
def change (call : Object → Answer × Object) : Answer × Objects :=
  match access type objects self with
  | .error refusal => (refusal, objects)
  | .ok object => ((call object).1, store type objects self (call object).2)

variable {type objects self} {object : Object} {refusal : Answer}

theorem access_ne_done (value : Value) :
    access type objects self ≠ .error (.done value) := by
  rw [access]
  split
  · simp
  · split
    · simp
    · split_ifs <;> simp

theorem inspect_of_ok (opened : access type objects self = .ok object) (answer : Object → Answer) :
    inspect type objects self answer = (answer object, objects) := by
  rw [inspect, opened]

theorem inspect_of_error (refused : access type objects self = .error refusal)
    (answer : Object → Answer) : inspect type objects self answer = (refusal, objects) := by
  rw [inspect, refused]

theorem change_of_ok (opened : access type objects self = .ok object)
    (call : Object → Answer × Object) :
    change type objects self call = ((call object).1, store type objects self (call object).2) := by
  rw [change, opened]

theorem change_of_error (refused : access type objects self = .error refusal)
    (call : Object → Answer × Object) : change type objects self call = (refusal, objects) := by
  rw [change, refused]

end Access

/-- A new object goes to the end. -/
def create (objects : Objects) (object : NativeObject) (fails : Bool) : Answer × Objects :=
  if fails then (.failed .allocationFailed, objects)
  else (.done (.object objects.length), objects ++ [{ object := object }])

/-- The result of a solve is a new object. -/
def solveWith (objects : Objects) (model : Model) (options : Options)
    (failure : Option SolveAllocation) : Answer × Objects :=
  let answer := model.solveUnder failure options
  match answer.result with
  | some result => (.done (.object objects.length), objects ++ [{ object := .result result }])
  | none => (.failed answer.code, objects)

/-- Whatever state an object is in, it can be closed, once and again. -/
def closeAt (objects : Objects) (kind : Kind) (self : ℕ) : Answer × Objects :=
  match objects[self]? with
  | none => (.missing kind, objects)
  | some slot =>
      if slot.object.kind = kind then
        (.done .nothing, objects.set self { slot with closed := true })
      else (.missing kind, objects)

theorem closeAt_of_some {objects : Objects} {self : ℕ} {slot : Slot}
    (found : objects[self]? = some slot) :
    objects.closeAt slot.object.kind self =
      (.done .nothing, objects.set self { slot with closed := true }) := by
  simp [closeAt, found]

/-- Missing arguments of a solve are reported before closed ones, the model before the options. -/
def solveArguments (objects : Objects) (model options : ℕ) : Except Answer (Model × Options) :=
  match access .model objects model, access .options objects options with
  | .ok object, .ok settings => .ok (object, settings)
  | .error (.missing kind), _ => .error (.missing kind)
  | _, .error (.missing kind) => .error (.missing kind)
  | .error refusal, _ => .error refusal
  | _, .error refusal => .error refusal

/-- The answer to a request, with the objects after it. -/
def serve (objects : Objects) : Request → Answer × Objects
  | .newModel fails => objects.create (.model {}) fails
  | .addNode self failure => change .model objects self fun model =>
      let answer := model.addNode failure
      (answerOf answer.1 (.nodeId (answer.2.2.getD 0)), answer.2.1)
  | .setDistance self source target distance => change .model objects self fun model =>
      let answer := model.setDistance source target distance
      (answerOf answer.1 .nothing, answer.2)
  | .validate self => inspect .model objects self fun model => answerOf model.validate .nothing
  | .newOptions fails => objects.create (.options {}) fails
  | .setTimeLimitMs self value => change .options objects self fun options =>
      (.done .nothing, { options with timeLimitMs := value })
  | .setRandomSeed self value => change .options objects self fun options =>
      (.done .nothing, { options with randomSeed := value })
  | .setAlgorithm self value => change .options objects self fun options =>
      if isValidAlgorithm value then (.done .nothing, { options with algorithm := value })
      else (.failed .invalidArgument, options)
  | .solve model options failure =>
      match objects.solveArguments model options with
      | .error refusal => (refusal, objects)
      | .ok (object, settings) => objects.solveWith object settings failure
  | .solveWithDefaults model failure =>
      match access .model objects model with
      | .error refusal => (refusal, objects)
      | .ok object => objects.solveWith object {} failure
  | .status self => inspect .result objects self fun result => .done (.status result.status)
  | .algorithm self =>
      inspect .result objects self fun result => .done (.algorithm result.algorithm)
  | .objective self =>
      inspect .result objects self fun result => .done (.objective result.objective)
  | .tourSize self =>
      inspect .result objects self fun result => .done (.tourSize result.tour.length)
  | .tour self => inspect .result objects self fun result => .done (.tour result.tour)
  | .close kind self => objects.closeAt kind self

/-- What a request leaves behind for good. -/
def leaves (objects : Objects) : Request → List NativeObject
  | .solve model options failure =>
      match objects.solveArguments model options with
      | .error _ => []
      | .ok (object, settings) => object.lostBy settings failure
  | .solveWithDefaults model failure =>
      match access .model objects model with
      | .error _ => []
      | .ok object => object.lostBy {} failure
  | _ => []

end Objects

end TspSolver
