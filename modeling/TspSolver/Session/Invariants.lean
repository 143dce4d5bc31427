import TspSolver.Session.Objects
import TspSolver.Solve.Failures
import TspSolver.Store.LastWrites

/-!
# What a request can do to a session

A request leaves the objects as they are, adds one, changes a model or options
object, or closes an object. From this one description follows the invariant of
every session: each result, still open or not, remembers a solve of a model that
calls can build.
-/

namespace TspSolver

/-- How an open object may change under a request. -/
inductive Evolves : NativeObject → NativeObject → Prop where
  | model (model : Model) (call : Call) : Evolves (.model model) (.model (model.apply call))
  | options (options changed : Options)
      (listed : isValidAlgorithm options.algorithm = true →
        isValidAlgorithm changed.algorithm = true) :
      Evolves (.options options) (.options changed)

/-- A request solves an open model under open options, or under the default ones. -/
inductive Solves (objects : Objects) : Request → Model → Options → Prop where
  | passed {place other : ℕ} {model : Model} {options : Options}
      {failure : Option SolveAllocation}
      (source : objects[place]? = some { object := .model model })
      (given : objects[other]? = some { object := .options options }) :
      Solves objects (.solve place other failure) model options
  | defaults {place : ℕ} {model : Model} {failure : Option SolveAllocation}
      (source : objects[place]? = some { object := .model model }) :
      Solves objects (.solveWithDefaults place failure) model {}

/-- Where a new object comes from. -/
inductive Created (objects : Objects) : Request → NativeObject → Prop where
  | model (fails : Bool) : Created objects (.newModel fails) (.model {})
  | options (fails : Bool) : Created objects (.newOptions fails) (.options {})
  | result {request : Request} {model : Model} {options : Options} {result : Result}
      (solves : Solves objects request model options)
      (solved : model.solve options = (.ok, some result)) :
      Created objects request (.result result)

/-- All that a request can do, with the answer it gets. -/
inductive Step (before : Objects) (request : Request) : Answer → Objects → Prop where
  | same (answer : Answer) (unmade : ∀ reference, answer ≠ .done (.object reference)) :
      Step before request answer before
  | created (object : NativeObject) (origin : Created before request object) :
      Step before request (.done (.object before.length)) (before ++ [{ object := object }])
  | changed (answer : Answer) (self : ℕ) (old new : NativeObject)
      (unmade : ∀ reference, answer ≠ .done (.object reference))
      (found : before[self]? = some { object := old }) (evolves : Evolves old new) :
      Step before request answer (before.set self { object := new })
  | closed (self : ℕ) (slot : Slot) (found : before[self]? = some slot) :
      Step before request (.done .nothing) (before.set self { slot with closed := true })

/-- What a result tells of the solve that made it. -/
structure Traces (model : Model) (options : Options) (result : Result) : Prop where
  complete : model.isComplete = true
  valid : isValidAlgorithm options.algorithm = true
  algorithm_eq : result.algorithm = resolveAlgorithm options.algorithm
  status_eq : result.status =
    if options.timeLimitMs = 0 then .timeLimit
    else if options.algorithm = .heldKarp then .optimal else .feasible

theorem traces_of_solve {model : Model} {options : Options} {result : Result}
    (solved : model.solve options = (.ok, some result)) : Traces model options result := by
  rcases Model.accepted_of_solve solved with ⟨complete, valid⟩
  by_cases noTime : options.timeLimitMs = 0
  · rw [Model.result_of_no_time noTime solved]
    exact ⟨complete, valid, rfl, (if_pos noTime).symm⟩
  · rcases Model.dispatch_of_solve noTime solved with ⟨-, -, tour, -, rfl⟩
    refine ⟨complete, valid, rfl, ?_⟩
    simp only [Model.resultOf, resolveAlgorithm_eq_heldKarp_iff, if_neg noTime]

theorem Objects.mem_leaves {objects : Objects} {request : Request} {object : NativeObject}
    (member : object ∈ objects.leaves request) :
    ((∃ model options, request = .solve model options (some .tour)) ∨
        ∃ model, request = .solveWithDefaults model (some .tour)) ∧
      ∃ result : Result, object = .result result ∧ result.tour = [] := by
  cases request with
  | solve model options failure =>
      rw [leaves] at member
      split at member
      · cases member
      · rcases Model.mem_lostBy_iff.mp member with ⟨rfl, result, -, -, objectEq⟩
        exact ⟨.inl ⟨model, options, rfl⟩, _, objectEq, rfl⟩
  | solveWithDefaults model failure =>
      rw [leaves] at member
      split at member
      · cases member
      · rcases Model.mem_lostBy_iff.mp member with ⟨rfl, result, -, -, objectEq⟩
        exact ⟨.inr ⟨model, rfl⟩, _, objectEq, rfl⟩
  | _ => cases member

/-- Results carry an algorithm that is neither the default nor unlisted. -/
theorem Traces.valid_algorithm {model : Model} {options : Options} {result : Result}
    (traces : Traces model options result) :
    isValidAlgorithm result.algorithm = true ∧ result.algorithm ≠ .default := by
  rw [traces.algorithm_eq, resolveAlgorithm]
  split_ifs with isDefault
  · exact ⟨rfl, by simp⟩
  · exact ⟨traces.valid, isDefault⟩

namespace Objects

variable {Object : Type} {type : NativeType Object} {objects : Objects} {self : ℕ}

theorem access_eq_ok_iff {object : Object} :
    access type objects self = .ok object ↔
      objects[self]? = some { object := type.wrap object } := by
  rw [access]
  rcases objects[self]? with - | ⟨held, isClosed⟩
  · simp
  · cases viewEq : type.view held with
    | none =>
        simp only [viewEq, reduceCtorEq, Option.some.injEq, Slot.mk.injEq, false_iff]
        rintro ⟨rfl, -⟩
        simp at viewEq
    | some viewed =>
        rw [type.view_eq_some_iff] at viewEq
        subst viewEq
        cases isClosed <;> simp

section Steps

variable {request : Request}

theorem access_unmade {refusal : Answer} (refused : access type objects self = .error refusal)
    (reference : ℕ) : refusal ≠ .done (.object reference) := by
  rintro rfl
  exact access_ne_done _ refused

/-- An opened object changes as the call says; a refused request changes nothing. -/
theorem step_change (call : Object → Answer × Object)
    (unmade : ∀ object reference, (call object).1 ≠ .done (.object reference))
    (evolves : ∀ object, Evolves (type.wrap object) (type.wrap (call object).2)) :
    Step objects request (change type objects self call).1 (change type objects self call).2 := by
  rw [change]
  rcases accessEq : access type objects self with refusal | object
  · exact .same _ (access_unmade accessEq)
  · exact .changed _ self _ _ (unmade object) (access_eq_ok_iff.mp accessEq) (evolves object)

theorem inspect_snd (answer : Object → Answer) :
    (inspect type objects self answer).2 = objects := by
  rw [inspect]
  cases access type objects self <;> rfl

theorem step_inspect (answer : Object → Answer)
    (unmade : ∀ object reference, answer object ≠ .done (.object reference)) :
    Step objects request (inspect type objects self answer).1
      (inspect type objects self answer).2 := by
  rw [inspect]
  rcases accessEq : access type objects self with refusal | object
  · exact .same _ (access_unmade accessEq)
  · exact .same _ (unmade object)

theorem step_create (object : NativeObject) (fails : Bool)
    (origin : Created objects request object) :
    Step objects request (objects.create object fails).1 (objects.create object fails).2 := by
  cases fails with
  | true => exact .same _ (by simp [create])
  | false => exact .created object origin

theorem step_solveWith {model : Model} {options : Options} (failure : Option SolveAllocation)
    (solves : Solves objects request model options) :
    Step objects request (objects.solveWith model options failure).1
      (objects.solveWith model options failure).2 := by
  rw [solveWith]
  cases returned : (model.solveUnder failure options).result with
  | none => exact .same _ (by simp)
  | some result =>
      exact .created _ (.result solves (Model.solve_of_returned returned).1)

theorem step_closeAt (kind : Kind) :
    Step objects request (objects.closeAt kind self).1 (objects.closeAt kind self).2 := by
  rw [closeAt]
  cases found : objects[self]? with
  | none => exact .same _ (by simp)
  | some slot =>
      dsimp only
      split_ifs
      · exact .closed self slot found
      · exact .same _ (by simp)

end Steps

theorem solveArguments_eq_ok {model options : ℕ} {object : Model} {settings : Options}
    (resolved : objects.solveArguments model options = .ok (object, settings)) :
    access .model objects model = .ok object ∧ access .options objects options = .ok settings := by
  rw [solveArguments] at resolved
  split at resolved <;> simp_all

theorem solveArguments_ne_done {model options : ℕ} (value : Value) :
    objects.solveArguments model options ≠ .error (.done value) := by
  intro same
  rw [solveArguments] at same
  split at same
  · cases same
  · cases same
  · cases same
  all_goals
    cases same
    exact access_ne_done value (by assumption)

theorem answerOf_unmade {code : ErrorCode} {value : Value}
    (unmade : ∀ reference, value ≠ .object reference) (reference : ℕ) :
    answerOf code value ≠ .done (.object reference) := by
  rw [answerOf]
  split_ifs
  · simpa using unmade reference
  · simp

/-- Every request is one of the steps. -/
theorem serve_step (objects : Objects) (request : Request) :
    Step objects request (objects.serve request).1 (objects.serve request).2 := by
  cases request with
  | newModel fails => exact step_create _ _ (.model fails)
  | newOptions fails => exact step_create _ _ (.options fails)
  | addNode self failure =>
      apply step_change
      · intro model
        apply answerOf_unmade
        simp
      · intro model
        exact .model model (.addNode failure)
  | setDistance self source target distance =>
      apply step_change
      · intro model
        apply answerOf_unmade
        simp
      · intro model
        exact .model model (.setDistance source target distance)
  | setTimeLimitMs self value =>
      apply step_change
      · simp
      · intro options
        exact .options options _ id
  | setRandomSeed self value =>
      apply step_change
      · simp
      · intro options
        exact .options options _ id
  | setAlgorithm self value =>
      apply step_change
      · intro options reference
        split_ifs <;> simp
      · intro options
        split_ifs with valid
        · exact .options options _ fun _ => valid
        · exact .options options _ id
  | solve model options failure =>
      rw [serve]
      rcases resolved : objects.solveArguments model options with refusal | ⟨object, settings⟩
      · apply Step.same
        rintro reference rfl
        exact solveArguments_ne_done _ resolved
      · rcases solveArguments_eq_ok resolved with ⟨source, given⟩
        exact step_solveWith failure
          (.passed (access_eq_ok_iff.mp source) (access_eq_ok_iff.mp given))
  | solveWithDefaults model failure =>
      rw [serve]
      rcases source : access .model objects model with refusal | object
      · exact .same _ (access_unmade source)
      · exact step_solveWith failure (.defaults (access_eq_ok_iff.mp source))
  | validate self =>
      apply step_inspect
      intro model
      apply answerOf_unmade
      simp
  | status | algorithm | objective | tourSize | tour =>
      apply step_inspect
      simp
  | close kind self => exact step_closeAt kind

end Objects

/-! ## Invariants -/

/-- Models come from calls, algorithms are listed, and results remember the solve they are of. -/
def NativeObject.WellFormed : NativeObject → Prop
  | .model object => object.Reachable
  | .options object => isValidAlgorithm object.algorithm = true
  | .result object =>
      ∃ (source : Model) (settings : Options), source.Reachable ∧
        source.solve settings = (.ok, some object)

/-- The algorithm of a result is one that a getter can name. -/
theorem NativeObject.WellFormed.valid_algorithm {result : Result}
    (wellFormed : (NativeObject.result result).WellFormed) :
    isValidAlgorithm result.algorithm = true := by
  rcases wellFormed with ⟨model, options, _, solved⟩
  exact (traces_of_solve solved).valid_algorithm.1

theorem Evolves.wellFormed {old new : NativeObject} (evolves : Evolves old new)
    (wellFormed : old.WellFormed) : new.WellFormed := by
  cases evolves with
  | model model call => exact Model.Reachable.run wellFormed [call]
  | options options changed listed => exact listed wellFormed

/-- Every object of a session is well formed, whether it is still open or not. -/
def Objects.WellFormed (objects : Objects) : Prop := ∀ slot ∈ objects, slot.object.WellFormed

namespace Objects.WellFormed

variable {objects : Objects} {self : ℕ}

theorem at_place {slot : Slot} (wellFormed : objects.WellFormed)
    (found : objects[self]? = some slot) : slot.object.WellFormed :=
  wellFormed slot (List.mem_of_getElem? found)

theorem set {slot : Slot} (wellFormed : objects.WellFormed) (self : ℕ)
    (object : slot.object.WellFormed) : Objects.WellFormed (objects.set self slot) := by
  intro other member
  rcases List.mem_or_eq_of_mem_set member with unchanged | rfl
  · exact wellFormed other unchanged
  · exact object

theorem concat {slot : Slot} (wellFormed : objects.WellFormed)
    (object : slot.object.WellFormed) : Objects.WellFormed (objects ++ [slot]) := by
  intro other member
  rcases List.mem_append.mp member with old | new
  · exact wellFormed other old
  · rw [List.mem_singleton.mp new]
    exact object

end Objects.WellFormed

/-- The model of a solve is an open one of the session. -/
theorem Solves.source {objects : Objects} {request : Request} {model : Model} {options : Options}
    (solves : Solves objects request model options) :
    ∃ place : ℕ, objects[place]? = some { object := .model model } := by
  cases solves with
  | passed source given => exact ⟨_, source⟩
  | defaults source => exact ⟨_, source⟩

theorem Created.wellFormed {objects : Objects} {request : Request} {object : NativeObject}
    (created : Created objects request object) (wellFormed : objects.WellFormed) :
    object.WellFormed := by
  cases created with
  | model => exact ⟨[], rfl⟩
  | options => rfl
  | result solves solved =>
      rcases solves.source with ⟨place, source⟩
      exact ⟨_, _, wellFormed.at_place source, solved⟩

theorem Step.wellFormed {before after : Objects} {request : Request} {answer : Answer}
    (step : Step before request answer after) (wellFormed : before.WellFormed) :
    after.WellFormed := by
  cases step with
  | same => exact wellFormed
  | created object origin => exact wellFormed.concat (origin.wellFormed wellFormed)
  | changed answer self old new unmade found evolves =>
      exact wellFormed.set self (evolves.wellFormed (wellFormed.at_place found))
  | closed self slot found =>
      have object : slot.object.WellFormed := wellFormed.at_place found
      exact wellFormed.set self object

end TspSolver
