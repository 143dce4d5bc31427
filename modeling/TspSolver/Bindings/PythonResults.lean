import TspSolver.Bindings.PythonRefinement
import TspSolver.Session.Results

/-!
# Results in Python scripts

A result is a snapshot: it belongs to the model and the options as they stood
when it was solved, and every later read of it, whatever the script has done to
them since, returns the same value until the script closes the result itself.
-/

namespace TspSolver.Python

open Handles Effect TspSolver.Language

/-- The result that a call reads. -/
def Call.readsResult : Call → Option ℕ
  | .resultStatus self => some self
  | .resultAlgorithm self => some self
  | .resultObjective self => some self
  | .resultTourSize self => some self
  | .resultTour self => some self
  | _ => none

/-- The request of a solve, with the options that are given or without. -/
def solveRequest (place : ℕ) (given : Option ℕ) (failure : Option SolveAllocation) : Request :=
  match given with
  | some other => .solve place other failure
  | none => .solveWithDefaults place failure

/-- The request that a call makes of the session, if it gets that far. -/
def Call.request (objects : Objects) : Call → Option Request
  | .newModel fails => some (.newModel fails)
  | .addNode self failure => some (.addNode self failure)
  | .setDistance self fromNode toNode distance =>
      ((coerceDistance fromNode toNode distance).map fun (source, target, cost) =>
        Request.setDistance self source.toNat target.toNat (Int64.ofInt cost)).toOption
  | .validate self => some (.validate self)
  | .newOptions fails => some (.newOptions fails)
  | .setTimeLimitMs self value =>
      ((coerceUint64 value "time_limit_ms").map fun limit =>
        Request.setTimeLimitMs self (UInt64.ofInt limit)).toOption
  | .setRandomSeed self value =>
      ((coerceUint64 value "random_seed").map fun seed =>
        Request.setRandomSeed self (UInt64.ofInt seed)).toOption
  | .setAlgorithm self value =>
      ((algorithmOf value).map fun algorithm => Request.setAlgorithm self algorithm).toOption
  | .solve place (some other) _ failure => some (solveRequest place (some other) failure)
  | .solve place none optionsFails failure =>
      if optionsFails then none else some (solveRequest place none failure)
  | .resultStatus self => some (.status self)
  | .resultAlgorithm self => some (.algorithm self)
  | .resultObjective self => some (.objective self)
  | .resultTourSize self => some (.tourSize self)
  | .resultTour self => some (.tour self)
  | .close self => (objects[self]?).map fun slot => .close slot.object.kind self
  | _ => none

variable {objects : Objects} {self : ℕ} {result : Result} {closed : Bool}

/-- The objects after a request, or the same objects without one. -/
def Objects.after (objects : Objects) : Option Request → Objects
  | none => objects
  | some request => (objects.serve request).2

theorem exists_of_map_eq_ok {Coerced : Type} {coerced : Except Raised Coerced}
    {make : Coerced → Request} {request : Request} (made : coerced.map make = .ok request) :
    ∃ value, request = make value := by
  cases coerced with
  | error raised => cases made
  | ok value =>
      cases made
      exact ⟨value, rfl⟩

theorem toOption_eq_some {coerced : Except Raised Request} {request : Request}
    (made : coerced.toOption = some request) : coerced = .ok request := by
  cases coerced <;> cases made
  rfl

theorem answeredOn_snd {Object : Type} {type : NativeType Object} {place : ℕ} {context : String}
    {coerced : Except Raised Request}
    (changes : ∀ request, coerced = .ok request →
      ∃ call, objects.serve request = Objects.change type objects place call) :
    (language.answeredOn objects type place context coerced).2 =
      Objects.after objects coerced.toOption := by
  cases accessed : Objects.access type objects place with
  | error refusal =>
      rw [answeredOn_of_refused _ accessed]
      cases coerced with
      | error raised => rfl
      | ok request =>
          rcases changes request rfl with ⟨call, serves⟩
          change objects = (objects.serve request).2
          rw [serves, Objects.change_of_error accessed]
  | ok object =>
      cases coerced with
      | error raised =>
          rw [answeredOn_of_raised _ accessed]
          rfl
      | ok request =>
          rw [answeredOn_of_ok _ accessed]
          rfl

/-- What a call does to the objects is what its request does. -/
theorem expected_snd (objects : Objects) (call : Call) :
    (expected objects call).2 = Objects.after objects (call.request objects) := by
  cases call with
  | newModel | addNode | validate | newOptions | resultStatus | resultAlgorithm | resultObjective
  | resultTourSize | resultTour => rfl
  | setDistance | setTimeLimitMs | setRandomSeed | setAlgorithm =>
      apply answeredOn_snd
      intro request made
      rcases exists_of_map_eq_ok made with ⟨value, rfl⟩
      exact ⟨_, rfl⟩
  | timeLimitMs | randomSeed | optionsAlgorithm =>
      simp only [expected, remembered]
      split <;> rfl
  | solve place given optionsFails failure =>
      cases given with
      | some other => rfl
      | none =>
          simp only [expected, Call.request, solveRequest]
          cases optionsFails with
          | true =>
              rcases Objects.access .model objects place with (- | - | - | -) | object <;> rfl
          | false =>
              simp only [Bool.false_eq_true, if_false, Objects.after, Objects.serve]
              rcases Objects.access .model objects place with (- | - | - | -) | object <;> rfl
  | closed place =>
      rw [expected]
      split <;> rfl
  | close place =>
      rw [expected]
      cases found : objects[place]? <;> simp only [Call.request, found] <;> rfl

theorem request_solve {place : ℕ} {given : Option ℕ} {optionsFails : Bool}
    {failure : Option SolveAllocation} {request : Request}
    (requested : (Call.solve place given optionsFails failure).request objects = some request) :
    request = solveRequest place given failure := by
  cases given with
  | some other =>
      cases requested
      rfl
  | none =>
      rw [Call.request] at requested
      split_ifs at requested
      cases requested
      rfl

/-- Only `close` asks for the end of a result. -/
theorem request_unclosing {call : Call} {request : Request} (differs : call ≠ .close self)
    (requested : call.request objects = some request) : request.closesResult self = false := by
  cases call with
  | close place =>
      have elsewhere : place ≠ self := by
        rintro rfl
        exact differs rfl
      rcases Option.map_eq_some_iff.mp requested with ⟨slot, -, rfl⟩
      simp [Request.closesResult, elsewhere]
  | solve place given optionsFails failure =>
      rw [request_solve requested]
      cases given <;> rfl
  | setDistance | setTimeLimitMs | setRandomSeed | setAlgorithm =>
      rcases exists_of_map_eq_ok (toOption_eq_some requested) with ⟨value, rfl⟩
      rfl
  | timeLimitMs | randomSeed | optionsAlgorithm | closed => cases requested
  | _ =>
      cases requested
      rfl

theorem expected_resultAt_of_ne (found : objects.ResultAt self result closed) {call : Call}
    (differs : call ≠ .close self) : (expected objects call).2.ResultAt self result closed := by
  rw [expected_snd]
  cases requested : call.request objects with
  | none => exact found
  | some request => exact found.serve_of_unclosing (request_unclosing differs requested)

/-- A call leaves a result as it is, unless it closes it. -/
theorem expected_resultAt (found : objects.ResultAt self result closed) (call : Call) :
    (expected objects call).2.ResultAt self result (closed || decide (call = .close self)) := by
  rcases eq_or_ne call (.close self) with rfl | differs
  · have closes : (objects.serve (.close .result self)).2.ResultAt self result true := by
      simpa [Request.closesResult] using found.serve (.close .result self)
    rw [expected, found, decide_eq_true rfl, Bool.or_true]
    exact closes
  · rw [decide_eq_false differs, Bool.or_false]
    exact expected_resultAt_of_ne found differs

/-- What a series of calls does to a result. -/
theorem serveCalls_resultAt (found : objects.ResultAt self result closed) (calls : List Call) :
    (serveCalls expected objects calls).2.ResultAt self result
      (closed || decide (Call.close self ∈ calls)) := by
  induction calls generalizing objects closed with
  | nil => simpa [serveCalls] using found
  | cons call rest ih =>
      have later := ih (expected_resultAt found call)
      rw [Bool.or_assoc, ← Bool.decide_or] at later
      simpa [serveCalls, eq_comm] using later

theorem inspect_after (found : objects.ResultAt self result false) (calls : List Call)
    (answer : Result → Answer) :
    (Objects.inspect .result (serveCalls expected objects calls).2 self answer).1 =
      if Call.close self ∈ calls then .closed .result else answer result := by
  rw [(serveCalls_resultAt found calls).inspect_eq]
  simp

theorem expected_of_readsResult {call : Call} (reads : call.readsResult = some self) :
    ∃ context answer, ∀ objects, expected objects call =
      (language.present context (Objects.inspect .result objects self answer).1, objects) := by
  have answered_of_serve {request : Request} {context : String} {answer : Result → Answer}
      (objects : Objects)
      (serves : objects.serve request = Objects.inspect .result objects self answer) :
      language.answered objects context request =
        (language.present context (Objects.inspect .result objects self answer).1, objects) := by
    rw [answered, serves, Objects.inspect_snd]
  cases call with
  | resultStatus | resultAlgorithm | resultObjective | resultTourSize | resultTour =>
      cases reads
      exact ⟨_, _, fun objects => answered_of_serve objects rfl⟩
  | _ => cases reads

/-- Reads of one result agree, however many calls lie between them. -/
theorem run_freezesResults (allocator : Allocator NativeObject) (calls : List Call) :
    ∃ outcomes final, Session.run allocator calls = some (outcomes, final) ∧
      ∀ (early late self : ℕ) (call : Call) (reply : Reply), call.readsResult = some self →
        early ≤ late → calls[early]? = some call → calls[late]? = some call →
        outcomes[early]? = some (.ok reply) →
        outcomes[late]? = some
          (if Call.close self ∈ (calls.take late).drop early then
            .error ⟨.runtimeError, "Result has been closed"⟩
          else .ok reply) := by
  rcases run_simulates allocator calls with ⟨final, ran, -⟩
  refine ⟨_, final, ran, ?_⟩
  intro early late self call reply reads ordered atEarly atLate replied
  rcases expected_of_readsResult reads with ⟨context, answer, expectedEq⟩
  have split : calls.take late = calls.take early ++ (calls.take late).drop early := by
    have parts := List.take_append_drop early (calls.take late)
    rw [List.take_take, min_eq_left ordered] at parts
    exact parts.symm
  rw [expectedRun, getElem?_serveCalls, atEarly, Option.map_some, Option.some.injEq,
    expectedEq] at replied
  rcases language.present_eq_ok replied with ⟨value, seen⟩
  rcases Objects.resultAt_of_inspect seen with ⟨result, found, isValue⟩
  have lateState : (serveCalls expected [] (calls.take late)).2 =
      (serveCalls expected (serveCalls expected [] (calls.take early)).2
        ((calls.take late).drop early)).2 := by
    rw [split, serveCalls_append, ← split]
  rw [expectedRun, getElem?_serveCalls, atLate, Option.map_some, expectedEq, lateState,
    inspect_after found, apply_ite (language.present context), isValue, ← seen]
  dsimp only at replied ⊢
  rw [replied]
  rfl

/-! ## Where results come from -/

/-- A solve that comes to its request answers as the request is answered. -/
theorem expected_solve {place : ℕ} {given : Option ℕ} {optionsFails : Bool}
    {failure : Option SolveAllocation} {request : Request}
    (requested : (Call.solve place given optionsFails failure).request objects = some request) :
    (expected objects (.solve place given optionsFails failure)).1 =
      presentSolve (objects.serve request).1 := by
  cases given with
  | some other =>
      cases requested
      rfl
  | none =>
      rw [Call.request] at requested
      split_ifs at requested with optionsMade
      rw [Bool.not_eq_true] at optionsMade
      subst optionsMade
      cases requested
      simp only [expected, solveRequest, Objects.serve]
      rcases Objects.access .model objects place with (- | - | - | -) | object <;> rfl

/-- A solve that fails to make its own options raises. -/
theorem expected_solve_ne_ok {place : ℕ} {given : Option ℕ} {optionsFails : Bool}
    {failure : Option SolveAllocation} (reply : Reply)
    (unrequested : (Call.solve place given optionsFails failure).request objects = none) :
    (expected objects (.solve place given optionsFails failure)).1 ≠ .ok reply := by
  cases given with
  | some other => cases unrequested
  | none =>
      rw [Call.request] at unrequested
      split_ifs at unrequested with optionsFailed
      subst optionsFailed
      simp only [expected]
      rcases Objects.access .model objects place with (kind | - | - | -) | object
      · cases kind <;> rintro ⟨⟩
      all_goals rintro ⟨⟩

/-- What a solve returns is the result of its model and its options. -/
theorem solved_of_returned {place : ℕ} {given : Option ℕ} {optionsFails : Bool}
    {failure : Option SolveAllocation}
    (returned : (expected objects (.solve place given optionsFails failure)).1 =
      .ok (.object self)) :
    ∃ model options result, Solves objects (solveRequest place given failure) model options ∧
      model.solve options = (.ok, some result) ∧
      (expected objects (.solve place given optionsFails failure)).2.ResultAt self result
        false := by
  cases requested : (Call.solve place given optionsFails failure).request objects with
  | none => exact absurd returned (expected_solve_ne_ok _ requested)
  | some request =>
      rw [expected_solve requested] at returned
      have done : (objects.serve request).1 = .done (.object self) := by
        rcases language.presentSolve_eq_ok returned with ⟨value, done⟩
        rw [done] at returned ⊢
        cases value <;> cases returned
        rfl
      have step := objects.serve_step request
      rw [done] at step
      rcases Objects.created_of_step step with ⟨rfl, object, after, origin⟩
      rw [expected_snd, requested, Objects.after, after]
      have requestEq := request_solve requested
      subst requestEq
      cases given <;> cases origin with
      | result solves solved => exact ⟨_, _, _, solves, solved, List.getElem?_concat_length⟩

/-- The answer to a call is the one it gets behind the calls before it. -/
theorem getElem?_expectedRun (early late : List Call) (call : Call) :
    (expectedRun (early ++ call :: late)).1[early.length]? =
      some (expected (expectedRun early).2 call).1 := by
  rw [expectedRun, getElem?_serveCalls, List.take_left, List.getElem?_append_right le_rfl,
    Nat.sub_self, List.getElem?_cons_zero, Option.map_some, ← expectedRun]

/-! ## Snapshots -/

/--
The model and the options of a solve, as native memory holds them behind its
arguments; options that are not given are the default ones.
-/
def Session.Passed (session : Session) (place : ℕ) (given : Option ℕ) (model : Model)
    (options : Options) : Prop :=
  (∃ handle, session.objects[place]? = some { cls := .model, handle := some handle } ∧
      session.memory.read handle = some (.model model)) ∧
    match given with
    | none => options = {}
    | some other => ∃ handle,
        session.objects[other]? =
          some { cls := .options (settingsOf options), handle := some handle } ∧
        session.memory.read handle = some (.options options)

/-- An open object has a wrapper with a handle to it. -/
theorem opened_of_found {lost : List NativeObject} {session : Session} {object : NativeObject}
    (simulates : language.Simulates lost session objects)
    (found : objects[self]? = some { object := object }) :
    ∃ handle, session.objects[self]? = some { cls := classOf object, handle := some handle } ∧
      session.memory.read handle = some object := by
  rcases simulates.wrapped found with ⟨wrapper, atWrapper, paired⟩
  cases paired with
  | opened _ handle read => exact ⟨handle, atWrapper, read⟩

theorem passed_of_solves {lost : List NativeObject} {session : Session} {place : ℕ}
    {given : Option ℕ} {failure : Option SolveAllocation} {model : Model} {options : Options}
    (simulates : language.Simulates lost session objects)
    (solves : Solves objects (solveRequest place given failure) model options) :
    session.Passed place given model options := by
  cases given with
  | none =>
      cases solves with
      | defaults source => exact ⟨opened_of_found simulates source, rfl⟩
  | some other =>
      cases solves with
      | passed source given =>
          exact ⟨opened_of_found simulates source, opened_of_found simulates given⟩

/--
A result belongs to the model and the options as they were when it was solved,
whatever the script does afterwards, until it is closed.
-/
theorem run_snapshots (allocator : Allocator NativeObject) (early late : List Call)
    (place : ℕ) (given : Option ℕ) (optionsFails : Bool) (failure : Option SolveAllocation) :
    ∃ earlier before outcomes final,
      Session.run allocator early = some (earlier, before) ∧
      Session.run allocator (early ++ .solve place given optionsFails failure :: late) =
        some (outcomes, final) ∧
      ∀ self, outcomes[early.length]? = some (.ok (.object self)) →
        ∃ (model : Model) (options : Options) (result : Result) (wrapper : NativeResource),
          before.Passed place given model options ∧
          model.solve options = (.ok, some result) ∧
          final.objects[self]? = some wrapper ∧
          (wrapper.handle = none ↔ Call.close self ∈ late) ∧
          ∀ handle, wrapper.handle = some handle →
            final.memory.read handle = some (.result result) := by
  let solving := Call.solve place given optionsFails failure
  rcases run_simulates allocator early with ⟨before, ranEarly, simulatesBefore⟩
  rcases run_simulates allocator (early ++ solving :: late) with ⟨final, ran, simulatesFinal⟩
  refine ⟨_, before, _, final, ranEarly, ran, ?_⟩
  intro self returned
  rw [getElem?_expectedRun, Option.some.injEq] at returned
  rcases solved_of_returned returned with ⟨model, options, result, solves, solved, found⟩
  have kept : (expectedRun (early ++ solving :: late)).2.ResultAt self result
      (decide (Call.close self ∈ late)) := by
    rw [expectedRun, serveCalls_append]
    simpa [solving, expectedRun, serveCalls] using serveCalls_resultAt found late
  rcases simulatesFinal.wrapped kept with ⟨wrapper, atWrapper, paired⟩
  refine ⟨model, options, result, wrapper, passed_of_solves simulatesBefore solves, solved,
    atWrapper, ?_⟩
  cases closes : decide (Call.close self ∈ late) with
  | true =>
      rw [closes] at paired
      cases paired with
      | closed _ =>
          refine ⟨iff_of_true rfl (of_decide_eq_true closes), ?_⟩
          rintro _ ⟨⟩
  | false =>
      rw [closes] at paired
      cases paired with
      | opened _ handle read =>
          have remains : some handle ≠ none := Option.some_ne_none handle
          refine ⟨iff_of_false remains (of_decide_eq_false closes), ?_⟩
          rintro _ ⟨⟩
          exact read

end TspSolver.Python
