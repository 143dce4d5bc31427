import TspSolver.Compare.Building
import TspSolver.Solve.Coherence

/-!
# The outcome of the comparison

Whatever the arguments, the file and the failing allocations, the program makes
no undefined call, and its exit code and its output are those of a specification
that knows nothing of handles. It releases all it is given; what stays behind are
the results that the library itself has lost.
-/

namespace TspSolver.Compare

open Handles Effect Effect.Program

/-! ## The specification -/

/-- The line of one run, or what goes wrong with it. -/
def report (faults : Faults) (model : Model) (turn : ℕ) (algorithm : Algorithm) :
    Except String String :=
  if faults.optionsCreate turn then .error "failed to create options"
  else
    match (model.solveUnder (faults.solve turn) { algorithm := algorithm }).result with
    | none => .error "failed to solve model"
    | some result => .ok (line algorithm result.objective result.tour)

/-- The results that one run leaves in memory: at most one, whose tour could not be copied. -/
def losses (faults : Faults) (model : Model) (turn : ℕ) (algorithm : Algorithm) :
    List NativeObject :=
  if faults.optionsCreate turn then []
  else model.lostBy { algorithm := algorithm } (faults.solve turn)

/-- The reports of several runs. -/
def reports (faults : Faults) (model : Model) (runs : List (Algorithm × ℕ)) :
    List (Except String String) :=
  runs.map fun run => report faults model run.2 run.1

/-- What several runs leave in memory. -/
def allLosses (faults : Faults) (model : Model) (runs : List (Algorithm × ℕ)) :
    List NativeObject :=
  runs.flatMap fun run => losses faults model run.2 run.1

/-- The lines that are printed. -/
def printed : List (Except String String) → String
  | [] => ""
  | .ok line :: rest => line ++ printed rest
  | .error _ :: rest => printed rest

/-- The error that is kept. -/
def lastError (error : Option String) : List (Except String String) → Option String
  | [] => error
  | .ok _ :: rest => lastError error rest
  | .error later :: rest => lastError (some later) rest

/-- The exit for the error that is kept. -/
def exitOf : Option String → Exit
  | none => .returned 0 ""
  | some error => .returned 1 (error ++ "\n")

/-- Exit, output and what stays in memory. -/
structure Ending where
  exit : Exit
  stdout : String := ""
  lost : List NativeObject := []

/-- How the program has to end. -/
def expected (storage : Storage) (faults : Faults) (arguments : List String)
    (files : String → Option (List Char)) : Ending :=
  match arguments with
  | [path] =>
      match parseMatrix storage path (files path) with
      | .error .uncaught => { exit := .aborted }
      | .error (.message error) => { exit := exitOf (some error) }
      | .ok matrix =>
          match faults.buildError matrix with
          | some error => { exit := exitOf (some error) }
          | none =>
              let runs := compared.zipIdx
              { exit := exitOf (lastError none (reports faults matrix.model runs))
                stdout := header ++ printed (reports faults matrix.model runs)
                lost := allLosses faults matrix.model runs }
  | _ => { exit := exitOf (some "usage: compare_algorithms <matrix_path>") }

variable {allocator : Allocator NativeObject} {storage : Storage} {faults : Faults}
  {world : World} {handle options result : Address} {model : Model} {algorithm : Algorithm}
  {strays : List (Address × NativeObject)}

/-! ## One run -/

theorem fetchTour_ensures {object : Result}
    (found : world.memory.read result = some (.result object)) :
    (fetchTour result object.tour.length).Ensures world fun outcome final =>
      outcome = .ok (some object.tour) ∧ final = world := by
  rw [fetchTour]
  by_cases empty : object.tour.length = 0
  · rw [if_pos empty]
    apply ensures_pure
    rw [List.length_eq_zero_iff.mp empty]
    exact ⟨rfl, rfl⟩
  · rw [if_neg empty]
    apply ensures_call_bind (Memory.getTour_of_read found (by simp) rfl)
    have all : (if object.tour.length ≤ object.tour.length then
        some (object.tour.take object.tour.length, world) else none) =
        some (object.tour, world) := by
      simp
    apply ensures_native_bind all
    apply ensures_pure
    exact ⟨rfl, rfl⟩

/-- A feasible result is printed as one line. -/
theorem printSolution_ensures {object : Result}
    (found : world.memory.read result = some (.result object))
    (feasible : object.status = .feasible) :
    (printSolution algorithm result).Ensures world fun outcome final =>
      outcome = .ok true ∧ final =
        { world with stdout := world.stdout ++ line algorithm object.objective object.tour } := by
  apply ensures_call_bind (Memory.getStatus_of_read found)
  apply ensures_call_bind (Memory.getObjective_of_read found)
  apply ensures_call_bind (Memory.getTourSize_of_read found)
  apply (fetchTour_ensures found).bind
  · rintro _ _ ⟨⟨⟩, rfl⟩
    apply ensures_native_bind rfl
    apply ensures_pure
    simp [feasible]
  · rintro _ _ ⟨⟨⟩, _⟩

/-- The algorithm is one of the list, and the model is solved by it. -/
structure Solves (model : Model) (algorithm : Algorithm) (object : Result) : Prop where
  listed : isValidAlgorithm algorithm = true
  solved : model.solve { algorithm := algorithm } = (.ok, some object)
  feasible : object.status = .feasible
  nonempty : model.size ≠ 0
  hasTour : object.tour ≠ []

/-- The default options give all the time there is. -/
theorem unlimited_default (algorithm : Algorithm) :
    ({ algorithm := algorithm } : Options).timeLimitMs ≠ 0 := by
  change (0xffffffffffffffff : UInt64) ≠ 0
  decide

theorem Solves.eq_of_solve {object other : Result} (solves : Solves model algorithm object)
    (solved : model.solve { algorithm := algorithm } = (.ok, some other)) : object = other := by
  rw [solves.solved] at solved
  cases solved
  rfl

/--
What is left after a solve: a result that has been printed, or the null handle and
a result that is out of reach, or the null handle alone.
-/
inductive SolvedAs (world : World) (owned : List (Address × NativeObject)) (algorithm : Algorithm) :
    SolveAnswer → Except String (Address × Option String) → World → Prop where
  | printed {object : Result} {place : Address} {final : World}
      (owns : Owns final.memory ((place, .result object) :: owned))
      (stdout_eq : final.stdout = world.stdout ++ line algorithm object.objective object.tour) :
      SolvedAs world owned algorithm { code := .ok, result := some object }
        (.ok (place, none)) final
  | lost {object : Result} {place : Address} {final : World}
      (owns : Owns final.memory (owned ++ [(place, .result object)]))
      (quiet : final.stdout = world.stdout) :
      SolvedAs world owned algorithm { code := .allocationFailed, lost := some object }
        (.ok (0, some "failed to solve model")) final
  | failed {code : ErrorCode} :
      SolvedAs world owned algorithm { code := code } (.ok (0, some "failed to solve model"))
        world

theorem solveAndPrint_ensures {object : Result} (solves : Solves model algorithm object)
    (owns : Owns world.memory
      ((options, .options { algorithm := algorithm }) :: (handle, .model model) :: strays))
    (failure : Option SolveAllocation) :
    (solveAndPrint allocator failure handle options algorithm).Ensures world
      (SolvedAs world
        ((options, .options { algorithm := algorithm }) :: (handle, .model model) :: strays)
        algorithm (model.solveUnder failure { algorithm := algorithm })) := by
  apply ensures_call_bind (Memory.solve_of_read (owns.read_eq 1 rfl) (owns.read_eq 0 rfl))
  have ends := Model.solve_ends model { algorithm := algorithm } failure
  generalize model.solveUnder failure { algorithm := algorithm } = answer at ends ⊢
  cases ends with
  | returned returned solved =>
      have same := solves.eq_of_solve solved
      subst same
      have held := owns.push allocator (.result object)
      apply (printSolution_ensures (held.read_eq 0 rfl) solves.feasible).bind
      · rintro _ _ ⟨⟨⟩, rfl⟩
        apply ensures_pure
        exact .printed held rfl
      · rintro _ _ ⟨⟨⟩, _⟩
  | lost =>
      apply ensures_pure
      exact .lost (owns.append allocator _) rfl
  | refused code failing =>
      dsimp only [Memory.deliver]
      rw [if_pos failing]
      apply ensures_pure
      exact .failed

/-- The run ends as its report says. -/
def EndsAs (world : World) : Except String String → Except String Unit → World → Prop
  | .ok line, outcome, final => outcome = .ok () ∧ final.stdout = world.stdout ++ line
  | .error error, outcome, final => outcome = .error error ∧ final.stdout = world.stdout

/-- A run leaves the model as it was, and nothing else behind but what the library loses. -/
theorem runAlgorithm_ensures {object : Result} (solves : Solves model algorithm object)
    (owns : Owns world.memory ((handle, .model model) :: strays)) (turn : ℕ) :
    (runAlgorithm allocator faults turn handle algorithm).Ensures world fun outcome final =>
      (∃ more, more.map Prod.snd = losses faults model turn algorithm ∧
          Owns final.memory ((handle, .model model) :: (strays ++ more))) ∧
        EndsAs world (report faults model turn algorithm) outcome final := by
  apply ensures_create_bind owns rfl
  · intro created
    apply ensures_throw
    refine ⟨⟨[], ?_, ?_⟩, ?_⟩
    · simp [losses, created]
    · simpa using owns
    · simp [EndsAs, report, created]
  · intro created options start quiet fresh
    rcases fresh.write 0 rfl (.options { algorithm := algorithm }) with ⟨written, writes, held⟩
    apply ensures_call_bind
      (Memory.setAlgorithm_of_read solves.listed (fresh.read_eq 0 rfl) writes)
    apply (solveAndPrint_ensures solves held (faults.solve turn)).bind
    · rintro ⟨result, error⟩ middle ended
      simp only [losses, report, created, Bool.false_eq_true, if_false, Model.lostBy]
      generalize model.solveUnder (faults.solve turn) { algorithm := algorithm } = answer at ended ⊢
      cases ended with
      | printed kept stdout_eq =>
          rcases kept.release 0 rfl with ⟨first, firstReleases, keptFirst⟩
          rcases keptFirst.release 0 rfl with ⟨second, secondReleases, keptSecond⟩
          apply ensures_call_bind
            (Memory.delete_of_read NativeType.result (kept.read_eq 0 rfl) firstReleases)
          apply ensures_call_bind
            (Memory.delete_of_read NativeType.options (keptFirst.read_eq 0 rfl) secondReleases)
          apply ensures_pure
          refine ⟨⟨[], rfl, by simpa using keptSecond⟩, rfl, ?_⟩
          rw [stdout_eq, quiet]
      | @lost object place _ kept stillQuiet =>
          rcases kept.release 0 rfl with ⟨released, releases, keptReleased⟩
          apply ensures_call_bind rfl
          apply ensures_call_bind
            (Memory.delete_of_read NativeType.options (kept.read_eq 0 rfl) releases)
          apply ensures_throw
          exact ⟨⟨[(place, .result object)], rfl, keptReleased⟩, rfl, stillQuiet.trans quiet⟩
      | failed =>
          rcases held.release 0 rfl with ⟨released, releases, kept⟩
          apply ensures_call_bind rfl
          apply ensures_call_bind
            (Memory.delete_of_read NativeType.options (held.read_eq 0 rfl) releases)
          apply ensures_throw
          exact ⟨⟨[], rfl, by simpa using kept⟩, rfl, quiet⟩
    · intro error middle ended
      generalize model.solveUnder (faults.solve turn) { algorithm := algorithm } = answer at ended
      cases ended

/-! ## The whole program -/

theorem runAlgorithms_eq (allocator : Allocator NativeObject) (faults : Faults)
    (runs : List (Algorithm × ℕ)) (solves : ∀ run ∈ runs, ∃ object, Solves model run.1 object)
    (owns : Owns world.memory ((handle, .model model) :: strays)) (error : Option String) :
    ∃ final more, runAlgorithms allocator faults handle runs error world =
        some (lastError error (reports faults model runs), final) ∧
      more.map Prod.snd = allLosses faults model runs ∧
      Owns final.memory ((handle, .model model) :: (strays ++ more)) ∧
      final.stdout = world.stdout ++ printed (reports faults model runs) := by
  induction runs generalizing error world strays with
  | nil =>
      refine ⟨world, [], rfl, rfl, by simpa using owns, ?_⟩
      simp [reports, printed]
  | cons run rest ih =>
      rcases run with ⟨algorithm, turn⟩
      rcases solves (algorithm, turn) (by simp) with ⟨object, solvesHere⟩
      have solvesRest : ∀ run ∈ rest, ∃ object, Solves model run.1 object := by
        intro other otherMem
        exact solves other (by simp [otherMem])
      have ensures : (runAlgorithm allocator faults turn handle algorithm).Ensures world _ :=
        runAlgorithm_ensures solvesHere owns turn
      rcases ensures with ⟨outcome, middle, ran, ⟨lostHere, lostHereEq, kept⟩, ended⟩
      have reportsEq : reports faults model ((algorithm, turn) :: rest) =
          report faults model turn algorithm :: reports faults model rest := rfl
      have lossesEq : allLosses faults model ((algorithm, turn) :: rest) =
          losses faults model turn algorithm ++ allLosses faults model rest := rfl
      -- What the rest of the runs does, whichever error has been kept so far.
      have goesOn (later : Option String) : ∃ final more,
          runAlgorithms allocator faults handle rest later middle =
            some (lastError later (reports faults model rest), final) ∧
          more.map Prod.snd = allLosses faults model ((algorithm, turn) :: rest) ∧
          Owns final.memory ((handle, .model model) :: (strays ++ more)) ∧
          final.stdout = middle.stdout ++ printed (reports faults model rest) := by
        rcases ih solvesRest kept later with ⟨final, more, ranRest, moreEq, keptRest, stdoutEq⟩
        refine ⟨final, lostHere ++ more, ranRest, ?_, ?_, stdoutEq⟩
        · rw [List.map_append, lostHereEq, moreEq, lossesEq]
        · rwa [List.append_assoc] at keptRest
      cases reported : report faults model turn algorithm with
      | ok line =>
          rw [reported] at ended reportsEq
          rcases ended with ⟨rfl, stdoutMiddle⟩
          rcases goesOn error with ⟨final, more, ranRest, moreEq, keptRest, stdoutEq⟩
          refine ⟨final, more, ?_, moreEq, keptRest, ?_⟩
          · simp [runAlgorithms, ran, reportsEq, lastError, ranRest]
          · simp [reportsEq, printed, stdoutEq, stdoutMiddle, String.append_assoc]
      | error later =>
          rw [reported] at ended reportsEq
          rcases ended with ⟨rfl, stdoutMiddle⟩
          rcases goesOn (some later) with ⟨final, more, ranRest, moreEq, keptRest, stdoutEq⟩
          refine ⟨final, more, ?_, moreEq, keptRest, ?_⟩
          · simp [runAlgorithms, ran, reportsEq, lastError, ranRest]
          · simp [reportsEq, printed, stdoutEq, stdoutMiddle]

/-- The program ends with the model released, and alive is only what the library has lost. -/
theorem compareOn_eq (allocator : Allocator NativeObject) (faults : Faults)
    (solves : ∀ run ∈ compared.zipIdx, ∃ object, Solves model run.1 object)
    (owns : Owns world.memory [(handle, .model model)]) :
    ∃ final strays, compareOn allocator faults handle world =
        some (exitOf (lastError none (reports faults model compared.zipIdx)), final) ∧
      Owns final.memory strays ∧
      strays.map Prod.snd = allLosses faults model compared.zipIdx ∧
      final.stdout = world.stdout ++ (header ++
        printed (reports faults model compared.zipIdx)) := by
  have start : Owns { world with stdout := world.stdout ++ header }.memory
      ((handle, .model model) :: []) := owns
  rcases runAlgorithms_eq allocator faults compared.zipIdx solves start none with
    ⟨middle, strays, ran, straysEq, kept, stdoutEq⟩
  rcases kept.release 0 rfl with ⟨released, releases, left⟩
  have destroyed : (call (Memory.tspSolverModelDestroy handle)).execute middle =
      some (.ok (), { middle with memory := released }) := by
    apply execute_native_of_some
    have deleted := Memory.delete_of_read NativeType.model (kept.read_eq 0 rfl) releases
    simp [Memory.tspSolverModelDestroy, deleted]
  have headed : (print header).execute world =
      some (.ok (), { world with stdout := world.stdout ++ header }) := rfl
  refine ⟨{ middle with memory := released }, strays, ?_, left, straysEq, ?_⟩
  · simp only [compareOn, headed, Option.bind_eq_bind, Option.bind_some, ran, destroyed]
    cases lastError none (reports faults model compared.zipIdx) <;> rfl
  · simp [stdoutEq, String.append_assoc]

/-- Every algorithm that is compared solves the model of a matrix. -/
theorem solves_compared {matrix : Matrix} (wellFormed : matrix.WellFormed)
    (fits : matrix.size ≤ 2 ^ 32) : ∀ run ∈ compared.zipIdx, ∃ object,
      Solves matrix.model run.1 object := by
  rintro ⟨algorithm, turn⟩ runMem
  have listed : algorithm ∈ compared := List.fst_mem_of_mem_zipIdx runMem
  have heuristic : isValidAlgorithm algorithm = true ∧ algorithm ≠ .heldKarp ∧
      resolveAlgorithm algorithm ≠ .heldKarp := by
    simp only [compared, List.mem_cons, List.not_mem_nil, or_false] at listed
    rcases listed with rfl | rfl | rfl
    all_goals exact ⟨rfl, nofun, nofun⟩
  have nonempty : matrix.model.size ≠ 0 := by
    rw [Matrix.model, Model.size_ofMatrix fits]
    exact wellFormed.size_pos.ne'
  have complete : matrix.model.isComplete = true := Model.isComplete_ofMatrix fits
  have limited := unlimited_default algorithm
  rcases Model.solve_heuristic complete nonempty heuristic.1 limited heuristic.2.1 with
    ⟨tour, answer, -⟩
  refine ⟨_, heuristic.1, answer, if_neg heuristic.2.2, nonempty, ?_⟩
  rw [← List.length_pos_iff, (Model.tour_of_solve nonempty limited answer).1]
  exact Nat.pos_of_ne_zero nonempty

theorem main_eq_expected (allocator : Allocator NativeObject) (storage : Storage)
    (faults : Faults) (arguments : List String) (files : String → Option (List Char)) :
    let ending := expected storage faults arguments files
    ∃ final strays, main allocator storage faults arguments files = some (ending.exit, final) ∧
      Owns final.memory strays ∧ strays.map Prod.snd = ending.lost ∧
      final.stdout = ending.stdout := by
  rcases arguments with - | ⟨path, - | ⟨second, others⟩⟩
  · exact ⟨{}, [], rfl, Owns.empty, rfl, rfl⟩
  · cases parsed : parseMatrix storage path (files path) with
    | error stop =>
        cases stop <;> simp only [main, expected, parsed]
        all_goals exact ⟨{}, [], rfl, Owns.empty, rfl, rfl⟩
    | ok matrix =>
        have wellFormed := parseMatrix_wellFormed parsed
        have ensures : (buildModel allocator faults matrix).Ensures {} _ :=
          buildModel_ensures wellFormed Owns.empty
        rcases ensures with ⟨outcome, middle, ran, holds⟩
        cases outcome with
        | error error =>
            rcases holds with ⟨message, buildError, rfl, quiet, owns⟩
            refine ⟨middle, [], ?_, owns, ?_, ?_⟩
            · simp [main, expected, parsed, ran, buildError, exitOf]
            · simp [expected, parsed, buildError]
            · simp [expected, parsed, buildError, quiet]
        | ok built =>
            rcases holds with ⟨buildError, quiet, owns⟩
            have fits := (Faults.buildError_eq_none_iff.mp buildError).2.1
            rcases compareOn_eq allocator faults (solves_compared wellFormed fits) owns with
              ⟨final, strays, compares, left, straysEq, stdoutEq⟩
            refine ⟨final, strays, ?_, left, ?_, ?_⟩
            · simp [main, expected, parsed, ran, buildError, compares]
            · simp [expected, parsed, buildError, straysEq]
            · simp [expected, parsed, buildError, stdoutEq, quiet]
  · exact ⟨{}, [], rfl, Owns.empty, rfl, rfl⟩

/-! ## Success -/

theorem lastError_eq_none_iff (error : Option String) (runs : List (Except String String)) :
    lastError error runs = none ↔ error = none ∧ ∀ run ∈ runs, ∃ line, run = .ok line := by
  induction runs generalizing error with
  | nil => simp [lastError]
  | cons run rest ih =>
      cases run with
      | ok line => simp [lastError, ih]
      | error later => simp [lastError, ih]

/-- No allocation fails in any of the runs. -/
def Faults.SparesRuns (faults : Faults) : Prop :=
  ∀ turn < compared.length, faults.optionsCreate turn = false ∧ faults.solve turn = none

/-- A run prints its result exactly when no allocation fails in it. -/
theorem report_eq_ok_iff {object : Result} (solves : Solves model algorithm object) (turn : ℕ)
    (text : String) :
    report faults model turn algorithm = .ok text ↔
      (faults.optionsCreate turn = false ∧ faults.solve turn = none) ∧
        text = line algorithm object.objective object.tour := by
  have limited := unlimited_default algorithm
  have sparedIff : (model.solveUnder (faults.solve turn) { algorithm := algorithm }).code = .ok ↔
      faults.solve turn = none :=
    Model.solveUnder_eq_ok_iff solves.nonempty limited solves.hasTour solves.solved
  have ends := Model.solve_ends model { algorithm := algorithm } (faults.solve turn)
  rw [report]
  cases faults.optionsCreate turn with
  | true => simp
  | false =>
      generalize model.solveUnder (faults.solve turn) { algorithm := algorithm } = answer
        at sparedIff ends ⊢
      rw [← sparedIff]
      cases ends with
      | returned result solved =>
          simp [solves.eq_of_solve solved, eq_comm]
      | lost => simp
      | refused code failing => simp [failing]

theorem lastError_reports_eq_none_iff
    (solves : ∀ run ∈ compared.zipIdx, ∃ object, Solves model run.1 object) :
    lastError none (reports faults model compared.zipIdx) = none ↔ faults.SparesRuns := by
  rw [lastError_eq_none_iff]
  simp only [true_and, reports, List.forall_mem_map, Faults.SparesRuns]
  constructor
  · intro reported turn turnLt
    have runMem : (compared[turn], turn) ∈ compared.zipIdx :=
      List.mk_mem_zipIdx_iff_getElem?.mpr (List.getElem?_eq_getElem turnLt)
    rcases solves _ runMem with ⟨object, solvesHere⟩
    rcases reported _ runMem with ⟨text, isLine⟩
    exact ((report_eq_ok_iff solvesHere turn text).mp isLine).1
  · rintro spared ⟨algorithm, turn⟩ runMem
    rcases solves _ runMem with ⟨object, solvesHere⟩
    have found := List.mk_mem_zipIdx_iff_getElem?.mp runMem
    have turnLt := (List.getElem?_eq_some_iff.mp found).1
    exact ⟨_, (report_eq_ok_iff solvesHere turn _).mpr ⟨spared turn turnLt, rfl⟩⟩

theorem exitOf_eq_success_iff (error : Option String) :
    exitOf error = .returned 0 "" ↔ error = none := by
  cases error <;> simp [exitOf]

/-- What has to go well for the program to succeed. -/
structure Succeeds (storage : Storage) (faults : Faults) (arguments : List String)
    (files : String → Option (List Char)) (path : String) (matrix : Matrix) : Prop where
  arguments_eq : arguments = [path]
  parsed : parseMatrix storage path (files path) = .ok matrix
  created : faults.modelCreate = false
  fit : faults.NodesFit matrix.size
  spared : faults.SparesRuns

/-- The end of a program that succeeds. -/
theorem Succeeds.expected_eq {arguments : List String} {files : String → Option (List Char)}
    {path : String} {matrix : Matrix}
    (succeeds : Succeeds storage faults arguments files path matrix) :
    expected storage faults arguments files =
      { exit := exitOf (lastError none (reports faults matrix.model compared.zipIdx))
        stdout := header ++ printed (reports faults matrix.model compared.zipIdx)
        lost := allLosses faults matrix.model compared.zipIdx } := by
  rcases succeeds with ⟨rfl, parsed, created, fit, -⟩
  have built := Faults.buildError_eq_none_iff.mpr ⟨created, fit⟩
  simp only [expected, parsed, built]

theorem Succeeds.solves {arguments : List String} {files : String → Option (List Char)}
    {path : String} {matrix : Matrix}
    (succeeds : Succeeds storage faults arguments files path matrix) :
    ∀ run ∈ compared.zipIdx, ∃ object, Solves matrix.model run.1 object :=
  solves_compared (parseMatrix_wellFormed succeeds.parsed) succeeds.fit.1

theorem expected_success_iff (storage : Storage) (faults : Faults) (arguments : List String)
    (files : String → Option (List Char)) :
    (expected storage faults arguments files).exit = .returned 0 "" ↔
      ∃ path matrix, Succeeds storage faults arguments files path matrix := by
  constructor
  · intro success
    rcases arguments with - | ⟨path, - | ⟨second, others⟩⟩
    · simp [expected, exitOf] at success
    · cases parsed : parseMatrix storage path (files path) with
      | error stop => cases stop <;> simp [expected, parsed, exitOf] at success
      | ok matrix =>
          cases buildError : faults.buildError matrix with
          | some error => simp [expected, parsed, buildError, exitOf] at success
          | none =>
              rcases Faults.buildError_eq_none_iff.mp buildError with ⟨created, fit⟩
              have solves := solves_compared (parseMatrix_wellFormed parsed) fit.1
              simp only [expected, parsed, buildError, exitOf_eq_success_iff,
                lastError_reports_eq_none_iff solves] at success
              exact ⟨path, matrix, rfl, parsed, created, fit, success⟩
    · simp [expected, exitOf] at success
  · rintro ⟨path, matrix, succeeds⟩
    rw [succeeds.expected_eq, exitOf_eq_success_iff]
    exact (lastError_reports_eq_none_iff succeeds.solves).mpr succeeds.spared

/-- The numbers of a tour with a blank between them. -/
def numbers (tour : List ℕ) : String := " ".intercalate (tour.map toString)

/-- The table of a matrix, written out: three algorithms, their order and their lines. -/
def Table (matrix : Matrix) (text : String) : Prop :=
  ∃ first second third : Result,
    matrix.model.solve { algorithm := .default } = (.ok, some first) ∧
    matrix.model.solve { algorithm := .greedyNearestNeighbor } = (.ok, some second) ∧
    matrix.model.solve { algorithm := .localSearch2Opt } = (.ok, some third) ∧
    text =
      "algorithm\tobjective\ttour\n" ++
      ("TSP_SOLVER_ALGORITHM_DEFAULT\t" ++
        toString first.objective.toInt ++ "\t" ++ numbers first.tour ++ "\n") ++
      ("TSP_SOLVER_ALGORITHM_GREEDY_NEAREST_NEIGHBOR\t" ++
        toString second.objective.toInt ++ "\t" ++ numbers second.tour ++ "\n") ++
      ("TSP_SOLVER_ALGORITHM_LOCAL_SEARCH_2OPT\t" ++
        toString third.objective.toInt ++ "\t" ++ numbers third.tour ++ "\n")

theorem expected_table {arguments : List String} {files : String → Option (List Char)}
    {path : String} {matrix : Matrix}
    (succeeds : Succeeds storage faults arguments files path matrix) :
    Table matrix (expected storage faults arguments files).stdout := by
  have reported (algorithm : Algorithm) (turn : ℕ) (object : Result)
      (solvesHere : Solves matrix.model algorithm object) (turnLt : turn < compared.length) :
      report faults matrix.model turn algorithm =
        .ok (line algorithm object.objective object.tour) :=
    (report_eq_ok_iff solvesHere turn _).mpr ⟨succeeds.spared turn turnLt, rfl⟩
  rcases succeeds.solves (.default, 0) (by decide) with ⟨first, solvesFirst⟩
  rcases succeeds.solves (.greedyNearestNeighbor, 1) (by decide) with ⟨second, solvesSecond⟩
  rcases succeeds.solves (.localSearch2Opt, 2) (by decide) with ⟨third, solvesThird⟩
  refine ⟨first, second, third, solvesFirst.solved, solvesSecond.solved, solvesThird.solved, ?_⟩
  have zipped : compared.zipIdx =
      [(.default, 0), (.greedyNearestNeighbor, 1), (.localSearch2Opt, 2)] := rfl
  simp only [succeeds.expected_eq, zipped, reports, List.map_cons, List.map_nil,
    reported .default 0 first solvesFirst (by decide),
    reported .greedyNearestNeighbor 1 second solvesSecond (by decide),
    reported .localSearch2Opt 2 third solvesThird (by decide), printed, header, line,
    algorithmName, numbers]
  simp [String.append_assoc]

/-- Only a solve that cannot copy its tour leaves anything behind. -/
theorem mem_allLosses {object : NativeObject} {runs : List (Algorithm × ℕ)}
    (member : object ∈ allLosses faults model runs) :
    (∃ run ∈ runs, faults.optionsCreate run.2 = false ∧ faults.solve run.2 = some .tour) ∧
      ∃ result : Result, object = .result result ∧ result.tour = [] := by
  rcases List.mem_flatMap.mp member with ⟨run, listed, left⟩
  rw [losses] at left
  cases created : faults.optionsCreate run.2 with
  | true =>
      rw [created] at left
      cases left
  | false =>
      rw [created] at left
      rcases Model.mem_lostBy_iff.mp left with ⟨copying, result, -, -, objectEq⟩
      exact ⟨⟨run, listed, created, copying⟩, _, objectEq, rfl⟩

theorem expected_lost {arguments : List String} {files : String → Option (List Char)}
    {path : String} {matrix : Matrix}
    (succeeds : Succeeds storage faults arguments files path matrix) :
    (expected storage faults arguments files).lost = [] := by
  rw [succeeds.expected_eq]
  apply List.eq_nil_iff_forall_not_mem.mpr
  intro object member
  rcases (mem_allLosses member).1 with ⟨⟨algorithm, turn⟩, runMem, -, copying⟩
  have turnLt := (List.getElem?_eq_some_iff.mp (List.mk_mem_zipIdx_iff_getElem?.mp runMem)).1
  rw [(succeeds.spared turn turnLt).2] at copying
  cases copying

/--
Whatever the arguments, the files and the failing allocations, the program uses
the library rightly, ends as specified, and leaves only objects behind that the
library has lost. It succeeds exactly when it is given one file, the file holds a
matrix that finds memory and whose nodes have ids, and no allocation fails; then
it prints the table of the matrix.
-/
theorem main_outcome (allocator : Allocator NativeObject) (storage : Storage) (faults : Faults)
    (arguments : List String) (files : String → Option (List Char)) :
    let ending := expected storage faults arguments files
    (∃ final strays, main allocator storage faults arguments files = some (ending.exit, final) ∧
      Owns final.memory strays ∧ strays.map Prod.snd = ending.lost ∧
      final.stdout = ending.stdout) ∧
      (ending.exit = .returned 0 "" ↔
        ∃ path matrix, Succeeds storage faults arguments files path matrix) ∧
      ∀ path matrix, Succeeds storage faults arguments files path matrix →
        Table matrix ending.stdout ∧ ending.lost = [] := by
  intro ending
  refine ⟨main_eq_expected allocator storage faults arguments files,
    expected_success_iff storage faults arguments files, ?_⟩
  intro path matrix succeeds
  exact ⟨expected_table succeeds, expected_lost succeeds⟩

end TspSolver.Compare
