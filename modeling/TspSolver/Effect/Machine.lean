import Mathlib.Data.Nat.Notation

/-!
# Machines that answer calls

A machine answers one call after another and may be undefined on some. A
specification answers every call, and says what a call leaves behind for good. A
simulation ties the states of a machine to those of a specification and to all
that has been left behind; it is kept by every call, so that every series of
calls is defined and is answered as specified.
-/

namespace Effect

universe u v w

variable {State : Type u} {Abstract : Type u} {Call : Type v} {Answer : Type u} {Residue : Type w}

/-- The answers to a series of calls, oldest first, with the state they lead to. -/
def runCalls (step : State → Call → Option (Answer × State)) (state : State) :
    List Call → Option (List Answer × State)
  | [] => some ([], state)
  | call :: rest => do
      let (answer, next) ← step state call
      let (answers, final) ← runCalls step next rest
      return (answer :: answers, final)

/-- The specified answers to a series of calls, with the state they lead to. -/
def serveCalls (serve : Abstract → Call → Answer × Abstract) (abstract : Abstract) :
    List Call → List Answer × Abstract
  | [] => ([], abstract)
  | call :: rest =>
      let later := serveCalls serve (serve abstract call).2 rest
      ((serve abstract call).1 :: later.1, later.2)

/-- What a series of calls leaves behind, oldest first. -/
def residues (serve : Abstract → Call → Answer × Abstract)
    (leaves : Abstract → Call → List Residue) (abstract : Abstract) : List Call → List Residue
  | [] => []
  | call :: rest => leaves abstract call ++ residues serve leaves (serve abstract call).2 rest

/-- A call is defined, is answered as specified, and leads to related states. -/
def Answers (related : State → Abstract → Prop) (specified : Answer × Abstract)
    (outcome : Option (Answer × State)) : Prop :=
  ∃ next, outcome = some (specified.1, next) ∧ related next specified.2

/-- Every call keeps the relation and adds to what has been left behind. -/
def Simulation (related : List Residue → State → Abstract → Prop)
    (step : State → Call → Option (Answer × State)) (serve : Abstract → Call → Answer × Abstract)
    (leaves : Abstract → Call → List Residue) : Prop :=
  ∀ left state abstract call, related left state abstract →
    Answers (related (left ++ leaves abstract call)) (serve abstract call) (step state call)

variable {related : List Residue → State → Abstract → Prop}
  {step : State → Call → Option (Answer × State)} {serve : Abstract → Call → Answer × Abstract}
  {leaves : Abstract → Call → List Residue} {left : List Residue} {state : State}
  {abstract : Abstract}

/-- What holds of one call holds of every series of calls. -/
theorem Simulation.run (simulation : Simulation related step serve leaves)
    (start : related left state abstract) (calls : List Call) :
    Answers (related (left ++ residues serve leaves abstract calls))
      (serveCalls serve abstract calls) (runCalls step state calls) := by
  induction calls generalizing left state abstract with
  | nil =>
      refine ⟨state, rfl, ?_⟩
      rwa [residues, List.append_nil]
  | cons call rest ih =>
      rcases simulation left state abstract call start with ⟨next, stepped, relatedNext⟩
      rcases ih relatedNext with ⟨final, ran, relatedFinal⟩
      rw [List.append_assoc] at relatedFinal
      refine ⟨final, ?_, relatedFinal⟩
      simp [runCalls, serveCalls, stepped, ran]

theorem serveCalls_append (serve : Abstract → Call → Answer × Abstract) (abstract : Abstract)
    (early late : List Call) :
    serveCalls serve abstract (early ++ late) =
      ((serveCalls serve abstract early).1 ++
          (serveCalls serve (serveCalls serve abstract early).2 late).1,
        (serveCalls serve (serveCalls serve abstract early).2 late).2) := by
  induction early generalizing abstract with
  | nil => rfl
  | cons call rest ih => simp [serveCalls, ih]

/-- A call is answered in the state that the calls before it lead to. -/
theorem getElem?_serveCalls (serve : Abstract → Call → Answer × Abstract) (abstract : Abstract)
    (calls : List Call) (index : ℕ) :
    (serveCalls serve abstract calls).1[index]? =
      (calls[index]?).map fun call =>
        (serve (serveCalls serve abstract (calls.take index)).2 call).1 := by
  induction calls generalizing abstract index with
  | nil => rfl
  | cons call rest ih =>
      cases index with
      | zero => rfl
      | succ index => exact ih (serve abstract call).2 index

end Effect
