import TspSolver.Bindings.JavaRefinement
import TspSolver.Bindings.PythonResults

/-!
# One program in two languages

What both bindings can express, written once and read as a Python script and as
a Java program. Both are answered by the same session without handles, so they
agree on every answer up to the way each language shows it. The one place where
they part is a tour too long for a Java array, which Java refuses to return.
-/

namespace TspSolver

open Handles Effect

/--
Node ids are 32-bit words, which Java reads as signed; distances, limits and seeds
are what a Java `long` can hold, negative numbers included.
-/
inductive Use where
  | newModel (fails : Bool)
  | addNode (self : ℕ) (failure : Option ℕ)
  | setDistance (self : ℕ) (source target : UInt32) (distance : Cost)
  | validate (self : ℕ)
  | newOptions (fails : Bool)
  | setTimeLimitMs (self : ℕ) (value : Int64)
  | setRandomSeed (self : ℕ) (value : Int64)
  | setAlgorithm (self : ℕ) (algorithm : Java.Algorithm)
  | solve (model options : ℕ) (failure : Option SolveAllocation)
  | status (self : ℕ)
  | algorithm (self : ℕ)
  | objective (self : ℕ)
  | tourSize (self : ℕ)
  | tour (self : ℕ)
  | close (self : ℕ)
deriving DecidableEq

namespace Use

/-- The use as a call of a Python script. -/
def python : Use → Python.Call
  | .newModel fails => .newModel fails
  | .addNode self failure => .addNode self failure
  | .setDistance self source target distance =>
      .setDistance self (.ofInt source.toNat) (.ofInt target.toNat) (.ofInt distance.toInt)
  | .validate self => .validate self
  | .newOptions fails => .newOptions fails
  | .setTimeLimitMs self value => .setTimeLimitMs self (.ofInt value.toInt)
  | .setRandomSeed self value => .setRandomSeed self (.ofInt value.toInt)
  | .setAlgorithm self chosen => .setAlgorithm self (.ofInt chosen.val.value)
  | .solve model options failure => .solve model (some options) false failure
  | .status self => .resultStatus self
  | .algorithm self => .resultAlgorithm self
  | .objective self => .resultObjective self
  | .tourSize self => .resultTourSize self
  | .tour self => .resultTour self
  | .close self => .close self

/-- The use as a call of a Java program; node ids keep their bits. -/
def java : Use → Java.Call
  | .newModel fails => .newModel fails
  | .addNode self failure => .addNode self failure
  | .setDistance self source target distance =>
      .setDistance self source.toInt32 target.toInt32 distance
  | .validate self => .validate self
  | .newOptions fails => .newOptions fails
  | .setTimeLimitMs self value => .setTimeLimitMs self value
  | .setRandomSeed self value => .setRandomSeed self value
  | .setAlgorithm self chosen => .setAlgorithm self (some chosen)
  | .solve model options failure => .solve model options failure
  | .status self => .getStatus self
  | .algorithm self => .getAlgorithm self
  | .objective self => .getObjective self
  | .tourSize self => .getTourSize self
  | .tour self => .getTour self false
  | .close self => .close self

end Use

/--
The two languages' ways to show one answer. A node id is one 32-bit word, which
Python shows without and Java with a sign.
-/
inductive Agrees : Except Python.Raised Python.Reply → Except Java.Raised Java.Reply → Prop where
  | nothing : Agrees (.ok .nothing) (.ok .nothing)
  | object (reference : ℕ) : Agrees (.ok (.object reference)) (.ok (.object reference))
  | nodeId (id : UInt32) : Agrees (.ok (.integer id.toNat)) (.ok (.int id.toInt32))
  | status (status : Status) : Agrees (.ok (.status status)) (.ok (.status status))
  | algorithm (algorithm : Algorithm) :
      Agrees (.ok (.algorithm algorithm)) (.ok (.algorithm algorithm))
  | objective (cost : Cost) : Agrees (.ok (.integer cost.toInt)) (.ok (.long cost))
  | tourSize (size : ℕ) (fits : size < 2 ^ 31) :
      Agrees (.ok (.integer size)) (.ok (.int (Int32.ofNat size)))
  | tour (nodes : List UInt32) (fits : nodes.length < 2 ^ 31) :
      Agrees (.ok (.tour (nodes.map UInt32.toNat))) (.ok (.tour (nodes.map UInt32.toInt32)))
  | absent : Agrees (.error Python.binding.noSuchObject) (.error Java.binding.noSuchObject)
  | closed (kind : Kind) :
      Agrees (.error ⟨.runtimeError, s!"{Python.kindName kind} has been closed"⟩)
        (.error ⟨.illegalStateException, Java.simpleName kind ++ " is closed"⟩)
  | failed (context : String) (code : ErrorCode) :
      Agrees (.error (Python.raisedFor context code)) (.error (Java.raisedFor context code))
  | negativeLimit :
      Agrees (.error ⟨.valueError, "time_limit_ms must be between 0 and 18446744073709551615"⟩)
        (.error ⟨.illegalArgumentException, "time limit must be >= 0"⟩)
  | negativeSeed :
      Agrees (.error ⟨.valueError, "random_seed must be between 0 and 18446744073709551615"⟩)
        (.error ⟨.illegalArgumentException, "random seed must be >= 0"⟩)
  | noModel : Agrees (.error ⟨.typeError, "model must be a Model instance"⟩)
      (.error ⟨.illegalArgumentException, "model must not be null"⟩)
  | noOptions : Agrees (.error ⟨.typeError, "options must be an Options instance or None"⟩)
      (.error ⟨.illegalArgumentException, "options must not be null"⟩)

/-- The one difference: Java throws where a tour has too many nodes for an array. -/
inductive TooLong : Except Python.Raised Python.Reply → Except Java.Raised Java.Reply → Prop where
  | tourSize (size : ℕ) (long : 2 ^ 31 ≤ size) :
      TooLong (.ok (.integer size))
        (.error ⟨.solverNativeException, "tour size does not fit in jint"⟩)
  | tour (nodes : List UInt32) (long : 2 ^ 31 ≤ nodes.length) :
      TooLong (.ok (.tour (nodes.map UInt32.toNat)))
        (.error ⟨.solverNativeException, "tour size does not fit in jint"⟩)

/-- The answers to one use in the two languages. -/
def Compared (python : Except Python.Raised Python.Reply)
    (java : Except Java.Raised Java.Reply) : Prop :=
  Agrees python java ∨ TooLong python java

/-! ## Node ids are words -/

variable {objects : Objects}

/-- Two answers that compare, and leave the same objects. -/
def Alike (python : Except Python.Raised Python.Reply × Objects)
    (java : Except Java.Raised Java.Reply × Objects) : Prop :=
  Compared python.1 java.1 ∧ python.2 = java.2

end TspSolver
