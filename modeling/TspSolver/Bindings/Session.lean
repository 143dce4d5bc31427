import TspSolver.CApi.Memory
import TspSolver.Effect.Program

/-!
# Sessions of a binding

What the bindings have in common as machines. A binding makes wrapper objects
around native handles, and its methods are code over the native memory that may
raise. A session is what a program sees: the wrappers it made, in order. A
wrapper is named by its number of creation.
-/

namespace TspSolver

open Effect

/-- `noSuchObject` is raised by the use of a name that no wrapper of the kind has. -/
structure Binding (Wrapper Raised : Type) where
  kind : Wrapper → Kind
  noSuchObject : Raised

namespace Binding

/-- The native memory and the wrappers that have been made. -/
structure Session (Wrapper : Type) where
  memory : Memory := .empty
  objects : List Wrapper := []

variable {Wrapper Raised Reply Value : Type} (binding : Binding Wrapper Raised)
  (session : Session Wrapper)

/-- What a call returns or raises, with the session after it. -/
abbrev Outcome (Wrapper Raised Reply : Type) := Except Raised Reply × Session Wrapper

/-- The wrapper behind a name, if it is of the kind asked for. -/
def find (kind : Kind) (self : ℕ) : Option Wrapper :=
  (session.objects[self]?).filter fun object => binding.kind object = kind

/-- A method that leaves its wrapper as it is. -/
def query (kind : Kind) (self : ℕ) (method : Wrapper → Program Raised Memory Value)
    (reply : Value → Reply) : Option (Outcome Wrapper Raised Reply) :=
  match binding.find session kind self with
  | none => some (.error binding.noSuchObject, session)
  | some object => ((method object).execute session.memory).map fun reached =>
      (reached.1.map reply, { session with memory := reached.2 })

/-- A method that changes its wrapper, unless it raises. -/
def mutate (kind : Kind) (self : ℕ) (method : Wrapper → Program Raised Memory Wrapper)
    (done : Reply) : Option (Outcome Wrapper Raised Reply) :=
  match binding.find session kind self with
  | none => some (.error binding.noSuchObject, session)
  | some object => ((method object).execute session.memory).map fun reached =>
      match reached.1 with
      | .ok changed =>
          (.ok done, { memory := reached.2, objects := session.objects.set self changed })
      | .error raised => (.error raised, { session with memory := reached.2 })

/-- Code that makes a wrapper, unless it raises. -/
def construct (maker : Program Raised Memory Wrapper) (made : ℕ → Reply) :
    Option (Outcome Wrapper Raised Reply) :=
  (maker.execute session.memory).map fun reached =>
    match reached.1 with
    | .ok object =>
        (.ok (made session.objects.length),
          { memory := reached.2, objects := session.objects ++ [object] })
    | .error raised => (.error raised, { session with memory := reached.2 })

/-- An attribute of the wrapper that needs no native call. -/
def peek (kind : Kind) (self : ℕ) (value : Wrapper → Reply) :
    Option (Outcome Wrapper Raised Reply) :=
  match binding.find session kind self with
  | none => some (.error binding.noSuchObject, session)
  | some object => some (.ok (value object), session)

end Binding

end TspSolver
