import TspSolver.Bindings.Session
import TspSolver.Effect.Machine
import TspSolver.Handles.Ownership
import TspSolver.Session.Invariants

/-!
# Bindings simulate sessions without handles

What the refinement proofs of the bindings share. A language says how its
wrappers look, where they keep their handle, and how it reports what a session
without handles answers. The invariant of a session is that its wrappers and the
objects correspond one to one and that the handles own the live native objects.
Each native operation through a wrapper is then the operation on the object.
-/

namespace TspSolver

open Handles Effect

/--
How a language shows what happens: the look of a wrapper apart from its handle,
the exceptions for closed wrappers and for errors, and the answers for values.
-/
structure Language (Wrapper Raised Reply Look : Type) extends Binding Wrapper Raised where
  look : Wrapper → Look
  handle : Wrapper → Option Address
  wrap : Look → Option Address → Wrapper
  lookOf : NativeObject → Look
  requireHandle : Wrapper → Except Raised Address
  closed : Kind → Raised
  failed : String → ErrorCode → Raised
  replyOf : Value → Except Raised Reply
  wrap_eq : ∀ wrapper, wrap (look wrapper) (handle wrapper) = wrapper
  look_wrap : ∀ shown held, look (wrap shown held) = shown
  handle_wrap : ∀ shown held, held ≠ some 0 → handle (wrap shown held) = held
  kind_wrap : ∀ object held, kind (wrap (lookOf object) held) = object.kind
  requireHandle_eq : ∀ wrapper, requireHandle wrapper =
    match handle wrapper with
    | none => .error (closed (kind wrapper))
    | some held => .ok held

namespace Language

variable {Wrapper Raised Reply Look : Type} (language : Language Wrapper Raised Reply Look)

/-- The wrapper of an object, with the handle it still has. -/
def shown (object : NativeObject) (held : Option Address) : Wrapper :=
  language.wrap (language.lookOf object) held

/-! ## Specified answers -/

/-- What the language makes of an answer of the session without handles. -/
def present (context : String) : Answer → Except Raised Reply
  | .missing _ => .error language.noSuchObject
  | .closed kind => .error (language.closed kind)
  | .failed code => .error (language.failed context code)
  | .done value => language.replyOf value

theorem present_eq_ok {context : String} {answer : Answer} {reply : Reply}
    (presented : language.present context answer = .ok reply) :
    ∃ value, answer = .done value := by
  cases answer with
  | done value => exact ⟨value, rfl⟩
  | _ => cases presented

theorem present_answerOf (context : String) (code : ErrorCode) (value : Value) :
    language.present context (answerOf code value) =
      if code = .ok then language.replyOf value else .error (language.failed context code) := by
  rw [answerOf]
  split_ifs <;> rfl

/-- The arguments of a solve are looked for first, and each has its own refusal. -/
def presentSolve (noModel noOptions : Raised) (context : String) : Answer → Except Raised Reply
  | .missing .model => .error noModel
  | .missing _ => .error noOptions
  | answer => language.present context answer

theorem presentSolve_solveWith {noModel noOptions : Raised} {context : String}
    (objects : Objects) (model : Model) (options : Options) (failure : Option SolveAllocation) :
    language.presentSolve noModel noOptions context (objects.solveWith model options failure).1 =
      language.present context (objects.solveWith model options failure).1 := by
  rw [Objects.solveWith]
  cases (model.solveUnder failure options).result <;> rfl

theorem presentSolve_eq_ok {noModel noOptions : Raised} {context : String} {answer : Answer}
    {reply : Reply}
    (presented : language.presentSolve noModel noOptions context answer = .ok reply) :
    ∃ value, answer = .done value := by
  cases answer with
  | done value => exact ⟨value, rfl⟩
  | missing kind => cases kind <;> cases presented
  | _ => cases presented

/-- The specified outcome of a method whose arguments need no check. -/
def answered (objects : Objects) (context : String) (request : Request) :
    Except Raised Reply × Objects :=
  (language.present context (objects.serve request).1, (objects.serve request).2)

/-- A method whose arguments are checked once the handle is known to be there. -/
def answeredOn {Object : Type} (objects : Objects) (type : NativeType Object) (self : ℕ)
    (context : String) (request : Except Raised Request) : Except Raised Reply × Objects :=
  match Objects.access type objects self, request with
  | .error refusal, _ => (language.present context refusal, objects)
  | .ok _, .error raised => (.error raised, objects)
  | .ok _, .ok request => language.answered objects context request

section AnsweredOn

variable {language} {objects : Objects} {Object : Type} {type : NativeType Object} {self : ℕ}
  {context : String}

theorem answeredOn_of_refused {refusal : Answer} (request : Except Raised Request)
    (refused : Objects.access type objects self = .error refusal) :
    language.answeredOn objects type self context request =
      (language.present context refusal, objects) := by
  simp only [answeredOn, refused]

theorem answeredOn_of_raised {object : Object} (raised : Raised)
    (opened : Objects.access type objects self = .ok object) :
    language.answeredOn objects type self context (.error raised) = (.error raised, objects) := by
  simp only [answeredOn, opened]

theorem answeredOn_of_ok {object : Object} (request : Request)
    (opened : Objects.access type objects self = .ok object) :
    language.answeredOn objects type self context (.ok request) =
      language.answered objects context request := by
  simp only [answeredOn, opened]

end AnsweredOn

/-! ## The invariant -/

/--
The wrappers show the objects and hold the handles of the open ones; any other
native object has been lost, and its address is nowhere in the session.
-/
structure Simulates (lost : List NativeObject) (session : Binding.Session Wrapper)
    (objects : Objects) : Prop where
  looks : session.objects.map language.look =
    objects.map fun slot => language.lookOf slot.object
  represents : ∃ strays : List Address,
    Represents session.memory (session.objects.map language.handle ++ strays.map some)
      (objects.map Slot.live ++ lost.map some)
  wellFormed : objects.WellFormed

/--
Who has the live native objects: every open wrapper one of its own, and nobody
those at the stray addresses, which have been lost.
-/
structure Owns (session : Binding.Session Wrapper) (lost : List NativeObject)
    (strays : List Address) : Prop where
  live_iff : ∀ address, address ∈ session.memory.cells ↔
    (∃ wrapper ∈ session.objects, language.handle wrapper = some address) ∨ address ∈ strays
  distinct : ∀ (first second : ℕ) (owner other : Wrapper) (address : Address),
    session.objects[first]? = some owner → session.objects[second]? = some other →
    language.handle owner = some address → language.handle other = some address → first = second
  unheld : ∀ address ∈ strays, ∀ wrapper ∈ session.objects,
    language.handle wrapper ≠ some address
  nodup : strays.Nodup
  reads : strays.map session.memory.read = lost.map some
  empty_iff : session.memory.cells = ∅ ↔
    (∀ wrapper ∈ session.objects, language.handle wrapper = none) ∧ lost = []

/-- A wrapper and the object in its place. -/
inductive Matches (memory : Memory) : Wrapper → Slot → Prop where
  | closed (object : NativeObject) :
      Matches memory (language.shown object none) { object := object, closed := true }
  | opened (object : NativeObject) (handle : Address) (read : memory.read handle = some object) :
      Matches memory (language.shown object (some handle)) { object := object }

/-- What a reference to an object of some type can be, on both sides. -/
inductive Located {Object : Type} (type : NativeType Object) (session : Binding.Session Wrapper)
    (objects : Objects) (self : ℕ) : Prop where
  | missing (find : language.find session type.kind self = none)
      (access : Objects.access type objects self = .error (.missing type.kind))
  | closed (wrapper : Wrapper) (find : language.find session type.kind self = some wrapper)
      (released : language.requireHandle wrapper = .error (language.closed type.kind))
      (access : Objects.access type objects self = .error (.closed type.kind))
  | opened (object : Object) (handle : Address)
      (find : language.find session type.kind self =
        some (language.shown (type.wrap object) (some handle)))
      (found : session.objects[self]? =
        some (language.shown (type.wrap object) (some handle)))
      (read : session.memory.read handle = some (type.wrap object))
      (access : Objects.access type objects self = .ok object)

variable {language} {session : Binding.Session Wrapper} {objects : Objects} {self : ℕ}
  {lost : List NativeObject}

theorem simulates_start : language.Simulates [] {} [] where
  looks := rfl
  represents := ⟨[], represents_empty⟩
  wellFormed := nofun

theorem handle_shown {object : NativeObject} {handle : Address} (notNull : handle ≠ 0) :
    language.handle (language.shown object (some handle)) = some handle := by
  apply language.handle_wrap
  simpa using notNull

theorem requireHandle_shown {object : NativeObject} {handle : Address} (notNull : handle ≠ 0) :
    language.requireHandle (language.shown object (some handle)) = .ok handle := by
  rw [language.requireHandle_eq, handle_shown notNull]

theorem look_shown (object : NativeObject) (held : Option Address) :
    language.look (language.shown object held) = language.lookOf object :=
  language.look_wrap _ held

theorem handle_released (object : NativeObject) :
    language.handle (language.shown object none) = none := by
  apply language.handle_wrap
  simp

theorem kind_shown (object : NativeObject) (held : Option Address) :
    language.kind (language.shown object held) = object.kind :=
  language.kind_wrap object held

/-- A wrapper is known by its look and its handle. -/
theorem eq_shown {wrapper : Wrapper} {object : NativeObject}
    (looks : language.look wrapper = language.lookOf object) :
    wrapper = language.shown object (language.handle wrapper) := by
  rw [shown, ← looks, language.wrap_eq]

theorem execute_require {Value : Type} {object : NativeObject} {handle : Address} {memory : Memory}
    (method : Address → Program Raised Memory Value) (read : memory.read handle = some object) :
    (check (language.requireHandle (language.shown object (some handle))) >>=
      method).execute memory = (method handle).execute memory :=
  Program.execute_check_ok (requireHandle_shown (Heap.ne_null_of_read read)) method memory

namespace Simulates

theorem length_eq (simulates : language.Simulates lost session objects) :
    session.objects.length = objects.length := by
  simpa using congrArg List.length simulates.looks

variable (language) in
/-- A wrapper keeps its place in front of the addresses that nobody has. -/
theorem handle_at {wrapper : Wrapper} (strays : List Address)
    (found : session.objects[self]? = some wrapper) :
    (session.objects.map language.handle ++ strays.map some)[self]? =
      some (language.handle wrapper) := by
  have inside := (List.getElem?_eq_some_iff.mp found).1
  rw [List.getElem?_append_left (by simpa using inside), List.getElem?_map, found,
    Option.map_some]

theorem live_at {slot : Slot} (lost : List NativeObject) (found : objects[self]? = some slot) :
    (objects.map Slot.live ++ lost.map some)[self]? = some slot.live := by
  have inside := (List.getElem?_eq_some_iff.mp found).1
  rw [List.getElem?_append_left (by simpa using inside), List.getElem?_map, found,
    Option.map_some]

/-- A new value in the place of an object leaves the lost ones alone. -/
theorem set_live (lost : List NativeObject) (inside : self < objects.length) (slot : Slot) :
    (objects.map Slot.live ++ lost.map some).set self slot.live =
      (objects.set self slot).map Slot.live ++ lost.map some := by
  rw [List.set_append_left _ _ (by simpa using inside), List.map_set]

theorem owns (simulates : language.Simulates lost session objects) :
    ∃ strays, language.Owns session lost strays := by
  rcases simulates.represents with ⟨strays, represents⟩
  have sameLength : (session.objects.map language.handle).length =
      (objects.map Slot.live).length := by
    simpa using simulates.length_eq
  rcases represents.at_end sameLength with ⟨reads, nodup, unheld⟩
  refine ⟨strays, ?_, ?_, ?_, nodup, reads, ?_⟩
  · intro address
    rw [represents.mem_iff, List.mem_append]
    simp
  · intro first second owner other address atFirst atSecond ownerHandle otherHandle
    apply represents.distinct first second address
    · rw [handle_at language strays atFirst, ownerHandle]
    · rw [handle_at language strays atSecond, otherHandle]
  · intro address stray wrapper member held
    exact unheld address stray (List.mem_map.mpr ⟨wrapper, member, held⟩)
  · have noStrays : strays = [] ↔ lost = [] := by
      have lengths := congrArg List.length reads
      simp only [List.length_map] at lengths
      rw [← List.length_eq_zero_iff, lengths, List.length_eq_zero_iff]
    rw [represents.cells_eq_empty_iff, ← noStrays]
    constructor
    · intro allReleased
      refine ⟨fun wrapper member => ?_, ?_⟩
      · exact allReleased _ (List.mem_append_left _ (List.mem_map.mpr ⟨wrapper, member, rfl⟩))
      · apply List.eq_nil_iff_forall_not_mem.mpr
        intro address stray
        cases allReleased _ (List.mem_append_right _ (List.mem_map.mpr ⟨address, stray, rfl⟩))
    · rintro ⟨allReleased, rfl⟩ handle member
      rw [List.map_nil, List.append_nil] at member
      rcases List.mem_map.mp member with ⟨wrapper, present, rfl⟩
      exact allReleased wrapper present

theorem beyond (simulates : language.Simulates lost session objects)
    (absent : session.objects[self]? = none) : objects[self]? = none := by
  rw [List.getElem?_eq_none_iff] at absent ⊢
  rw [← simulates.length_eq]
  exact absent

theorem matched (simulates : language.Simulates lost session objects) {wrapper : Wrapper}
    (found : session.objects[self]? = some wrapper) :
    ∃ slot, objects[self]? = some slot ∧ language.Matches session.memory wrapper slot := by
  have inside : self < objects.length := by
    rw [← simulates.length_eq]
    exact (List.getElem?_eq_some_iff.mp found).1
  rcases simulates.represents with ⟨strays, represents⟩
  refine ⟨objects[self], List.getElem?_eq_getElem inside, ?_⟩
  have handles := handle_at language strays found
  have values := live_at lost (List.getElem?_eq_getElem inside)
  have looks := congrArg (·[self]?) simulates.looks
  simp only [List.getElem?_map, found, List.getElem?_eq_getElem inside, Option.map_some,
    Option.some.injEq] at looks
  have wrapperEq := eq_shown looks
  cases held : language.handle wrapper with
  | none =>
      rw [held] at handles wrapperEq
      have dead := represents.released self handles
      rw [values, Option.some.injEq, Slot.live_eq_none_iff] at dead
      have slotEq : objects[self] = { object := objects[self].object, closed := true } := by
        rw [← dead]
      rw [slotEq, wrapperEq]
      exact .closed _
  | some handle =>
      rw [held] at handles wrapperEq
      rcases represents.holds self handle handles with ⟨object, read, live⟩
      rw [values, Option.some.injEq, Slot.live_eq_some_iff] at live
      have slotEq : objects[self] = { object := object } := by
        rw [← live.1, ← live.2]
      rw [slotEq, wrapperEq, live.2]
      exact .opened _ _ read

theorem wrapped (simulates : language.Simulates lost session objects) {slot : Slot}
    (found : objects[self]? = some slot) :
    ∃ wrapper, session.objects[self]? = some wrapper ∧
      language.Matches session.memory wrapper slot := by
  have inside : self < session.objects.length := by
    rw [simulates.length_eq]
    exact (List.getElem?_eq_some_iff.mp found).1
  have atWrapper := List.getElem?_eq_getElem inside
  rcases simulates.matched atWrapper with ⟨same, atSlot, paired⟩
  rw [found] at atSlot
  cases atSlot
  exact ⟨_, atWrapper, paired⟩

theorem locate {Object : Type} (type : NativeType Object)
    (simulates : language.Simulates lost session objects) (self : ℕ) :
    language.Located type session objects self := by
  cases found : session.objects[self]? with
  | none =>
      exact .missing (by simp [Binding.find, found])
        (by simp [Objects.access, simulates.beyond found])
  | some wrapper =>
      rcases simulates.matched found with ⟨slot, atSlot, paired⟩
      have kindEq : language.kind wrapper = slot.object.kind := by
        cases paired <;> exact kind_shown _ _
      cases viewed : type.view slot.object with
      | none =>
          have otherKind : slot.object.kind ≠ type.kind := by
            rw [Ne, ← type.isSome_view_iff, viewed]
            simp
          exact .missing (by simp [Binding.find, found, kindEq, otherKind])
            (by simp [Objects.access, atSlot, viewed])
      | some object =>
          rw [type.view_eq_some_iff] at viewed
          have find : language.find session type.kind self = some wrapper := by
            simp [Binding.find, found, kindEq, viewed]
          cases paired with
          | closed held =>
              change held = type.wrap object at viewed
              refine .closed _ find ?_ (by simp [Objects.access, atSlot, viewed])
              rw [language.requireHandle_eq, handle_released, kindEq, viewed]
              simp
          | opened held handle read =>
              change held = type.wrap object at viewed
              subst viewed
              exact .opened object handle find found read (by simp [Objects.access, atSlot])

/-! ## One native operation on both sides -/

/-- A store through an open handle changes the object behind it. -/
theorem store {Object : Type} (type : NativeType Object) {old new : Object} {handle : Address}
    (simulates : language.Simulates lost session objects)
    (found : session.objects[self]? = some (language.shown (type.wrap old) (some handle)))
    (read : session.memory.read handle = some (type.wrap old))
    (access : Objects.access type objects self = .ok old)
    (evolves : Evolves (type.wrap old) (type.wrap new)) :
    ∃ written, session.memory.write handle (type.wrap new) = some written ∧
      language.Simulates lost
        { memory := written
          objects := session.objects.set self (language.shown (type.wrap new) (some handle)) }
        (Objects.store type objects self new) := by
  rcases simulates.represents with ⟨strays, represents⟩
  have slot := Objects.access_eq_ok_iff.mp access
  have inside := (List.getElem?_eq_some_iff.mp slot).1
  have notNull := Heap.ne_null_of_read read
  have opened := handle_at language strays found
  rw [handle_shown notNull] at opened
  rcases represents.write (type.wrap new) opened with ⟨written, writes, kept⟩
  refine ⟨written, writes, ?_, ⟨strays, ?_⟩, ?_⟩
  · simp only [Objects.store, List.map_set, simulates.looks, look_shown]
  · have sameHandles : (session.objects.map language.handle).set self (some handle) =
        session.objects.map language.handle := by
      apply set_eq_self
      rw [List.getElem?_map, found, Option.map_some, handle_shown notNull]
    have value : some (type.wrap new) = Slot.live { object := type.wrap new } := rfl
    rw [value, set_live lost inside] at kept
    rw [List.map_set, handle_shown notNull, sameHandles]
    exact kept
  · exact simulates.wellFormed.set self (evolves.wellFormed (simulates.wellFormed.at_place slot))

/-- A wrapper does not change when its object still looks the same. -/
theorem storeUnseen {Object : Type} (type : NativeType Object) {old new : Object}
    {handle : Address} (simulates : language.Simulates lost session objects)
    (found : session.objects[self]? = some (language.shown (type.wrap old) (some handle)))
    (read : session.memory.read handle = some (type.wrap old))
    (access : Objects.access type objects self = .ok old)
    (evolves : Evolves (type.wrap old) (type.wrap new))
    (unseen : language.lookOf (type.wrap new) = language.lookOf (type.wrap old)) :
    ∃ written, session.memory.write handle (type.wrap new) = some written ∧
      language.Simulates lost { session with memory := written }
        (Objects.store type objects self new) := by
  rcases simulates.store type found read access evolves with ⟨written, writes, simulated⟩
  refine ⟨written, writes, ?_⟩
  have same : session.objects.set self (language.shown (type.wrap new) (some handle)) =
      session.objects := by
    rw [shown, unseen]
    exact set_eq_self found
  rwa [same] at simulated

/-- A new object belongs to a new wrapper. -/
theorem create {object : NativeObject} {request : Request} (allocator : Allocator NativeObject)
    (simulates : language.Simulates lost session objects)
    (origin : Created objects request object) :
    language.Simulates lost
      { memory := (session.memory.allocate allocator object).2
        objects := session.objects ++
          [language.shown object (some (allocator.place session.memory))] }
      (objects ++ [{ object := object }]) where
  looks := by simp [simulates.looks, look_shown]
  represents := by
    rcases simulates.represents with ⟨strays, represents⟩
    have inserted := represents.insert allocator object (by simpa using simulates.length_eq)
    refine ⟨strays, ?_⟩
    simpa [Slot.live, handle_shown (allocator.place_ne_null session.memory)] using inserted
  wellFormed := simulates.wellFormed.concat (origin.wellFormed simulates.wellFormed)

/-- A new object that no wrapper receives is lost. -/
theorem lose {object : NativeObject} (allocator : Allocator NativeObject)
    (simulates : language.Simulates lost session objects) :
    language.Simulates (lost ++ [object])
      { session with memory := (session.memory.allocate allocator object).2 } objects where
  looks := simulates.looks
  represents := by
    rcases simulates.represents with ⟨strays, represents⟩
    have allocated := represents.allocate allocator object
    refine ⟨strays ++ [allocator.place session.memory], ?_⟩
    simpa using allocated
  wellFormed := simulates.wellFormed

/-- Releasing the native object closes the wrapper. -/
theorem close {object : NativeObject} {handle : Address}
    (simulates : language.Simulates lost session objects)
    (found : session.objects[self]? = some (language.shown object (some handle)))
    (read : session.memory.read handle = some object)
    (slot : objects[self]? = some { object := object }) :
    ∃ released, session.memory.release handle = some released ∧
      language.Simulates lost
        { memory := released
          objects := session.objects.set self (language.shown object none) }
        (objects.set self { object := object, closed := true }) := by
  rcases simulates.represents with ⟨strays, represents⟩
  have opened := handle_at language strays found
  rw [handle_shown (Heap.ne_null_of_read read)] at opened
  rcases represents.release opened with ⟨released, releases, kept⟩
  refine ⟨released, releases, ?_, ⟨strays, ?_⟩, ?_⟩
  · simp only [List.map_set, simulates.looks, look_shown]
  · have inside := (List.getElem?_eq_some_iff.mp found).1
    have value : (none : Option NativeObject) = Slot.live { object := object, closed := true } :=
      rfl
    rw [value, set_live lost (List.getElem?_eq_some_iff.mp slot).1,
      List.set_append_left _ _ (by simpa using inside)] at kept
    rw [List.map_set, handle_released]
    exact kept
  · have objectWellFormed : object.WellFormed := simulates.wellFormed.at_place slot
    exact simulates.wellFormed.set self objectWellFormed

/-- A temporary object may be released and forgotten. -/
theorem discard {memory : Memory} {front back : List Wrapper} {frontSlots backSlots : List Slot}
    {object : NativeObject} {handle : Address} (notNull : handle ≠ 0)
    (simulates : language.Simulates lost
      { memory := memory, objects := front ++ language.shown object (some handle) :: back }
      (frontSlots ++ { object := object } :: backSlots))
    (sameLength : front.length = frontSlots.length) :
    memory.read handle = some object ∧ ∃ released, memory.release handle = some released ∧
      language.Simulates lost { memory := released, objects := front ++ back }
        (frontSlots ++ backSlots) := by
  rcases simulates.represents with ⟨strays, represents⟩
  simp only [List.map_append, List.map_cons, handle_shown notNull, List.append_assoc,
    List.cons_append] at represents
  have opened : (front.map language.handle ++
      some handle :: (back.map language.handle ++ strays.map some))[front.length]? =
        some (some handle) := by
    simp
  have value : (frontSlots.map Slot.live ++ Slot.live { object := object } ::
      (backSlots.map Slot.live ++ lost.map some))[front.length]? = some (some object) := by
    simp [sameLength, Slot.live]
  rcases represents.discard (by simpa using sameLength) with ⟨released, releases, kept⟩
  refine ⟨represents.read_eq opened value, released, releases, ?_, ⟨strays, ?_⟩, ?_⟩
  · have looks := simulates.looks
    simp only [List.map_append, List.map_cons] at looks ⊢
    rcases List.append_inj looks (by simpa using sameLength) with ⟨sameFront, sameBack⟩
    rw [sameFront, (List.cons.inj sameBack).2]
  · simpa using kept
  · intro slot member
    apply simulates.wellFormed slot
    rcases List.mem_append.mp member with inFront | inBack
    · exact List.mem_append_left _ inFront
    · exact List.mem_append_right _ (List.mem_cons_of_mem _ inBack)

end Simulates

/-! ## Rules for calls -/

/-- A method that raises before anything else when the handle is gone. -/
def RequiresHandle (language : Language Wrapper Raised Reply Look) {Value : Type}
    (method : Wrapper → Program Raised Memory Value) : Prop :=
  ∀ wrapper memory raised, language.requireHandle wrapper = .error raised →
    (method wrapper).execute memory = some (.error raised, memory)

theorem requiresHandle_bind {Value : Type}
    (method : Wrapper → Address → Program Raised Memory Value) :
    language.RequiresHandle fun wrapper =>
      check (language.requireHandle wrapper) >>= method wrapper := by
  intro wrapper memory raised refused
  exact Program.execute_check_error refused (method wrapper) memory

theorem Simulates.query {Object Value : Type} (type : NativeType Object) (context : String)
    {method : Wrapper → Program Raised Memory Value} {reply : Value → Reply}
    {expected : Except Raised Reply × Objects} (simulates : language.Simulates lost session objects)
    (guarded : language.RequiresHandle method)
    (refused : ∀ refusal, Objects.access type objects self = .error refusal →
      expected = (language.present context refusal, objects))
    (opened : ∀ object handle,
      session.objects[self]? = some (language.shown (type.wrap object) (some handle)) →
      session.memory.read handle = some (type.wrap object) →
      Objects.access type objects self = .ok object →
      ∃ outcome after,
        (method (language.shown (type.wrap object) (some handle))).execute session.memory =
          some (outcome, after) ∧ outcome.map reply = expected.1 ∧
        language.Simulates lost { session with memory := after } expected.2) :
    Answers (language.Simulates lost) expected (language.query session type.kind self method reply) := by
  cases simulates.locate type self with
  | missing find access =>
      rw [refused _ access, Binding.query, find]
      exact ⟨session, rfl, simulates⟩
  | closed wrapper find released access =>
      rw [refused _ access, Binding.query, find]
      refine ⟨session, ?_, simulates⟩
      simp only [guarded wrapper _ _ released, Option.map_some]
      rfl
  | opened object handle find found read access =>
      rcases opened object handle found read access with ⟨outcome, after, ran, replied, simulated⟩
      refine ⟨{ session with memory := after }, ?_, simulated⟩
      simp only [Binding.query, find, ran, Option.map_some, replied]

section Constructing

variable {allocator : Allocator NativeObject} {maker : Program Raised Memory Wrapper}
  {made : ℕ → Reply} {raised : Raised} {after : Memory}

/-- Code that raises makes no wrapper. -/
theorem answers_raised
    (ran : maker.execute session.memory = some (.error raised, after))
    (simulates : language.Simulates lost { session with memory := after } objects) :
    Answers (language.Simulates lost) (.error raised, objects)
      (Binding.construct session maker made) := by
  refine ⟨_, ?_, simulates⟩
  rw [Binding.construct, ran]
  rfl

theorem answers_unmade (simulates : language.Simulates lost session objects)
    (ran : maker.execute session.memory = some (.error raised, session.memory)) :
    Answers (language.Simulates lost) (.error raised, objects)
      (Binding.construct session maker made) :=
  answers_raised ran simulates

/-- Code that returns a wrapper adds it to the session. -/
theorem answers_wrapped {wrapper : Wrapper} {final : Objects}
    (sameLength : session.objects.length = objects.length)
    (ran : maker.execute session.memory = some (.ok wrapper, after))
    (simulates : language.Simulates lost
      { memory := after, objects := session.objects ++ [wrapper] } final) :
    Answers (language.Simulates lost) (.ok (made objects.length), final)
      (Binding.construct session maker made) := by
  refine ⟨_, ?_, simulates⟩
  rw [Binding.construct, ran, ← sameLength]
  rfl

theorem answers_made {request : Request} (object : NativeObject)
    (simulates : language.Simulates lost session objects)
    (origin : Created objects request object)
    (ran : maker.execute session.memory =
      some (.ok (language.shown object (some (allocator.place session.memory))),
        (session.memory.allocate allocator object).2)) :
    Answers (language.Simulates lost)
      (.ok (made objects.length), objects ++ [{ object := object }])
      (Binding.construct session maker made) :=
  answers_wrapped simulates.length_eq ran (simulates.create allocator origin)

/-! ## Solving -/

variable (language) in
/-- What the code of a language makes of a solve: a wrapper around the result, or an error. -/
def delivered (allocator : Allocator NativeObject) (context : String) (answer : SolveAnswer)
    (memory : Memory) : Except Raised Wrapper × Memory :=
  match answer.result, answer.lost with
  | some result, _ =>
      let placed := memory.allocate allocator (.result result)
      (.ok (language.shown (.result result) (some placed.1)), placed.2)
  | none, some lost =>
      (.error (language.failed context answer.code), (memory.allocate allocator (.result lost)).2)
  | none, none => (.error (language.failed context answer.code), memory)

/-- A solve of an open model adds its result to the session, or loses it, or leaves nothing. -/
theorem answers_solved {request : Request} {model : Model} {options : Options} {context : String}
    {failure : Option SolveAllocation}
    (made_eq : ∀ reference, language.replyOf (.object reference) = .ok (made reference))
    (simulates : language.Simulates lost session objects)
    (solves : Solves objects request model options)
    (ran : maker.execute session.memory =
      some (language.delivered allocator context (model.solveUnder failure options)
        session.memory)) :
    Answers (language.Simulates (lost ++ model.lostBy options failure))
      (language.present context (objects.solveWith model options failure).1,
        (objects.solveWith model options failure).2)
      (Binding.construct session maker made) := by
  have ends := Model.solve_ends model options failure
  rw [Objects.solveWith, Model.lostBy]
  generalize model.solveUnder failure options = answer at ran ends ⊢
  cases ends with
  | returned result solved =>
      simp only [Option.map_none, Option.toList_none, List.append_nil, present, made_eq]
      exact answers_made (.result result) simulates (.result solves solved) ran
  | lost result => exact answers_raised ran (simulates.lose allocator)
  | refused code failing =>
      simp only [Option.map_none, Option.toList_none, List.append_nil]
      exact answers_unmade simulates ran

/-- A solver takes its arguments one by one and solves when both are open. -/
theorem answers_solve (allocator : Allocator NativeObject)
    (solver : Option Wrapper → Option Wrapper → Program Raised Memory Wrapper)
    {noModel noOptions : Raised} {context : String} {model options : ℕ}
    {failure : Option SolveAllocation}
    (made_eq : ∀ reference, language.replyOf (.object reference) = .ok (made reference))
    (simulates : language.Simulates lost session objects)
    (withoutModel : ∀ other memory, (solver none other).execute memory =
      some (.error noModel, memory))
    (withoutOptions : ∀ wrapper memory, (solver (some wrapper) none).execute memory =
      some (.error noOptions, memory))
    (closedModel : ∀ wrapper other raised memory, language.requireHandle wrapper = .error raised →
      (solver (some wrapper) (some other)).execute memory = some (.error raised, memory))
    (closedOptions : ∀ object handle wrapper raised memory,
      memory.read handle = some (.model object) → language.requireHandle wrapper = .error raised →
      (solver (some (language.shown (.model object) (some handle))) (some wrapper)).execute memory =
        some (.error raised, memory))
    (solves : ∀ object settings handle other memory,
      memory.read handle = some (.model object) → memory.read other = some (.options settings) →
      (solver (some (language.shown (.model object) (some handle)))
        (some (language.shown (.options settings) (some other)))).execute memory =
        some (language.delivered allocator context (object.solveUnder failure settings) memory)) :
    Answers (language.Simulates (lost ++ objects.leaves (.solve model options failure)))
      (language.presentSolve noModel noOptions context
          (objects.serve (.solve model options failure)).1,
        (objects.serve (.solve model options failure)).2)
      (Binding.construct session (solver (language.find session .model model)
        (language.find session .options options)) made) := by
  cases simulates.locate .model model with
  | missing find access =>
      rw [show language.find session .model model = none from find]
      simp only [Objects.serve, Objects.leaves, Objects.solveArguments, access, List.append_nil]
      exact answers_unmade simulates (withoutModel _ _)
  | closed wrapper find released access =>
      rw [show language.find session .model model = some wrapper from find]
      cases simulates.locate .options options with
      | missing findOptions noAccess =>
          rw [show language.find session .options options = none from findOptions]
          simp only [Objects.serve, Objects.leaves, Objects.solveArguments, access, noAccess,
            List.append_nil]
          exact answers_unmade simulates (withoutOptions _ _)
      | closed other findOptions _ noAccess =>
          rw [show language.find session .options options = some other from findOptions]
          simp only [Objects.serve, Objects.leaves, Objects.solveArguments, access, noAccess,
            List.append_nil]
          exact answers_unmade simulates (closedModel _ _ _ _ released)
      | opened settings other findOptions _ _ openOptions =>
          rw [show language.find session .options options = _ from findOptions]
          simp only [Objects.serve, Objects.leaves, Objects.solveArguments, access, openOptions,
            List.append_nil]
          exact answers_unmade simulates (closedModel _ _ _ _ released)
  | opened object handle find found read openModel =>
      rw [show language.find session .model model = _ from find]
      cases simulates.locate .options options with
      | missing findOptions noAccess =>
          rw [show language.find session .options options = none from findOptions]
          simp only [Objects.serve, Objects.leaves, Objects.solveArguments, openModel, noAccess,
            List.append_nil]
          exact answers_unmade simulates (withoutOptions _ _)
      | closed other findOptions released noAccess =>
          rw [show language.find session .options options = some other from findOptions]
          simp only [Objects.serve, Objects.leaves, Objects.solveArguments, openModel, noAccess,
            List.append_nil]
          exact answers_unmade simulates (closedOptions _ _ _ _ _ read released)
      | opened settings other findOptions _ readOptions openOptions =>
          rw [show language.find session .options options = _ from findOptions]
          simp only [Objects.serve, Objects.leaves, Objects.solveArguments, openModel,
            openOptions, presentSolve_solveWith]
          have passed : Solves objects (.solve model options failure) object settings :=
            .passed (Objects.access_eq_ok_iff.mp openModel) (Objects.access_eq_ok_iff.mp openOptions)
          exact answers_solved made_eq simulates passed (solves _ _ _ _ _ read readOptions)

end Constructing

end Language

end TspSolver
