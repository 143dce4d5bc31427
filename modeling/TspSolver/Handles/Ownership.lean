import TspSolver.Handles.Heap

/-!
# Handles that own their objects

A table of handles, `none` for a released one, represents a table of values when
every open handle holds the address of its own value, no two open handles share
an address, and no other object is alive. Allocating, writing and releasing
through a handle are then updates of the table of values, and none of them is
undefined. Once every handle is released the heap is empty.
-/

namespace Handles

universe u v

section Tables

variable {Entry : Type v} {table : List Entry} {entry found : Entry} {index other : ℕ}

theorem getElem?_concat_iff :
    (table ++ [entry])[index]? = some found ↔
      table[index]? = some found ∨ index = table.length ∧ entry = found := by
  grind

theorem getElem?_set_iff (inside : index < table.length) :
    (table.set index entry)[other]? = some found ↔
      other = index ∧ entry = found ∨ other ≠ index ∧ table[other]? = some found := by
  grind

theorem set_eq_self (found : table[index]? = some entry) : table.set index entry = table := by
  rcases List.getElem?_eq_some_iff.mp found with ⟨inside, rfl⟩
  exact List.set_getElem_self inside

end Tables

variable {Object : Type u}

/-- The open handles of a table own the objects of a heap. -/
structure Represents (heap : Heap Object) (handles : List (Option Address))
    (values : List (Option Object)) : Prop where
  length_eq : handles.length = values.length
  holds : ∀ (index : ℕ) (address : Address), handles[index]? = some (some address) →
    ∃ object, heap.read address = some object ∧ values[index]? = some (some object)
  released : ∀ index : ℕ, handles[index]? = some none → values[index]? = some none
  distinct : ∀ (index other : ℕ) (address : Address), handles[index]? = some (some address) →
    handles[other]? = some (some address) → index = other
  owned : ∀ address ∈ heap.cells, ∃ index : ℕ, handles[index]? = some (some address)

theorem represents_empty : Represents (.empty : Heap Object) [] [] where
  length_eq := rfl
  holds _ _ opened := by simp at opened
  released _ closed := by simp at closed
  distinct _ _ _ opened := by simp at opened
  owned _ member := absurd member Finmap.notMem_empty

namespace Represents

variable {heap : Heap Object} {handles : List (Option Address)} {values : List (Option Object)}
  {index : ℕ} {address : Address} {object : Object}

theorem read_eq (represents : Represents heap handles values)
    (opened : handles[index]? = some (some address))
    (value : values[index]? = some (some object)) : heap.read address = some object := by
  rcases represents.holds index address opened with ⟨held, found, heldEq⟩
  rw [heldEq] at value
  simp only [Option.some.injEq] at value
  rw [found, value]

theorem mem_of_open (represents : Represents heap handles values)
    (opened : handles[index]? = some (some address)) : address ∈ heap.cells := by
  rcases represents.holds index address opened with ⟨object, found, -⟩
  exact Heap.mem_of_read found

/-- The live objects are exactly those of the open handles. -/
theorem mem_iff (represents : Represents heap handles values) :
    address ∈ heap.cells ↔ some address ∈ handles := by
  constructor
  · intro member
    rcases represents.owned address member with ⟨index, opened⟩
    exact List.mem_of_getElem? opened
  · intro member
    rcases List.mem_iff_getElem?.mp member with ⟨index, opened⟩
    exact represents.mem_of_open opened

/-- A new object belongs to the new handle at the end of the table. -/
theorem allocate (allocator : Allocator Object) (object : Object)
    (represents : Represents heap handles values) :
    Represents (heap.allocate allocator object).2
      (handles ++ [some (allocator.place heap)]) (values ++ [some object]) := by
  have unused (index : ℕ) : handles[index]? ≠ some (some (allocator.place heap)) := by
    intro opened
    exact allocator.place_notMem heap (represents.mem_of_open opened)
  constructor
  · simp [represents.length_eq]
  · intro index address opened
    rcases getElem?_concat_iff.mp opened with old | ⟨rfl, isPlace⟩
    · rcases represents.holds index address old with ⟨held, found, value⟩
      refine ⟨held, ?_, getElem?_concat_iff.mpr (Or.inl value)⟩
      rw [Heap.read_allocate_of_mem _ _ (Heap.mem_of_read found), found]
    · simp only [Option.some.injEq] at isPlace
      refine ⟨object, ?_, getElem?_concat_iff.mpr (Or.inr ⟨represents.length_eq, rfl⟩)⟩
      rw [← isPlace, Heap.read_allocate_place]
  · intro index closed
    rcases getElem?_concat_iff.mp closed with old | ⟨-, isNone⟩
    · exact getElem?_concat_iff.mpr (Or.inl (represents.released index old))
    · cases isNone
  · intro index other address atIndex atOther
    rcases getElem?_concat_iff.mp atIndex with oldIndex | ⟨indexEq, indexPlace⟩ <;>
      rcases getElem?_concat_iff.mp atOther with oldOther | ⟨otherEq, otherPlace⟩
    · exact represents.distinct index other address oldIndex oldOther
    · exact absurd (otherPlace ▸ oldIndex) (unused index)
    · exact absurd (indexPlace ▸ oldOther) (unused other)
    · rw [indexEq, otherEq]
  · intro address member
    rcases Heap.mem_allocate_iff.mp member with rfl | old
    · exact ⟨handles.length, List.getElem?_concat_length⟩
    · rcases represents.owned address old with ⟨index, opened⟩
      exact ⟨index, getElem?_concat_iff.mpr (Or.inl opened)⟩

/-- Writing through an open handle updates its value. -/
theorem write (object : Object) (represents : Represents heap handles values)
    (opened : handles[index]? = some (some address)) :
    ∃ written, heap.write address object = some written ∧
      Represents written handles (values.set index (some object)) := by
  rcases Heap.write_spec object (represents.mem_of_open opened) with
    ⟨written, writtenEq, here, elsewhere, sameCells⟩
  have inside : index < values.length := by
    rw [← represents.length_eq]
    exact (List.getElem?_eq_some_iff.mp opened).1
  refine ⟨written, writtenEq, ?_, ?_, ?_, represents.distinct, ?_⟩
  · rw [List.length_set, represents.length_eq]
  · intro other place otherOpened
    rcases eq_or_ne other index with rfl | differs
    · rw [opened] at otherOpened
      simp only [Option.some.injEq] at otherOpened
      exact ⟨object, otherOpened ▸ here, (getElem?_set_iff inside).mpr (Or.inl ⟨rfl, rfl⟩)⟩
    · rcases represents.holds other place otherOpened with ⟨held, found, value⟩
      refine ⟨held, ?_, (getElem?_set_iff inside).mpr (Or.inr ⟨differs, value⟩)⟩
      rw [elsewhere, found]
      rintro rfl
      exact differs (represents.distinct _ _ _ otherOpened opened)
  · intro other closed
    refine (getElem?_set_iff inside).mpr (Or.inr ⟨?_, represents.released other closed⟩)
    rintro rfl
    rw [opened] at closed
    simp at closed
  · intro place member
    exact represents.owned place ((sameCells place).mp member)

/-- Releasing through an open handle ends its value. -/
theorem release (represents : Represents heap handles values)
    (opened : handles[index]? = some (some address)) :
    ∃ released, heap.release address = some released ∧
      Represents released (handles.set index none) (values.set index none) := by
  rcases Heap.release_spec (represents.mem_of_open opened) with
    ⟨released, releasedEq, elsewhere, cells⟩
  have inside : index < handles.length := (List.getElem?_eq_some_iff.mp opened).1
  have insideValues : index < values.length := represents.length_eq ▸ inside
  refine ⟨released, releasedEq, ?_, ?_, ?_, ?_, ?_⟩
  · rw [List.length_set, List.length_set, represents.length_eq]
  · intro other place otherOpened
    rcases (getElem?_set_iff inside).mp otherOpened with ⟨-, isNone⟩ | ⟨differs, old⟩
    · cases isNone
    · rcases represents.holds other place old with ⟨held, found, value⟩
      refine ⟨held, ?_, (getElem?_set_iff insideValues).mpr (Or.inr ⟨differs, value⟩)⟩
      rw [elsewhere, found]
      rintro rfl
      exact differs (represents.distinct _ _ _ old opened)
  · intro other closed
    apply (getElem?_set_iff insideValues).mpr
    rcases (getElem?_set_iff inside).mp closed with ⟨isIndex, -⟩ | ⟨differs, old⟩
    · exact Or.inl ⟨isIndex, rfl⟩
    · exact Or.inr ⟨differs, represents.released other old⟩
  · intro first second place atFirst atSecond
    rcases (getElem?_set_iff inside).mp atFirst with ⟨-, isNone⟩ | ⟨-, oldFirst⟩
    · cases isNone
    · rcases (getElem?_set_iff inside).mp atSecond with ⟨-, isNone⟩ | ⟨-, oldSecond⟩
      · cases isNone
      · exact represents.distinct first second place oldFirst oldSecond
  · intro place member
    rcases (cells place).mp member with ⟨differs, old⟩
    rcases represents.owned place old with ⟨other, otherOpened⟩
    refine ⟨other, (getElem?_set_iff inside).mpr (Or.inr ⟨?_, otherOpened⟩)⟩
    rintro rfl
    rw [opened] at otherOpened
    simp only [Option.some.injEq] at otherOpened
    exact differs otherOpened.symm

/-- The table may be rearranged, and released handles may be left out. -/
theorem rearrange {others : List (Option Address)} {otherValues : List (Option Object)}
    (represents : Represents heap handles values) (place : ℕ → ℕ)
    (sameLength : others.length = otherValues.length)
    (handlesEq : ∀ index : ℕ, others[index]? = handles[place index]?)
    (valuesEq : ∀ index : ℕ, otherValues[index]? = values[place index]?)
    (injective : ∀ first second, place first = place second → first = second)
    (onto : ∀ (index : ℕ) (address : Address), handles[index]? = some (some address) →
      ∃ source, place source = index) :
    Represents heap others otherValues where
  length_eq := sameLength
  holds index address opened := by
    rw [handlesEq] at opened
    rw [valuesEq]
    exact represents.holds _ address opened
  released index closed := by
    rw [handlesEq] at closed
    rw [valuesEq]
    exact represents.released _ closed
  distinct first second address atFirst atSecond := by
    rw [handlesEq] at atFirst atSecond
    exact injective first second (represents.distinct _ _ address atFirst atSecond)
  owned address member := by
    rcases represents.owned address member with ⟨index, opened⟩
    rcases onto index address opened with ⟨source, rfl⟩
    exact ⟨source, (handlesEq source).trans opened⟩

/-- A released handle may be dropped from the table. -/
theorem forget (represents : Represents heap handles values)
    (closed : handles[index]? = some none) :
    Represents heap (handles.eraseIdx index) (values.eraseIdx index) := by
  apply represents.rearrange fun other => if other < index then other else other + 1
  · rw [List.length_eraseIdx, List.length_eraseIdx, represents.length_eq]
  · grind
  · grind
  · grind
  · intro other address opened
    have differs : other ≠ index := by
      rintro rfl
      rw [closed] at opened
      simp at opened
    exact ⟨if other < index then other else other - 1, by grind⟩

/-- A new object may take any place in the table. -/
theorem insert (allocator : Allocator Object) (object : Object)
    {front back : List (Option Address)} {frontValues backValues : List (Option Object)}
    (represents : Represents heap (front ++ back) (frontValues ++ backValues))
    (sameLength : front.length = frontValues.length) :
    Represents (heap.allocate allocator object).2
      (front ++ some (allocator.place heap) :: back)
      (frontValues ++ some object :: backValues) := by
  have lengths := represents.length_eq
  simp only [List.length_append] at lengths
  -- The new entry moves from the end to its place, and those behind it one further.
  apply (represents.allocate allocator object).rearrange fun index =>
    if index < front.length then index
    else if index = front.length then (front ++ back).length
    else if index ≤ (front ++ back).length then index - 1
    else index
  · simp only [List.length_append, List.length_cons]
    omega
  · intro index
    grind
  · intro index
    grind
  · grind
  · intro index address opened
    exact ⟨if index < front.length then index
      else if index = (front ++ back).length then front.length
      else if index < (front ++ back).length then index + 1 else index, by grind⟩

/-- An object may end its life and leave the table at once. -/
theorem discard {front back : List (Option Address)} {frontValues backValues : List (Option Object)}
    {value : Option Object}
    (represents : Represents heap (front ++ some address :: back)
      (frontValues ++ value :: backValues))
    (sameLength : front.length = frontValues.length) :
    ∃ released, heap.release address = some released ∧
      Represents released (front ++ back) (frontValues ++ backValues) := by
  have opened : (front ++ some address :: back)[front.length]? = some (some address) := by
    simp
  rcases represents.release opened with ⟨released, releases, kept⟩
  refine ⟨released, releases, ?_⟩
  have closed : ((front ++ some address :: back).set front.length none)[front.length]? =
      some none := by
    simp
  have forgotten := kept.forget closed
  rw [sameLength] at forgotten
  simpa [sameLength, List.eraseIdx_append_of_length_le] using forgotten

/-- The open handles at the end of a table are distinct, and none is in front of them. -/
theorem at_end {strays : List Address} {lost : List Object}
    (represents : Represents heap (handles ++ strays.map some) (values ++ lost.map some))
    (sameLength : handles.length = values.length) :
    strays.map heap.read = lost.map some ∧ strays.Nodup ∧
      ∀ address ∈ strays, some address ∉ handles := by
  have atEnd (index : ℕ) : (handles ++ strays.map some)[handles.length + index]? =
      (strays[index]?).map some := by
    rw [List.getElem?_append_right (Nat.le_add_right _ _), Nat.add_sub_cancel_left,
      List.getElem?_map]
  have lengths : strays.length = lost.length := by
    simpa [sameLength] using represents.length_eq
  refine ⟨?_, ?_, ?_⟩
  · apply List.ext_getElem (by simpa using lengths)
    intro index inStrays inLost
    simp only [List.length_map] at inStrays inLost
    have value : (values ++ lost.map some)[handles.length + index]? = some (some lost[index]) := by
      rw [sameLength, List.getElem?_append_right (Nat.le_add_right _ _), Nat.add_sub_cancel_left]
      simp [inLost]
    have opened : (handles ++ strays.map some)[handles.length + index]? =
        some (some strays[index]) := by
      rw [atEnd, List.getElem?_eq_getElem inStrays, Option.map_some]
    simpa using represents.read_eq opened value
  · rw [List.nodup_iff_getElem?_ne_getElem?]
    intro first second ordered inside same
    have held : strays[second]? = some strays[second] := List.getElem?_eq_getElem inside
    have atFirst := atEnd first
    have atSecond := atEnd second
    rw [same, held, Option.map_some] at atFirst
    rw [held, Option.map_some] at atSecond
    have placesEq := represents.distinct _ _ _ atFirst atSecond
    omega
  · intro address stray held
    rcases List.mem_iff_getElem?.mp stray with ⟨index, atStray⟩
    rcases List.mem_iff_getElem?.mp held with ⟨place, atHandle⟩
    have opened := atEnd index
    rw [atStray, Option.map_some] at opened
    have inside := (List.getElem?_eq_some_iff.mp atHandle).1
    have placesEq := represents.distinct place (handles.length + index) address
      ((List.getElem?_append_left inside).trans atHandle) opened
    omega

/-- No object outlives the last open handle. -/
theorem cells_eq_empty_iff (represents : Represents heap handles values) :
    heap.cells = ∅ ↔ ∀ handle ∈ handles, handle = none := by
  constructor
  · intro isEmpty handle member
    cases handle with
    | none => rfl
    | some address =>
        have live := represents.mem_iff.mpr member
        rw [isEmpty] at live
        exact absurd live Finmap.notMem_empty
  · intro allReleased
    apply Finmap.ext_lookup
    intro address
    rw [Finmap.lookup_empty, Finmap.lookup_eq_none, represents.mem_iff]
    intro member
    cases allReleased _ member

end Represents

/-! ## Clients -/

/-- A client holds the addresses of all live objects, each of them once. -/
def Owns (heap : Heap Object) (owned : List (Address × Object)) : Prop :=
  Represents heap (owned.map fun entry => some entry.1) (owned.map fun entry => some entry.2)

namespace Owns

variable {heap : Heap Object} {owned : List (Address × Object)} {address : Address}
  {object : Object}

theorem empty : Owns (.empty : Heap Object) [] := represents_empty

theorem getElem?_handles {index : ℕ} (held : owned[index]? = some (address, object)) :
    (owned.map fun entry => some entry.1)[index]? = some (some address) := by
  simp only [List.getElem?_map, held, Option.map_some]

theorem read_eq (owns : Owns heap owned) (index : ℕ)
    (held : owned[index]? = some (address, object)) : heap.read address = some object := by
  have value : (owned.map fun entry => some entry.2)[index]? = some (some object) := by
    simp only [List.getElem?_map, held, Option.map_some]
  exact Represents.read_eq owns (getElem?_handles held) value

theorem append (allocator : Allocator Object) (object : Object) (owns : Owns heap owned) :
    Owns (heap.allocate allocator object).2 (owned ++ [(allocator.place heap, object)]) := by
  have allocated := Represents.allocate allocator object owns
  simpa [Owns] using allocated

/-- The newest object may come first, as on a stack. -/
theorem push (allocator : Allocator Object) (object : Object) (owns : Owns heap owned) :
    Owns (heap.allocate allocator object).2 ((allocator.place heap, object) :: owned) := by
  have front : Represents heap ([] ++ owned.map fun entry => some entry.1)
      ([] ++ owned.map fun entry => some entry.2) := owns
  exact front.insert allocator object rfl

theorem write (owns : Owns heap owned) (index : ℕ)
    (held : owned[index]? = some (address, object)) (changed : Object) :
    ∃ written, heap.write address changed = some written ∧
      Owns written (owned.set index (address, changed)) := by
  have opened := getElem?_handles held
  rcases Represents.write changed owns opened with ⟨written, writes, kept⟩
  refine ⟨written, writes, ?_⟩
  have same : (owned.map fun entry => some entry.1).set index (some address) =
      owned.map fun entry => some entry.1 := set_eq_self opened
  simpa [Owns, List.map_set, same] using kept

theorem release (owns : Owns heap owned) (index : ℕ)
    (held : owned[index]? = some (address, object)) :
    ∃ released, heap.release address = some released ∧ Owns released (owned.eraseIdx index) := by
  have opened := getElem?_handles held
  rcases Represents.release owns opened with ⟨released, releases, kept⟩
  refine ⟨released, releases, ?_⟩
  have inside := (List.getElem?_eq_some_iff.mp held).1
  have closed : ((owned.map fun entry => some entry.1).set index none)[index]? = some none := by
    simp [inside]
  have forgotten := kept.forget closed
  simpa [Owns, List.eraseIdx_set_eq, List.eraseIdx_map] using forgotten

end Owns

end Handles
