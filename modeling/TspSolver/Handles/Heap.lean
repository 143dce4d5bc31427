import Mathlib.Data.Finmap
import Mathlib.Order.Lattice.Nat

/-!
# Heaps behind handles

A heap holds live objects under addresses; the null address holds none. Reading,
writing or releasing an address without a live object is undefined and has no
outcome. An allocator decides where a new object goes: it may look at the heap
and at the number of requests made so far, but it never reuses a live address.
-/

namespace Handles

universe u

/-- Addresses are numbers; 0 is the null address. -/
abbrev Address := ℕ

/-- The live objects by address, and how many have been requested. -/
structure Heap (Object : Type u) where
  cells : Finmap fun _ : Address => Object := ∅
  requests : ℕ := 0
  null_notMem : 0 ∉ cells := by exact Finmap.notMem_empty

/-- Where new objects go: never to the null address, never over a live object. -/
structure Allocator (Object : Type u) where
  place : Heap Object → Address
  place_ne_null : ∀ heap, place heap ≠ 0
  place_notMem : ∀ heap, place heap ∉ heap.cells

namespace Heap

variable {Object : Type u}

/-- The heap before the first allocation. -/
def empty : Heap Object := {}

/-- The object at an address, if one is alive there. -/
def read (heap : Heap Object) (address : Address) : Option Object :=
  heap.cells.lookup address

/-- A new object goes where the allocator says. -/
def allocate (allocator : Allocator Object) (object : Object) (heap : Heap Object) :
    Address × Heap Object :=
  (allocator.place heap,
    { cells := heap.cells.insert (allocator.place heap) object
      requests := heap.requests + 1
      null_notMem := by
        intro member
        rcases Finmap.mem_insert.mp member with isPlace | old
        · exact allocator.place_ne_null heap isPlace.symm
        · exact heap.null_notMem old })

/-- A store to an address; without a live object there it is undefined. -/
def write (heap : Heap Object) (address : Address) (object : Object) : Option (Heap Object) :=
  if live : address ∈ heap.cells then
    some
      { heap with
        cells := heap.cells.insert address object
        null_notMem := by
          intro member
          rcases Finmap.mem_insert.mp member with isAddress | old
          · exact heap.null_notMem (isAddress ▸ live)
          · exact heap.null_notMem old }
  else none

/-- The end of an object's life; releasing an address twice is undefined. -/
def release (heap : Heap Object) (address : Address) : Option (Heap Object) :=
  if address ∈ heap.cells then
    some
      { heap with
        cells := heap.cells.erase address
        null_notMem := fun member => heap.null_notMem (Finmap.mem_erase.mp member).2 }
  else none

/-- The least address above all live ones. -/
def firstFree (heap : Heap Object) : Address := heap.cells.keys.sup id + 1

theorem mem_of_read {heap : Heap Object} {address : Address} {object : Object}
    (found : heap.read address = some object) : address ∈ heap.cells :=
  Finmap.mem_of_lookup_eq_some found

theorem ne_null_of_read {heap : Heap Object} {address : Address} {object : Object}
    (found : heap.read address = some object) : address ≠ 0 := by
  intro isNull
  exact heap.null_notMem (isNull ▸ mem_of_read found)

theorem mem_allocate_iff {allocator : Allocator Object} {object : Object} {heap : Heap Object}
    {address : Address} :
    address ∈ (heap.allocate allocator object).2.cells ↔
      address = allocator.place heap ∨ address ∈ heap.cells :=
  Finmap.mem_insert

@[simp]
theorem read_allocate_place (allocator : Allocator Object) (object : Object)
    (heap : Heap Object) :
    (heap.allocate allocator object).2.read (allocator.place heap) = some object :=
  Finmap.lookup_insert _

theorem read_allocate_of_mem (allocator : Allocator Object) (object : Object)
    {heap : Heap Object} {address : Address} (live : address ∈ heap.cells) :
    (heap.allocate allocator object).2.read address = heap.read address := by
  apply Finmap.lookup_insert_of_ne
  rintro rfl
  exact allocator.place_notMem heap live

/-- A store to a live object changes that object and nothing else. -/
theorem write_spec {heap : Heap Object} {address : Address} (object : Object)
    (live : address ∈ heap.cells) :
    ∃ written, heap.write address object = some written ∧
      written.read address = some object ∧
      (∀ other, other ≠ address → written.read other = heap.read other) ∧
      ∀ other, other ∈ written.cells ↔ other ∈ heap.cells := by
  refine ⟨_, dif_pos live, Finmap.lookup_insert _, ?_, ?_⟩
  · intro other differs
    exact Finmap.lookup_insert_of_ne _ differs
  · intro other
    rw [Finmap.mem_insert]
    constructor
    · rintro (rfl | old)
      · exact live
      · exact old
    · exact Or.inr

/-- Releasing a live object ends its life and no other. -/
theorem release_spec {heap : Heap Object} {address : Address} (live : address ∈ heap.cells) :
    ∃ released, heap.release address = some released ∧
      (∀ other, other ≠ address → released.read other = heap.read other) ∧
      ∀ other, other ∈ released.cells ↔ other ≠ address ∧ other ∈ heap.cells := by
  refine ⟨_, if_pos live, ?_, ?_⟩
  · intro other differs
    exact Finmap.lookup_erase_ne differs
  · intro other
    exact Finmap.mem_erase

theorem firstFree_notMem (heap : Heap Object) : heap.firstFree ∉ heap.cells := by
  intro member
  have bound : id heap.firstFree ≤ heap.cells.keys.sup id :=
    Finset.le_sup (Finmap.mem_keys.mpr member)
  exact Nat.not_succ_le_self _ bound

end Heap

/-- First fit above the live objects. -/
def Allocator.above (Object : Type u) : Allocator Object where
  place := Heap.firstFree
  place_ne_null _ := Nat.succ_ne_zero _
  place_notMem := Heap.firstFree_notMem

end Handles
