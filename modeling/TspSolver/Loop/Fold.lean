import Mathlib.Data.List.Basic
import Mathlib.Data.List.Range
import Mathlib.Logic.Function.Iterate

/-!
# Invariant rules for counted loops

A counted loop is a left fold over its index range, or an iterate when the body
does not read the index. The rules here turn a statement about one turn into a
statement about the finished loop. `entries` records what each turn of a fold
does besides computing the next state.
-/

namespace Loop

universe u v w

variable {State : Type u} {Index : Type v} {Entry : Type w}

/-- An invariant of every turn holds when the fold ends. -/
theorem foldl_induction (invariant : State → Prop) {body : State → Index → State}
    {indices : List Index} {initial : State} (base : invariant initial)
    (turn : ∀ state, ∀ index ∈ indices, invariant state → invariant (body state index)) :
    invariant (indices.foldl body initial) := by
  induction indices generalizing initial with
  | nil => exact base
  | cons index rest ih =>
      rw [List.foldl_cons]
      apply ih (turn initial index (by simp) base)
      intro state other otherMem
      exact turn state other (by simp [otherMem])

/-- An invariant indexed by the number of finished turns holds at the end of a range loop. -/
theorem foldl_range_induction (invariant : ℕ → State → Prop) {body : State → ℕ → State}
    {initial : State} (count : ℕ) (base : invariant 0 initial)
    (turn : ∀ index state, index < count → invariant index state →
      invariant (index + 1) (body state index)) :
    invariant count ((List.range count).foldl body initial) := by
  induction count with
  | zero => exact base
  | succ count ih =>
      rw [List.range_succ, List.foldl_append]
      apply turn count _ (by omega)
      apply ih
      intro index state indexLt
      exact turn index state (by omega)

/-- The range rule for a loop that starts counting at `first`. -/
theorem foldl_range'_induction (invariant : ℕ → State → Prop) {body : State → ℕ → State}
    {initial : State} (first count : ℕ) (base : invariant first initial)
    (turn : ∀ index state, first ≤ index → index < first + count → invariant index state →
      invariant (index + 1) (body state index)) :
    invariant (first + count) ((List.range' first count).foldl body initial) := by
  induction count with
  | zero => exact base
  | succ count ih =>
      rw [List.range'_concat, List.foldl_append]
      simp only [Nat.one_mul]
      apply turn (first + count) _ (by omega) (by omega)
      apply ih
      intro index state firstLe indexLt
      exact turn index state firstLe (by omega)

theorem iterate_induction (invariant : ℕ → State → Prop) {body : State → State}
    {initial : State} (count : ℕ) (base : invariant 0 initial)
    (turn : ∀ index state, index < count → invariant index state →
      invariant (index + 1) (body state)) :
    invariant count (body^[count] initial) := by
  induction count with
  | zero => exact base
  | succ count ih =>
      rw [Function.iterate_succ_apply']
      apply turn count _ (by omega)
      apply ih
      intro index state indexLt
      exact turn index state (by omega)

/-- What the turns of a left fold record, each from the state it starts in. -/
def entries (record : State → Index → List Entry) (body : State → Index → State) :
    State → List Index → List Entry
  | _, [] => []
  | state, index :: rest => record state index ++ entries record body (body state index) rest

/-- Every entry has a property that each turn establishes under an invariant. -/
theorem forall_mem_entries (invariant : State → Prop) (property : Entry → Prop)
    {record : State → Index → List Entry} {body : State → Index → State}
    {indices : List Index} {initial : State} (base : invariant initial)
    (turn : ∀ state, ∀ index ∈ indices, invariant state → invariant (body state index))
    (recorded : ∀ state, ∀ index ∈ indices, invariant state →
      ∀ entry ∈ record state index, property entry) :
    ∀ entry ∈ entries record body initial indices, property entry := by
  induction indices generalizing initial with
  | nil => simp [entries]
  | cons index rest ih =>
      intro entry entryMem
      rw [entries, List.mem_append] at entryMem
      rcases entryMem with now | later
      · exact recorded initial index (by simp) base entry now
      · exact ih (turn initial index (by simp) base)
          (fun state other otherMem => turn state other (by simp [otherMem]))
          (fun state other otherMem => recorded state other (by simp [otherMem])) entry later

theorem entries_append (record : State → Index → List Entry) (body : State → Index → State)
    (initial : State) (front back : List Index) :
    entries record body initial (front ++ back) =
      entries record body initial front ++ entries record body (front.foldl body initial) back := by
  induction front generalizing initial with
  | nil => rfl
  | cons index rest ih =>
      rw [List.cons_append, entries, entries, ih, List.append_assoc, List.foldl_cons]

/-- The rule for the entries of a range loop, under an invariant that counts its turns. -/
theorem forall_mem_entries_range (invariant : ℕ → State → Prop) (property : Entry → Prop)
    {record : State → ℕ → List Entry} {body : State → ℕ → State} {initial : State} (count : ℕ)
    (base : invariant 0 initial)
    (turn : ∀ index state, index < count → invariant index state →
      invariant (index + 1) (body state index))
    (recorded : ∀ index state, index < count → invariant index state →
      ∀ entry ∈ record state index, property entry) :
    ∀ entry ∈ entries record body initial (List.range count), property entry := by
  induction count with
  | zero => simp [entries]
  | succ count ih =>
      intro entry entryMem
      rw [List.range_succ, entries_append, List.mem_append] at entryMem
      rcases entryMem with earlier | now
      · apply ih _ _ entry earlier
        · exact fun index state indexLt => turn index state (by omega)
        · exact fun index state indexLt => recorded index state (by omega)
      · simp only [entries, List.append_nil] at now
        apply recorded count _ (by omega) _ entry now
        apply foldl_range_induction invariant count base
        exact fun index state indexLt => turn index state (by omega)

/-- An invariant that a turn keeps when the entries it records have a property. -/
theorem iterate_induction_of_entries (invariant : State → Prop) (property : Entry → Prop)
    {record : State → List Entry} {body : State → State} {initial : State} (count : ℕ)
    (base : invariant initial)
    (turn : ∀ state, invariant state → (∀ entry ∈ record state, property entry) →
      invariant (body state))
    (recorded : ∀ entry ∈ entries (fun state _ => record state) (fun state _ => body state)
      initial (List.range count), property entry) :
    invariant (body^[count] initial) := by
  induction count with
  | zero => exact base
  | succ count ih =>
      rw [List.range_succ, entries_append, List.foldl_const, List.length_range] at recorded
      rw [Function.iterate_succ_apply']
      apply turn
      · exact ih fun entry earlier => recorded entry (List.mem_append_left _ earlier)
      · intro entry now
        apply recorded entry (List.mem_append_right _ _)
        rwa [entries, entries, List.append_nil]

/-- Two loops stay related when related turns do whose entries have a property. -/
theorem iterate_related_of_entries {Other : Type*} (related : State → Other → Prop)
    (property : Entry → Prop) {record : State → List Entry} {body : State → State}
    {initial : State} {otherRecord : Other → List Entry} {otherBody : Other → Other}
    {otherInitial : Other} (count : ℕ) (base : related initial otherInitial)
    (turn : ∀ state other, related state other → (∀ entry ∈ record state, property entry) →
      (∀ entry ∈ otherRecord other, property entry) → related (body state) (otherBody other))
    (recorded : ∀ entry ∈ entries (fun state _ => record state) (fun state _ => body state)
      initial (List.range count), property entry)
    (otherRecorded : ∀ entry ∈ entries (fun other _ => otherRecord other)
      (fun other _ => otherBody other) otherInitial (List.range count), property entry) :
    related (body^[count] initial) (otherBody^[count] otherInitial) := by
  induction count with
  | zero => exact base
  | succ count ih =>
      rw [List.range_succ, entries_append, List.foldl_const, List.length_range]
        at recorded otherRecorded
      rw [Function.iterate_succ_apply', Function.iterate_succ_apply']
      apply turn
      · exact ih (fun entry earlier => recorded entry (List.mem_append_left _ earlier))
          (fun entry earlier => otherRecorded entry (List.mem_append_left _ earlier))
      · intro entry now
        apply recorded entry (List.mem_append_right _ _)
        rwa [entries, entries, List.append_nil]
      · intro entry now
        apply otherRecorded entry (List.mem_append_right _ _)
        rwa [entries, entries, List.append_nil]

end Loop
