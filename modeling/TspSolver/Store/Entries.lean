import TspSolver.CApi

/-!
# What one call does to the cells

Every call is described by its effect on three observables of a model: the
number of rows, the cells read with `entry`, and the row lengths. A push of an
undefined cell leaves all cells alone, so a failed `add_node` changes row
lengths only. Later proofs use the case lemmas of this file and never unfold an
operation again.
-/

namespace TspSolver

namespace Model

/-- The length of a row; rows outside the matrix have length 0. -/
def rowLength (model : Model) (row : ℕ) : ℕ := (model.distances.getD row []).length

/-- The first `count` rows grown by one undefined cell. -/
def growRows (count : ℕ) (rows : List (List (Option Cost))) : List (List (Option Cost)) :=
  (rows.take count).map (fun row => row ++ [none]) ++ rows.drop count

@[simp]
theorem length_growRows (count : ℕ) (rows : List (List (Option Cost))) :
    (growRows count rows).length = rows.length := by
  simp [growRows]
  omega

theorem getD_growRows (count index : ℕ) (rows : List (List (Option Cost))) :
    (growRows count rows).getD index [] =
      if index < count ∧ index < rows.length then rows.getD index [] ++ [none]
      else rows.getD index [] := by
  simp only [growRows, List.getD_eq_getElem?_getD, List.getElem?_append, List.length_map,
    List.length_take, List.getElem?_map, List.getElem?_take, List.getElem?_drop]
  by_cases inside : index < rows.length
  · by_cases grown : index < count
    · simp [inside, grown]
    · have position : min count rows.length + (index - min count rows.length) = index := by omega
      have dropAt : count + (index - min count rows.length) = index := by omega
      simp [grown, dropAt]
  · have beyond : rows[count + (index - min count rows.length)]? = none :=
      List.getElem?_eq_none (by omega)
    simp [inside, beyond]

/-- The loop over the rows grows them up to the one whose operation throws. -/
theorem pushBackRows_some (rows : List (List (Option Cost))) (failing row : ℕ)
    (ahead : row ≤ failing) :
    pushBackRows (some failing) row rows =
      (growRows (failing - row) rows, decide (rows.length ≤ failing - row)) := by
  induction rows generalizing row with
  | nil => simp [pushBackRows, growRows]
  | cons head rest ih =>
      simp only [pushBackRows, Option.some.injEq]
      by_cases here : failing = row
      · simp [here, growRows]
      · have later : failing - row = (failing - (row + 1)) + 1 := by omega
        simp only [if_neg here, ih (row + 1) (by omega), later, growRows, List.length_cons,
          List.take_succ_cons, List.map_cons, List.drop_succ_cons, List.cons_append,
          Nat.add_le_add_iff_right]

theorem pushBackRows_none (rows : List (List (Option Cost))) (row : ℕ) :
    pushBackRows none row rows = (growRows rows.length rows, true) := by
  induction rows generalizing row with
  | nil => simp [pushBackRows, growRows]
  | cons head rest ih =>
      simp only [pushBackRows, reduceCtorEq, if_false, ih]
      simp [growRows]

theorem growRows_of_length_le {rows : List (List (Option Cost))} {count : ℕ}
    (whole : rows.length ≤ count) : growRows count rows = growRows rows.length rows := by
  simp [growRows, List.take_of_length_le whole, List.drop_of_length_le whole]

/-- The model that a throw at operation `failing` leaves behind. -/
def afterThrow (model : Model) (failing : ℕ) : Model :=
  { distances := growRows failing model.distances }

/-- The model with one more node. -/
def withNode (model : Model) : Model :=
  { distances := growRows model.size model.distances ++
      [(List.replicate (model.size + 1) none).set model.size (some 0)] }

/-- Everything `add_node` can do: reject, throw in one of its `n + 2` operations, or succeed. -/
theorem addNode_cases (failure : Option ℕ) (model : Model) :
    (2 ^ 32 - 1 < model.size ∧ model.addNode failure = (.outOfRange, model, none)) ∨
    (model.size ≤ 2 ^ 32 - 1 ∧ ∃ failing ≤ model.size + 1, failure = some failing ∧
      model.addNode failure = (.allocationFailed, model.afterThrow failing, none)) ∨
    (model.size ≤ 2 ^ 32 - 1 ∧ (∀ failing ≤ model.size + 1, failure ≠ some failing) ∧
      model.addNode failure = (.ok, model.withNode, some model.size)) := by
  by_cases full : model.size > 2 ^ 32 - 1
  · exact Or.inl ⟨full, if_pos full⟩
  · have idFits : toNodeId model.size = model.size := Nat.mod_eq_of_lt (by omega)
    right
    cases failure with
    | none =>
        right
        refine ⟨by omega, by simp, ?_⟩
        simp only [addNode, if_neg full, pushBackRows_none, idFits]
        simp [withNode, size]
    | some failing =>
        by_cases reached : failing ≤ model.size + 1
        · left
          refine ⟨by omega, failing, reached, rfl, ?_⟩
          simp only [addNode, if_neg full, pushBackRows_some _ _ 0 (Nat.zero_le _), Nat.sub_zero,
            Option.some.injEq, afterThrow]
          have stops : (!decide (model.distances.length ≤ failing)) = true ∨
              failing = model.size ∨ failing = model.size + 1 := by
            have sizeEq : model.distances.length = model.size := rfl
            simp only [sizeEq, Bool.not_eq_true', decide_eq_false_iff_not]
            omega
          exact if_pos stops
        · right
          refine ⟨by omega, ?_, ?_⟩
          · rintro other otherLe ⟨⟩
            exact reached otherLe
          · have whole : model.distances.length ≤ failing := by
              have sizeEq : model.distances.length = model.size := rfl
              omega
            have passes : ¬((!decide (model.distances.length ≤ failing)) = true ∨
                failing = model.size ∨ failing = model.size + 1) := by
              simp only [whole, decide_true, Bool.not_true, Bool.false_eq_true, false_or]
              omega
            simp only [addNode, if_neg full, pushBackRows_some _ _ 0 (Nat.zero_le _),
              Nat.sub_zero, Option.some.injEq, if_neg passes, growRows_of_length_le whole, idFits]
            rfl

/-- The model with one cell overwritten; a diagonal cell only ever becomes 0. -/
def withDistance (model : Model) (source target : ℕ) (distance : Cost) : Model :=
  { distances := model.distances.modify source fun row =>
      row.set target (some (if source = target then 0 else distance)) }

theorem setDistance_cases (model : Model) (source target : ℕ) (distance : Cost) :
    (¬(source < model.size ∧ target < model.size) ∧
      model.setDistance source target distance = (.outOfRange, model)) ∨
    ((source < model.size ∧ target < model.size) ∧
      model.setDistance source target distance =
        (.ok, model.withDistance source target distance)) := by
  by_cases inRange : source < model.size ∧ target < model.size
  · right
    have admitted : ¬(source ≥ model.size ∨ target ≥ model.size) := by omega
    exact ⟨inRange, if_neg admitted⟩
  · left
    have rejected : source ≥ model.size ∨ target ≥ model.size := by omega
    exact ⟨inRange, if_pos rejected⟩

/-! ## Sizes -/

@[simp]
theorem size_afterThrow (model : Model) (failing : ℕ) :
    (model.afterThrow failing).size = model.size := by
  simp [afterThrow, size]

@[simp]
theorem size_withNode (model : Model) : model.withNode.size = model.size + 1 := by
  simp [withNode, size]

@[simp]
theorem size_withDistance (model : Model) (source target : ℕ) (distance : Cost) :
    (model.withDistance source target distance).size = model.size := by
  simp [withDistance, size]

/-! ## Cells -/

private theorem getD_concat_none (row : List (Option Cost)) (target : ℕ) :
    (row ++ [none]).getD target none = row.getD target none := by
  simp only [List.getD_eq_getElem?_getD, List.getElem?_append]
  by_cases inside : target < row.length
  · simp [inside]
  · rcases target - row.length with _ | later <;> simp [inside]

private theorem getD_growRows_getD (count source target : ℕ)
    (rows : List (List (Option Cost))) :
    ((growRows count rows).getD source []).getD target none =
      (rows.getD source []).getD target none := by
  rw [getD_growRows]
  split
  · exact getD_concat_none _ _
  · rfl

@[simp]
theorem entry_afterThrow (model : Model) (failing source target : ℕ) :
    (model.afterThrow failing).entry source target = model.entry source target :=
  getD_growRows_getD failing source target model.distances

/-- The rows after `add_node`: the old ones grown by a cell, then the new one. -/
theorem row_withNode (model : Model) (row : ℕ) :
    model.withNode.distances.getD row [] =
      if row < model.size then model.distances.getD row [] ++ [none]
      else if row = model.size then (List.replicate (model.size + 1) none).set model.size (some 0)
      else [] := by
  have lengthEq : (growRows model.size model.distances).length = model.size :=
    length_growRows _ _
  by_cases old : row < model.size
  · have kept : model.withNode.distances.getD row [] =
        (growRows model.size model.distances).getD row [] :=
      List.getD_append _ _ _ _ (by omega)
    have inside : row < model.size ∧ row < model.distances.length := ⟨old, old⟩
    rw [kept, getD_growRows, if_pos inside, if_pos old]
  · have appended : model.withNode.distances.getD row [] =
        [(List.replicate (model.size + 1) none).set model.size (some (0 : Cost))].getD
          (row - (growRows model.size model.distances).length) [] :=
      List.getD_append_right _ _ _ _ (by omega)
    rw [appended, lengthEq, if_neg old]
    by_cases last : row = model.size
    · rw [if_pos last, last, Nat.sub_self, List.getD_cons_zero]
    · rw [if_neg last]
      exact List.getD_eq_default _ _ (by simp only [List.length_singleton]; omega)

theorem entry_withNode (model : Model) (source target : ℕ) :
    model.withNode.entry source target =
      if source = model.size then (if target = model.size then some 0 else none)
      else model.entry source target := by
  rw [entry, row_withNode]
  by_cases old : source < model.size
  · rw [if_pos old, if_neg (Nat.ne_of_lt old), getD_concat_none, entry]
  · rw [if_neg old]
    by_cases fresh : source = model.size
    · rw [if_pos fresh, if_pos fresh]
      simp only [List.getD_eq_getElem?_getD, List.getElem?_set, List.length_replicate,
        List.getElem?_replicate]
      by_cases diagonal : target = model.size
      · simp [diagonal]
      · simp only [if_neg (Ne.symm diagonal), if_neg diagonal]
        split <;> rfl
    · have beyond : model.distances.length ≤ source := by
        have sizeEq : model.distances.length = model.size := rfl
        omega
      rw [if_neg fresh, if_neg fresh, entry, List.getD_eq_default _ _ beyond]

theorem entry_withDistance {model : Model} {source target : ℕ} (distance : Cost)
    (sourceLt : source < model.size) (targetLt : target < model.rowLength source)
    (row column : ℕ) :
    (model.withDistance source target distance).entry row column =
      if row = source ∧ column = target then some (if source = target then 0 else distance)
      else model.entry row column := by
  simp only [entry, withDistance, List.getD_eq_getElem?_getD, List.getElem?_modify]
  by_cases here : source = row
  · subst here
    have inside : source < model.distances.length := sourceLt
    have present : model.distances[source]? = some model.distances[source] :=
      List.getElem?_eq_getElem inside
    simp only [rowLength, List.getD_eq_getElem?_getD, present, Option.getD_some] at targetLt
    simp only [present, Option.map_eq_map, Option.map_some, if_true, Option.getD_some,
      List.getElem?_set, true_and]
    by_cases hit : target = column
    · subst hit
      simp [targetLt]
    · simp [hit, Ne.symm hit]
  · simp [here, Ne.symm here]

/-! ## Row lengths -/

theorem rowLength_afterThrow (model : Model) (failing row : ℕ) :
    (model.afterThrow failing).rowLength row =
      if row < failing ∧ row < model.size then model.rowLength row + 1
      else model.rowLength row := by
  simp only [rowLength, afterThrow, getD_growRows]
  change List.length (if row < failing ∧ row < model.size then _ else _) = _
  split <;> simp

theorem rowLength_withNode {model : Model} {row : ℕ} (rowLt : row < model.size + 1) :
    model.withNode.rowLength row =
      if row < model.size then model.rowLength row + 1 else model.size + 1 := by
  rw [rowLength, row_withNode]
  by_cases old : row < model.size
  · rw [if_pos old, if_pos old, List.length_append, List.length_singleton, rowLength]
  · have last : row = model.size := by omega
    rw [if_neg old, if_neg old, if_pos last, List.length_set, List.length_replicate]

@[simp]
theorem rowLength_withDistance (model : Model) (source target : ℕ) (distance : Cost)
    (row : ℕ) :
    (model.withDistance source target distance).rowLength row = model.rowLength row := by
  simp only [rowLength, withDistance, List.getD_eq_getElem?_getD, List.getElem?_modify]
  rcases model.distances[row]? with _ | cells
  · simp
  · by_cases here : source = row <;> simp [here]

theorem isSquare_iff (model : Model) :
    model.isSquare = true ↔ ∀ row < model.size, model.rowLength row = model.size := by
  simp only [isSquare, List.all_eq_true, beq_iff_eq, rowLength]
  constructor
  · intro square row rowLt
    have present : row < model.distances.length := rowLt
    rw [List.getD_eq_getElem _ _ present]
    exact square _ (List.getElem_mem present)
  · intro lengths row rowMem
    rcases List.getElem_of_mem rowMem with ⟨position, positionLt, rfl⟩
    have lengthEq := lengths position positionLt
    rwa [List.getD_eq_getElem _ _ positionLt] at lengthEq

theorem isComplete_iff (model : Model) :
    model.isComplete = true ↔ model.isSquare = true ∧
      ∀ source < model.size, ∀ target < model.size, (model.entry source target).isSome := by
  simp [isComplete, List.all_eq_true, List.mem_range]

end Model

end TspSolver
