import TspSolver.Compare

/-!
# What the matrix file may look like

The file is a header and a number for every pair of nodes, row by row, in any
layout. Such a text is accepted exactly when it has as many numbers as its header
announces, and then every number is found in its place.
-/

namespace TspSolver.Compare

open Text

/-! ## Accepted matrices -/

/-- A matrix with a row for every node and a value for every pair of nodes. -/
structure Matrix.WellFormed (matrix : Matrix) : Prop where
  size_pos : 0 < matrix.size
  length_eq : matrix.values.length = matrix.size
  rows : ∀ row ∈ matrix.values, row.length = matrix.size

theorem parseMatrix_wellFormed {storage : Storage} {path : String} {file : Option (List Char)}
    {matrix : Matrix} (parsed : parseMatrix storage path file = .ok matrix) :
    matrix.WellFormed := by
  rcases file with - | text
  · cases parsed
  · rcases header : InputStream.extract Numeral.toUnsigned { unread := text } with
      ⟨- | size, input⟩
    · simp [parseMatrix, header] at parsed
    · by_cases empty : size = 0
      · simp [parseMatrix, header, empty] at parsed
      · cases fits : storage.fits size with
        | false => simp [parseMatrix, header, empty, fits] at parsed
        | true =>
            rcases body : repeatRead (repeatRead readCost size) size input with
              ⟨- | values, later⟩
            · simp [parseMatrix, header, empty, fits, body] at parsed
            · rcases extra : later.extract Numeral.toSigned with ⟨- | value, last⟩
              · simp only [parseMatrix, header, empty, fits, Bool.not_true, Bool.false_eq_true,
                  if_false, body, extra, Except.ok.injEq] at parsed
                rcases length_of_repeatRead (congrArg Prod.fst body) with ⟨lengthEq, rowsRead⟩
                rw [← parsed]
                refine ⟨Nat.pos_of_ne_zero empty, lengthEq, ?_⟩
                intro row rowMem
                rcases rowsRead row rowMem with ⟨earlier, rowRead⟩
                exact (length_of_repeatRead rowRead).1
              · simp [parseMatrix, header, empty, fits, body, extra] at parsed

/-! ## Layouts -/

/-- A number with the white space before it. -/
structure Entry where
  gap : List Char
  value : Cost
  blank : gap.all isSpace = true
  nonempty : gap ≠ []

/-- How the number stands in the file. -/
def Entry.text (entry : Entry) : List Char := entry.gap ++ decimal entry.value.toInt

/-- A header and numbers, with white space between them and at both ends. -/
structure Layout where
  lead : List Char
  size : ℕ
  entries : List Entry
  trail : List Char
  lead_blank : lead.all isSpace = true
  size_lt : size < 2 ^ 64
  trail_blank : trail.all isSpace = true

/-- The whole file. -/
def Layout.text (layout : Layout) : List Char :=
  layout.lead ++ (decimal layout.size ++ (layout.entries.flatMap Entry.text ++ layout.trail))

/-- The numbers in rows of equal length. -/
def Layout.rows (layout : Layout) : List (List Cost) :=
  (List.range layout.size).map fun row => (List.range layout.size).map fun column =>
    (layout.entries.map Entry.value).getD (row * layout.size + column) 0

theorem ends_of_blank {spaces : List Char} (blank : spaces.all isSpace = true) : Ends spaces := by
  cases spaces with
  | nil => exact ends_nil
  | cons first others => simpa using ends_of_spaces blank (List.cons_ne_nil first others) []

theorem Entry.ends (entry : Entry) (rest : List Char) : Ends (entry.text ++ rest) := by
  rw [Entry.text, List.append_assoc]
  exact ends_of_spaces entry.blank entry.nonempty _

theorem extract_entry (entry : Entry) {rest : List Char} (ends : Ends rest) :
    InputStream.extract Numeral.toSigned { unread := entry.text ++ rest } =
      (some entry.value.toInt, { unread := rest }) := by
  have lower := entry.value.le_toInt
  have upper := entry.value.toInt_lt
  rw [Entry.text, List.append_assoc]
  exact extract_decimal entry.blank ends (toSigned_decimal lower upper)

theorem readsBack_entries : ReadsBack readCost Entry.text Entry.value Ends where
  one entry rest ends := by
    simp [readCost, extract_entry entry ends]
  keeps entry rest _ := entry.ends rest

theorem extract_trail {spaces : List Char} (blank : spaces.all isSpace = true) :
    (InputStream.extract Numeral.toSigned { unread := spaces }).1 = none :=
  extract_blank blank rfl

/-- One row after the other takes the numbers in order. -/
theorem repeatRead_rows {trail : List Char} (blank : trail.all isSpace = true) (size count : ℕ)
    {entries : List Entry} (enough : count * size ≤ entries.length) :
    repeatRead (repeatRead readCost size) count
        { unread := entries.flatMap Entry.text ++ trail } =
      (some ((List.range count).map fun row =>
          ((entries.drop (row * size)).take size).map Entry.value),
        { unread := (entries.drop (count * size)).flatMap Entry.text ++ trail }) := by
  induction count generalizing entries with
  | zero => simp [repeatRead]
  | succ count ih =>
      have first : size ≤ entries.length := by
        apply le_trans _ enough
        exact Nat.le_mul_of_pos_left size (Nat.succ_pos count)
      have others : count * size ≤ (entries.drop size).length := by
        rw [Nat.succ_mul] at enough
        rw [List.length_drop]
        omega
      have shift (row : ℕ) : size + row * size = (row + 1) * size := by ring
      simp [repeatRead, readsBack_entries.enough (ends_of_blank blank) first, ih others,
        List.range_succ_eq_map, Function.comp_def, shift]

/-- Too few numbers for the rows. -/
theorem repeatRead_rows_of_tooFew {trail : List Char} (blank : trail.all isSpace = true)
    (size count : ℕ) {entries : List Entry} (tooFew : entries.length < count * size) :
    (repeatRead (repeatRead readCost size) count
      { unread := entries.flatMap Entry.text ++ trail }).1 = none := by
  induction count generalizing entries with
  | zero => simp at tooFew
  | succ count ih =>
      by_cases first : size ≤ entries.length
      · have others : (entries.drop size).length < count * size := by
          rw [Nat.succ_mul] at tooFew
          rw [List.length_drop]
          omega
        simp [repeatRead, readsBack_entries.enough (ends_of_blank blank) first, ih others]
      · have stops : (readCost { unread := trail }).1 = none := by
          simp [readCost, extract_trail blank]
        have missing := readsBack_entries.tooFew (ends_of_blank blank) stops
          (Nat.lt_of_not_le first)
        rcases rowEq : repeatRead readCost size
          { unread := entries.flatMap Entry.text ++ trail } with ⟨- | row, later⟩
        · simp [repeatRead, rowEq]
        · simp [rowEq] at missing

theorem Layout.rows_eq (layout : Layout)
    (counted : layout.entries.length = layout.size * layout.size) :
    ((List.range layout.size).map fun row =>
      ((layout.entries.drop (row * layout.size)).take layout.size).map Entry.value) =
      layout.rows := by
  apply List.map_congr_left
  intro row rowMem
  have rowLt := List.mem_range.mp rowMem
  have rowEnd : row * layout.size + layout.size ≤ layout.entries.length := by
    rw [counted, ← Nat.succ_mul]
    exact Nat.mul_le_mul_right _ rowLt
  apply List.ext_getElem
  · simp
    omega
  · intro column columnLt _
    have inside : row * layout.size + column < layout.entries.length := by
      simp only [List.length_map, List.length_take, List.length_drop, lt_inf_iff] at columnLt
      omega
    simp [inside]

/--
A header and numbers in any layout are accepted exactly when the rows find memory
and there is a number for every pair, and then each number is where the rows put
it; otherwise the error says what is wrong, or there was no memory.
-/
theorem parseMatrix_text (storage : Storage) (layout : Layout) (path : String) :
    parseMatrix storage path (some layout.text) =
      if layout.size = 0 then .error (.message "matrix header is invalid")
      else if storage.fits layout.size = false then .error .uncaught
      else if layout.entries.length < layout.size * layout.size then
        .error (.message "matrix is missing values")
      else if layout.size * layout.size < layout.entries.length then
        .error (.message "matrix file contains extra values")
      else .ok { size := layout.size, values := layout.rows } := by
  have bodyEnds : Ends (layout.entries.flatMap Entry.text ++ layout.trail) :=
    readsBack_entries.tails layout.entries (ends_of_blank layout.trail_blank)
  have header := extract_decimal layout.lead_blank bodyEnds (toUnsigned_decimal layout.size_lt)
  simp only [parseMatrix, Layout.text, header]
  by_cases empty : layout.size = 0
  · simp [empty]
  cases fits : storage.fits layout.size with
  | false => simp [empty]
  | true =>
      by_cases tooFew : layout.entries.length < layout.size * layout.size
      · have missing := repeatRead_rows_of_tooFew layout.trail_blank layout.size layout.size tooFew
        rcases rowsEq : repeatRead (repeatRead readCost layout.size) layout.size
          { unread := layout.entries.flatMap Entry.text ++ layout.trail } with ⟨- | rows, later⟩
        · simp [empty, tooFew]
        · simp [rowsEq] at missing
      · have body := repeatRead_rows layout.trail_blank layout.size layout.size
          (Nat.le_of_not_lt tooFew)
        rcases left : layout.entries.drop (layout.size * layout.size) with - | ⟨entry, entries⟩
        · have counted : layout.entries.length = layout.size * layout.size := by
            rw [List.drop_eq_nil_iff] at left
            omega
          rw [layout.rows_eq counted] at body
          have noExtra := extract_trail layout.trail_blank
          rcases extra : InputStream.extract Numeral.toSigned { unread := layout.trail } with
            ⟨- | value, last⟩
          · simp [empty, body, left, extra, counted]
          · simp [extra] at noExtra
        · have tooMany : layout.size * layout.size < layout.entries.length := by
            have lengthEq := congrArg List.length left
            simp at lengthEq
            omega
          have next := extract_entry entry
            (readsBack_entries.tails entries (ends_of_blank layout.trail_blank))
          simp [empty, tooFew, tooMany, body, left, next]

/-- A header of 2^60 or more ends the program, whatever stands behind it. -/
theorem parseMatrix_of_huge (storage : Storage) (layout : Layout) (path : String)
    (huge : 2 ^ 60 ≤ layout.size) :
    parseMatrix storage path (some layout.text) = .error .uncaught := by
  rw [parseMatrix_text, if_neg (by omega), if_pos (storage.fits_of_huge _ huge)]

end TspSolver.Compare
