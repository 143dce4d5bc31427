import Mathlib.Algebra.Order.Group.Int
import Mathlib.Algebra.Order.Group.Nat
import Mathlib.Data.List.TakeWhile
import Mathlib.Tactic.ByContra

/-!
# Formatted input

A text stream yields one number after another: leading white space is skipped,
then an optional sign and as many decimal digits as there are. Where no digits
follow, or where the number does not fit its type, the extraction fails, and so
does every later one.
-/

namespace Text

universe u

/-- What has not been read yet, and whether an extraction has failed. -/
structure InputStream where
  unread : List Char
  failed : Bool := false
deriving DecidableEq, Repr

/-- Blank, tabulators, line feed, form feed and carriage return. -/
def isSpace (character : Char) : Bool :=
  character.toNat = 32 ∨ 9 ≤ character.toNat ∧ character.toNat ≤ 13

/-- A sign and the digits behind it. -/
structure Numeral where
  negative : Bool
  digits : List Char
deriving DecidableEq, Repr

/-- The digits in base ten. -/
def Numeral.magnitude (numeral : Numeral) : ℕ := Nat.ofDigitChars 10 numeral.digits 0

/-- A sign, if there is one, and what follows. -/
def takeSign : List Char → Bool × List Char
  | '-' :: rest => (true, rest)
  | '+' :: rest => (false, rest)
  | unsigned => (false, unsigned)

/-- The numeral at the front of a text and what follows. -/
def takeNumeral (text : List Char) : Numeral × List Char :=
  let signed := takeSign text
  ({ negative := signed.1, digits := signed.2.takeWhile Char.isDigit },
    signed.2.dropWhile Char.isDigit)

/-- A signed type of 64 bits. -/
def Numeral.toSigned (numeral : Numeral) : Option ℤ :=
  let value : ℤ := if numeral.negative then -numeral.magnitude else numeral.magnitude
  if numeral.digits = [] ∨ value < -2 ^ 63 ∨ 2 ^ 63 ≤ value then none else some value

/-- An unsigned type of 64 bits; a minus sign negates modulo its range. -/
def Numeral.toUnsigned (numeral : Numeral) : Option ℕ :=
  if numeral.digits = [] ∨ 2 ^ 64 ≤ numeral.magnitude then none
  else some (if numeral.negative then (2 ^ 64 - numeral.magnitude) % 2 ^ 64 else numeral.magnitude)

/-- `input >> value`; the value is missing when the extraction has failed. -/
def InputStream.extract {Value : Type u} (convert : Numeral → Option Value)
    (stream : InputStream) : Option Value × InputStream :=
  if stream.failed then (none, stream)
  else
    let scanned := takeNumeral (stream.unread.dropWhile isSpace)
    ((convert scanned.1), { unread := scanned.2, failed := (convert scanned.1).isNone })

/-! ## Decimals -/

/-- An integer as an output stream writes it. -/
def decimal (value : ℤ) : List Char :=
  if value < 0 then '-' :: Nat.toDigits 10 value.natAbs else Nat.toDigits 10 value.natAbs

/-- A numeral ends here: the text is over or goes on with white space. -/
def Ends (text : List Char) : Prop := ∀ character ∈ text.head?, isSpace character = true

theorem ends_nil : Ends [] := by simp [Ends]

theorem ends_of_spaces {spaces : List Char} (blank : spaces.all isSpace = true)
    (nonempty : spaces ≠ []) (rest : List Char) : Ends (spaces ++ rest) := by
  cases spaces with
  | nil => exact absurd rfl nonempty
  | cons first others =>
      simp only [List.all_cons, Bool.and_eq_true] at blank
      simp [Ends, blank.1]

theorem isSpace_eq_false {character : Char} (large : 33 ≤ character.toNat) :
    isSpace character = false := by
  simp only [isSpace, decide_eq_false_iff_not]
  omega

theorem isDigit_eq_false_of_isSpace {character : Char} (space : isSpace character = true) :
    character.isDigit = false := by
  have bound : character.toNat < 33 := by
    by_contra large
    rw [isSpace_eq_false (by omega)] at space
    cases space
  simp only [Char.isDigit, Bool.and_eq_false_imp, decide_eq_true_eq, decide_eq_false_iff_not]
  intro lower
  have lowerNat : 48 ≤ character.toNat := lower
  omega

theorem isDigit_iff {character : Char} :
    character.isDigit = true ↔ 48 ≤ character.toNat ∧ character.toNat ≤ 57 := by
  simp only [Char.isDigit, Bool.and_eq_true, decide_eq_true_eq]
  rfl

theorem takeWhile_digits {digits rest : List Char} (allDigits : ∀ digit ∈ digits, digit.isDigit)
    (ends : Ends rest) :
    (digits ++ rest).takeWhile Char.isDigit = digits ∧
      (digits ++ rest).dropWhile Char.isDigit = rest := by
  have stops : rest.takeWhile Char.isDigit = [] ∧ rest.dropWhile Char.isDigit = rest := by
    cases rest with
    | nil => simp
    | cons first others =>
        have space : isSpace first = true := ends first (by simp)
        simp [isDigit_eq_false_of_isSpace space]
  rw [List.takeWhile_append_of_pos allDigits, List.dropWhile_append_of_pos allDigits, stops.1,
    stops.2, List.append_nil]
  exact ⟨rfl, rfl⟩

theorem isDigit_of_mem_toDigits {value : ℕ} {digit : Char}
    (digitMem : digit ∈ Nat.toDigits 10 value) : digit.isDigit = true :=
  Nat.isDigit_of_mem_toDigits (by decide) (by decide) digitMem

theorem takeSign_digits {digits : List Char} (allDigits : ∀ digit ∈ digits, digit.isDigit)
    (nonempty : digits ≠ []) (rest : List Char) :
    takeSign (digits ++ rest) = (false, digits ++ rest) := by
  cases digits with
  | nil => exact absurd rfl nonempty
  | cons first others =>
      have bounds := isDigit_iff.mp (allDigits first (by simp))
      simp only [List.cons_append, takeSign]
      split
      · next same =>
          cases same
          exact absurd bounds.1 (by decide)
      · next same =>
          cases same
          exact absurd bounds.1 (by decide)
      · rfl

/-- A decimal is read back as its sign and its digits. -/
theorem takeNumeral_decimal (value : ℤ) {rest : List Char} (ends : Ends rest) :
    takeNumeral (decimal value ++ rest) =
      ({ negative := decide (value < 0), digits := Nat.toDigits 10 value.natAbs }, rest) := by
  have digits : ∀ digit ∈ Nat.toDigits 10 value.natAbs, digit.isDigit :=
    fun digit digitMem => isDigit_of_mem_toDigits digitMem
  rcases takeWhile_digits digits ends with ⟨taken, dropped⟩
  by_cases negative : value < 0
  · simp [takeNumeral, decimal, negative, takeSign, taken, dropped]
  · simp [takeNumeral, decimal, negative, takeSign_digits digits, taken, dropped]

/-- A decimal does not begin with white space. -/
theorem dropWhile_isSpace_decimal {spaces : List Char} (blank : spaces.all isSpace = true)
    (value : ℤ) (rest : List Char) :
    (spaces ++ (decimal value ++ rest)).dropWhile isSpace = decimal value ++ rest := by
  rw [List.dropWhile_append_of_pos (by simpa using blank)]
  have first : ∃ character others, decimal value = character :: others ∧
      isSpace character = false := by
    rcases digitsEq : Nat.toDigits 10 value.natAbs with - | ⟨digit, digits⟩
    · exact absurd digitsEq Nat.toDigits_ne_nil
    · by_cases negative : value < 0
      · exact ⟨'-', digit :: digits, by simp [decimal, negative, digitsEq], by decide⟩
      · refine ⟨digit, digits, by simp [decimal, negative, digitsEq], ?_⟩
        have bounds := isDigit_iff.mp (isDigit_of_mem_toDigits (digitsEq ▸ List.mem_cons_self))
        exact isSpace_eq_false (by omega)
  rcases first with ⟨character, others, decimalEq, notSpace⟩
  rw [decimalEq, List.cons_append, List.dropWhile_cons_of_neg (by simp [notSpace])]

/-- What is written as a decimal is extracted unchanged, up to the text behind it. -/
theorem extract_decimal {Value : Type u} {convert : Numeral → Option Value} {value : ℤ}
    {result : Value} {spaces rest : List Char} (blank : spaces.all isSpace = true)
    (ends : Ends rest)
    (converts : convert
      { negative := decide (value < 0), digits := Nat.toDigits 10 value.natAbs } = some result) :
    InputStream.extract convert { unread := spaces ++ (decimal value ++ rest) } =
      (some result, { unread := rest }) := by
  simp [InputStream.extract, dropWhile_isSpace_decimal blank, takeNumeral_decimal value ends,
    converts]

theorem toSigned_decimal {value : ℤ} (lower : -2 ^ 63 ≤ value) (upper : value < 2 ^ 63) :
    Numeral.toSigned { negative := decide (value < 0), digits := Nat.toDigits 10 value.natAbs } =
      some value := by
  have magnitude : (if value < 0 then -(value.natAbs : ℤ) else value.natAbs) = value := by
    split <;> omega
  simp only [Numeral.toSigned, Numeral.magnitude, Nat.ofDigitChars_ten_toDigits,
    decide_eq_true_eq, magnitude, Nat.toDigits_ne_nil, false_or]
  rw [if_neg (by omega)]

theorem toUnsigned_decimal {value : ℕ} (upper : value < 2 ^ 64) :
    Numeral.toUnsigned
      { negative := decide ((value : ℤ) < 0), digits := Nat.toDigits 10 (value : ℤ).natAbs } =
      some value := by
  have positive : ¬(value : ℤ) < 0 := by omega
  simp only [Numeral.toUnsigned, Numeral.magnitude, Int.natAbs_natCast,
    Nat.ofDigitChars_ten_toDigits, Nat.toDigits_ne_nil, false_or, positive, decide_false]
  rw [if_neg (by omega)]
  rfl

/-- Nothing but white space is no number. -/
theorem extract_blank {Value : Type u} {convert : Numeral → Option Value} {spaces : List Char}
    (blank : spaces.all isSpace = true)
    (empty : convert { negative := false, digits := [] } = none) :
    (InputStream.extract convert { unread := spaces }).1 = none := by
  have skipped : spaces.dropWhile isSpace = [] := by
    rw [List.dropWhile_eq_nil_iff]
    simpa using blank
  simp [InputStream.extract, skipped, takeNumeral, takeSign, empty]

/-! ## Several numbers -/

/-- The same reader over and over, until it fails. -/
def repeatRead {Value : Type u} (reader : InputStream → Option Value × InputStream) :
    ℕ → InputStream → Option (List Value) × InputStream
  | 0, stream => (some [], stream)
  | count + 1, stream =>
      match reader stream with
      | (none, later) => (none, later)
      | (some value, later) =>
          let others := repeatRead reader count later
          (others.1.map (value :: ·), others.2)

theorem length_of_repeatRead {Value : Type u}
    {reader : InputStream → Option Value × InputStream} {count : ℕ} {stream : InputStream}
    {values : List Value} (read : (repeatRead reader count stream).1 = some values) :
    values.length = count ∧ ∀ value ∈ values, ∃ earlier, (reader earlier).1 = some value := by
  induction count generalizing stream values with
  | zero =>
      simp only [repeatRead, Option.some.injEq] at read
      simp [← read]
  | succ count ih =>
      rcases readerEq : reader stream with ⟨- | value, later⟩
      · simp [repeatRead, readerEq] at read
      · simp only [repeatRead, readerEq, Option.map_eq_some_iff] at read
        rcases read with ⟨others, othersRead, rfl⟩
        rcases ih othersRead with ⟨lengthEq, all⟩
        refine ⟨by simp [lengthEq], ?_⟩
        intro other otherMem
        rcases List.mem_cons.mp otherMem with rfl | inOthers
        · exact ⟨stream, by simp [readerEq]⟩
        · exact all other inOthers

section Written

variable {Value Written : Type u} {reader : InputStream → Option Value × InputStream}
  {write : Written → List Char} {value : Written → Value}

/-- Before each of the rests that `tail` allows, the reader reads back what is written. -/
structure ReadsBack (reader : InputStream → Option Value × InputStream)
    (write : Written → List Char) (value : Written → Value) (tail : List Char → Prop) : Prop where
  one : ∀ written rest, tail rest →
    reader { unread := write written ++ rest } = (some (value written), { unread := rest })
  keeps : ∀ written rest, tail rest → tail (write written ++ rest)

theorem ReadsBack.tails {tail : List Char → Prop} (reads : ReadsBack reader write value tail)
    (writtens : List Written) {rest : List Char} (ends : tail rest) :
    tail (writtens.flatMap write ++ rest) := by
  induction writtens with
  | nil => exact ends
  | cons written others ih =>
      rw [List.flatMap_cons, List.append_assoc]
      exact reads.keeps written _ ih

/-- The first of the written values are read back, if there are enough. -/
theorem ReadsBack.enough {tail : List Char → Prop} (reads : ReadsBack reader write value tail)
    {rest : List Char} (ends : tail rest) {count : ℕ} {writtens : List Written}
    (enough : count ≤ writtens.length) :
    repeatRead reader count { unread := writtens.flatMap write ++ rest } =
      (some ((writtens.take count).map value),
        { unread := (writtens.drop count).flatMap write ++ rest }) := by
  induction count generalizing writtens with
  | zero => rfl
  | succ count ih =>
      cases writtens with
      | nil => simp at enough
      | cons written others =>
          have fewer : count ≤ others.length := by simpa using enough
          rw [List.flatMap_cons, List.append_assoc]
          simp [repeatRead, reads.one written _ (reads.tails others ends), ih fewer]

/-- If there are too few the reader meets what follows them. -/
theorem ReadsBack.tooFew {tail : List Char → Prop} (reads : ReadsBack reader write value tail)
    {rest : List Char} (ends : tail rest) (stops : (reader { unread := rest }).1 = none)
    {count : ℕ} {writtens : List Written} (tooFew : writtens.length < count) :
    (repeatRead reader count { unread := writtens.flatMap write ++ rest }).1 = none := by
  induction count generalizing writtens with
  | zero => simp at tooFew
  | succ count ih =>
      cases writtens with
      | nil =>
          rcases readerEq : reader { unread := rest } with ⟨- | value, later⟩
          · simp [repeatRead, readerEq]
          · simp [readerEq] at stops
      | cons written others =>
          have fewer : others.length < count := by simpa using tooFew
          rw [List.flatMap_cons, List.append_assoc]
          simp [repeatRead, reads.one written _ (reads.tails others ends), ih fewer]

end Written

end Text
