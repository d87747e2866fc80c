import EntityStore.Number.Significant
import EntityStore.Sqlite.Datum

/-!
# Column types

The type of a column says what becomes of a value that is stored in it. An integer column turns text
that reads as a number into that number, and whole numbers into integers; a real column turns all of
these into numbers; a text column turns numbers into text; any other column keeps the value. The same
is done to the other side of a comparison with a column.
-/

namespace EntityStore.Sqlite

/-! ## Text that reads as a number -/

/-- Whether a character may stand around a number in a text. -/
def isSpace (c : Char) : Bool := c.toNat == 32 || (9 ≤ c.toNat && c.toNat ≤ 13)

/-- The number at the beginning of a text, and what follows it. -/
structure NumericPrefix where
  /-- Whether it has a minus sign. -/
  negative : Bool
  magnitude : Number.Decimal
  /-- Whether it has neither a point nor an exponent. -/
  isInteger : Bool
  /-- What follows. -/
  rest : List Char

/-- An exponent and what follows it; none without digits. -/
def takeExponent? : List Char → Option (Int × List Char)
  | [] => none
  | c :: rest =>
    if c = 'e' ∨ c = 'E' then
      let (negative, rest) := Number.takeSign rest
      (Number.readDigits? (rest.takeWhile Number.isDigit)).map fun n =>
        (if negative then -(n : Int) else n, rest.dropWhile Number.isDigit)
    else none

/-- The number at the beginning of a text, after blanks. -/
def NumericPrefix.of? (s : List Char) : Option NumericPrefix :=
  let (negative, s) := Number.takeSign (s.dropWhile isSpace)
  let whole := s.takeWhile Number.isDigit
  let (hasPoint, fraction, rest) :=
    match s.dropWhile Number.isDigit with
    | '.' :: r => (true, r.takeWhile Number.isDigit, r.dropWhile Number.isDigit)
    | r => (false, [], r)
  if whole.isEmpty && fraction.isEmpty then none
  else
    let digits := Number.digitsValue 0 (whole ++ fraction)
    match takeExponent? rest with
    | some (e, rest) => some ⟨negative, ⟨digits, e - fraction.length⟩, false, rest⟩
    | none => some ⟨negative, ⟨digits, -(fraction.length : Int)⟩, !hasPoint, rest⟩

/-- The number as a `Double`. -/
def NumericPrefix.toDouble (p : NumericPrefix) : Double :=
  Number.roundDecimal Double.ofRatio p.negative p.magnitude

/-- The characters of some bytes, one for each. -/
def byteChars (b : List UInt8) : List Char := b.map fun x => Char.ofNat x.toNat

/-- The integer that fits into sixty-four bits. -/
def int64? (i : Int) : Option Int64 :=
  if Int64.minValue.toInt ≤ i ∧ i ≤ Int64.maxValue.toInt then some (Int64.ofInt i) else none

/-- The number that a whole text writes. -/
def numberOf? (s : List Char) : Option Datum :=
  match NumericPrefix.of? s with
  | none => none
  | some p =>
    if !p.rest.all isSpace then none
    else
      let exact := if p.isInteger then
        int64? (if p.negative then -(p.magnitude.digits : Int) else p.magnitude.digits) else none
      match exact with
      | some i => some (.int i)
      | none => some (.real p.toDouble)

/-- The number at the beginning of a text; zero if there is none. -/
def leadingNumber (s : List Char) : Double :=
  match NumericPrefix.of? s with
  | some p => p.toDouble
  | none => Double.zero false

/-! ## Types -/

inductive ColumnType where
  | integer
  | real
  | text
  /-- No type, or a type of bytes. -/
  | untyped
deriving DecidableEq, Repr, Inhabited

namespace ColumnType

/-- Whether a column holds numbers. -/
def isNumeric : ColumnType → Bool
  | integer => true
  | real => true
  | _ => false

/-- An integer for a whole number; the least and the greatest integer are not used. -/
def wholeToInt (x : Double) : Datum :=
  match x.toInt? with
  | some i =>
    if Int64.minValue.toInt < i ∧ i < Int64.maxValue.toInt then .int (Int64.ofInt i) else .real x
  | none => .real x

/-- A text that reads as a number becomes that number, and a whole number an integer. -/
def toNumber : Datum → Datum
  | .text b =>
    match numberOf? (byteChars b) with
    | some (.real x) => wholeToInt x
    | some d => d
    | none => .text b
  | .real x => wholeToInt x
  | d => d

/-- An integer becomes a number. -/
def toReal : Datum → Datum
  | .int i => .real (Double.ofInt i.toInt)
  | d => d

/-- A number becomes a text. -/
def toText : Datum → Datum
  | .int i => .ofString (toString i.toInt)
  | .real x => .ofString (String.ofList (Number.significantText 15 x))
  | d => d

/-- A value as a column of a type stores it. -/
def store : ColumnType → Datum → Datum
  | integer, d => toNumber d
  | real, d => toReal (toNumber d)
  | text, d => toText d
  | untyped, d => d

@[simp] theorem store_null (t : ColumnType) : t.store .null = .null := by cases t <;> rfl

@[simp] theorem store_untyped (d : Datum) : untyped.store d = d := rfl

/-! ## Comparisons -/

/-- What is done to both sides of a comparison, given the types of those sides that are columns. Of two
columns only a numeric one counts, and that for both sides. -/
def aligned : Option ColumnType → Option ColumnType → Datum → Datum
  | some a, some b => if a.isNumeric || b.isNumeric then toNumber else id
  | some a, none => one a
  | none, some b => one b
  | none, none => id
where
  /-- What one column does to both sides. -/
  one : ColumnType → Datum → Datum
    | integer => toNumber
    | real => toNumber
    | text => toText
    | untyped => id

end ColumnType

end EntityStore.Sqlite
