import EntityStore.Number.Shortest

/-!
# Numerals

Numbers as text. An integer numeral is an optional sign and ASCII digits. A decimal numeral has an
optional sign, digits with an optional point, at least one digit, and an optional exponent; the words
`inf`, `infinity` and `nan` are read in any case. A `Double` is printed with the fewest digits that
read back, always positionally.
-/

namespace EntityStore.Number

/-! ## Digits -/

/-- The value of an ASCII digit. -/
def digit? (c : Char) : Option Nat :=
  if '0' ≤ c ∧ c ≤ '9' then some (c.toNat - '0'.toNat) else none

/-- Whether a character is an ASCII digit. -/
def isDigit (c : Char) : Bool := (digit? c).isSome

/-- The number that a list of digits writes after `acc`. -/
def digitsValue (acc : Nat) : List Char → Nat
  | [] => acc
  | c :: rest => digitsValue (acc * 10 + (digit? c).getD 0) rest

@[simp] theorem digitsValue_nil (acc : Nat) : digitsValue acc [] = acc := rfl

@[simp] theorem digitsValue_cons (acc : Nat) (c : Char) (rest : List Char) :
    digitsValue acc (c :: rest) = digitsValue (acc * 10 + (digit? c).getD 0) rest := rfl

/-- The number of a text that consists of one or more ASCII digits. -/
def readDigits? (s : List Char) : Option Nat :=
  if s.isEmpty then none
  else if s.all isDigit then some (digitsValue 0 s)
  else none

@[simp] theorem readDigits?_nil : readDigits? [] = none := rfl

/-- A sign in front of a numeral: whether it is negative, and what follows. -/
def takeSign : List Char → Bool × List Char
  | '-' :: rest => (true, rest)
  | '+' :: rest => (false, rest)
  | s => (false, s)

/-! ## Integers -/

/-- The integer of an optional sign and one or more ASCII digits. -/
def readInt? (s : List Char) : Option Int :=
  let (negative, digits) := takeSign s
  (readDigits? digits).map fun n => if negative then -(n : Int) else n

/-- The integer of a numeral, if it fits into sixty-four bits. -/
def readInt64? (s : List Char) : Option Int64 :=
  match readInt? s with
  | some i => if Int64.minValue.toInt ≤ i ∧ i ≤ Int64.maxValue.toInt then some (Int64.ofInt i) else none
  | none => none

/-! ## Decimal fractions -/

/-- A decimal rounded by a given rule for ratios. Far outside the range of the finite numbers the answer
needs no arithmetic. -/
def roundDecimal (ofRatio : Bool → Nat → Nat → Double) (negative : Bool) (d : Decimal) : Double :=
  if d.digits = 0 then Double.zero negative
  else
    let top := d.exponent + (Nat.toDigits 10 d.digits).length
    if 400 < top then Double.infinity negative
    else if top < -400 then Double.zero negative
    else ofRatio negative (d.digits * pow10 d.exponent.toNat) (pow10 (-d.exponent).toNat)

/-- An exponent mark with its numeral, or nothing. -/
def readExponent? : List Char → Option Int
  | [] => some 0
  | c :: rest => if c = 'e' ∨ c = 'E' then readInt? rest else none

/-- Digits with an optional point and an optional exponent. -/
def readDecimal? (s : List Char) : Option Decimal :=
  let whole := s.takeWhile isDigit
  let rest := s.dropWhile isDigit
  let (fraction, rest) :=
    match rest with
    | '.' :: r => (r.takeWhile isDigit, r.dropWhile isDigit)
    | r => ([], r)
  if whole.isEmpty && fraction.isEmpty then none
  else (readExponent? rest).map fun e =>
    ⟨digitsValue 0 (whole ++ fraction), e - fraction.length⟩

/-- The number of a decimal numeral, rounded by a given rule, or of one of the words for an infinity or
no number. -/
def readRounded? (ofRatio : Bool → Nat → Nat → Double) (s : List Char) : Option Double :=
  let (negative, rest) := takeSign s
  match readDecimal? rest with
  | some d => some (roundDecimal ofRatio negative d)
  | none =>
    let word := rest.map Char.toLower
    if word = "inf".toList ∨ word = "infinity".toList then some (Double.infinity negative)
    else if word = "nan".toList then some Double.nan
    else none

/-- The nearest `Double` to a numeral. -/
def readDouble? (s : List Char) : Option Double := readRounded? Double.ofRatio s

/-- The nearest single precision number to a numeral. -/
def readSingle? (s : List Char) : Option Double := readRounded? Double.singleOfRatio s

/-- A decimal written positionally, without an exponent. -/
def positional (d : Decimal) : List Char :=
  let digits := Nat.toDigits 10 d.digits
  if 0 ≤ d.exponent then digits ++ List.replicate d.exponent.toNat '0'
  else
    let places := (-d.exponent).toNat
    if places < digits.length then
      digits.take (digits.length - places) ++ '.' :: digits.drop (digits.length - places)
    else '0' :: '.' :: List.replicate (places - digits.length) '0' ++ digits

/-- The text of a `Double`: the fewest digits that read back, without an exponent. -/
def doubleText (x : Double) : List Char :=
  match x.view with
  | .nan => "NaN".toList
  | .infinite negative => (if negative then "-inf" else "inf").toList
  | .finite negative mantissa exponent =>
    let magnitude := if mantissa = 0 then ['0'] else positional (shortestDecimal mantissa exponent)
    if negative then '-' :: magnitude else magnitude

end EntityStore.Number
