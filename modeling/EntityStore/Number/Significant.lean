import EntityStore.Number.Numeral

/-!
# A fixed number of significant digits

A positive ratio is rounded to a given number of significant digits, halves up. The text has a point
with at least one digit behind it and no other zeros at the end; exponents outside a small range are
written out.
-/

namespace EntityStore.Number

/-- The whole number nearest to a ratio; halves go up. -/
def roundHalfUp (num den : Nat) : Nat := (2 * num + den) / (2 * den)

/-- The decimal of `places` significant digits nearest to a positive ratio. -/
def significant (places num den : Nat) : Decimal :=
  let g := floorLog10 num den - (places - 1 : Nat)
  let d := roundHalfUp (num * pow10 (-g).toNat) (den * pow10 g.toNat)
  if pow10 places ≤ d then ⟨d / 10, g + 1⟩ else ⟨d, g⟩

/-- A decimal without zeros at the end of its digits; at most `fuel` zeros are left out. -/
def trimZeros : Nat → Decimal → Decimal
  | 0, d => d
  | fuel + 1, d =>
    if d.digits % 10 = 0 ∧ d.digits ≠ 0 then trimZeros fuel ⟨d.digits / 10, d.exponent + 1⟩ else d

/-- Digits with a point behind the first one. -/
def pointed : List Char → List Char
  | [] => []
  | [c] => [c, '.', '0']
  | c :: rest => c :: '.' :: rest

/-- An exponent with its sign and at least two digits. -/
def exponentText (e : Int) : List Char :=
  let digits := Nat.toDigits 10 e.natAbs
  (if e < 0 then '-' else '+') :: (if digits.length < 2 then '0' :: digits else digits)

/-- The text of a positive decimal; the first digit stands at an exponent from -4 up to `limit`, or
the exponent is written out. -/
def pointedText (limit : Int) (d : Decimal) : List Char :=
  let digits := Nat.toDigits 10 d.digits
  let top := d.exponent + digits.length - 1
  if top < -4 ∨ limit < top then pointed digits ++ 'e' :: exponentText top
  else if 0 ≤ d.exponent then positional d ++ ['.', '0']
  else positional d

/-- The text of a number with at most `places` significant digits. A zero has no sign. -/
def significantText (places : Nat) (x : Double) : List Char :=
  match x.view with
  | .nan => "NaN".toList
  | .infinite negative => (if negative then "-Inf" else "Inf").toList
  | .finite negative mantissa exponent =>
    if mantissa = 0 then "0.0".toList
    else
      let (num, den) := Double.ratio mantissa exponent
      let magnitude := pointedText (places - 1 : Nat) (trimZeros places (significant places num den))
      if negative then '-' :: magnitude else magnitude

end EntityStore.Number
