import EntityStore.Number.Double

/-!
# The shortest decimal that reads back

For a positive `m · 2 ^ e` the reals that are rounded to it form an interval, whose ends belong to it
iff `m` is even. `shortestDecimal` looks at the decimal grids with 1, 2, … significant digits in turn;
the first grid with a point in the interval gives the answer. On each grid only the two neighbours of
the number can be the nearest point; if both are in the interval the nearer one is taken, and a tie
goes up. The search begins one grid above the number, so that a power of ten is found as one digit.
-/

namespace EntityStore.Number

/-- A decimal `digits · 10 ^ exponent`. -/
structure Decimal where
  /-- The significant digits, as a number. -/
  digits : Nat
  /-- The power of ten of the last digit. -/
  exponent : Int
deriving DecidableEq, Inhabited

/-- The interval of reals that are rounded to one number, in quarters of its last place: the ends
`low` and `high` and the number `mid` itself, in units of `num / den`. -/
structure RoundingInterval where
  /-- The lower end. -/
  low : Nat
  /-- The number. -/
  mid : Nat
  /-- The upper end. -/
  high : Nat
  /-- Whether the ends are rounded to the number. -/
  closed : Bool
  /-- Numerator of the unit. -/
  num : Nat
  /-- Denominator of the unit. -/
  den : Nat

/-- The interval of a finite positive number. Below a power of two the numbers lie half as far
apart, except at the smallest exponent. -/
def RoundingInterval.of (mantissa : Nat) (exponent : Int) : RoundingInterval :=
  let step := if mantissa = Double.fractionSize ∧ -1074 < exponent then 1 else 2
  { low := 4 * mantissa - step, mid := 4 * mantissa, high := 4 * mantissa + 2
    closed := mantissa % 2 == 0
    num := pow2 (exponent - 2).toNat, den := pow2 (2 - exponent).toNat }

/-- Whether `d · 10 ^ g` lies in the interval. -/
def RoundingInterval.contains (r : RoundingInterval) (d : Nat) (g : Int) : Bool :=
  let x := d * pow10 g.toNat * r.den
  let scale := r.num * pow10 (-g).toNat
  if r.closed then r.low * scale ≤ x && x ≤ r.high * scale
  else r.low * scale < x && x < r.high * scale

/-- Whether `d + 1` is at least as near as `d` to the number on the grid of `10 ^ g`, for a number
between the two. -/
def RoundingInterval.upperNearer (r : RoundingInterval) (d : Nat) (g : Int) : Bool :=
  2 * (r.mid * r.num * pow10 (-g).toNat) ≥ (2 * d + 1) * pow10 g.toNat * r.den

/-- The answer on the grid of `10 ^ g`, if the grid has a point in the interval. -/
def RoundingInterval.onGrid? (r : RoundingInterval) (g : Int) : Option Decimal :=
  let d := (r.mid * r.num * pow10 (-g).toNat) / (r.den * pow10 g.toNat)
  match r.contains d g, r.contains (d + 1) g with
  | true, true => some (if r.upperNearer d g then ⟨d + 1, g⟩ else ⟨d, g⟩)
  | true, false => some ⟨d, g⟩
  | false, true => some ⟨d + 1, g⟩
  | false, false => none

/-- The first grid with an answer, from the grid of `10 ^ g` on. -/
def RoundingInterval.search (r : RoundingInterval) : Nat → Int → Decimal
  | 0, g => (r.onGrid? g).getD ⟨0, 0⟩
  | fuel + 1, g =>
    match r.onGrid? g with
    | some d => d
    | none => search r fuel (g - 1)

/-- The decimal with the fewest digits that is rounded to `mantissa · 2 ^ exponent`; seventeen digits
always suffice. -/
def shortestDecimal (mantissa : Nat) (exponent : Int) : Decimal :=
  let (num, den) := Double.ratio mantissa exponent
  (RoundingInterval.of mantissa exponent).search 18 (floorLog10 num den + 1)

end EntityStore.Number
