import EntityStore.Number.Rounding

/-!
# Double precision numbers

A `Double` is its sixty-four bits: a sign, eleven bits of exponent and fifty-two bits of fraction.
`Double.view` reads the bits as not a number, an infinity or `± mantissa · 2 ^ exponent`, and
`Double.ofRatio` rounds an exact ratio to the nearest `Double`, halves to the even one. Everything is
exact arithmetic on natural numbers.
-/

namespace EntityStore

/-- A double precision number, given by its bits. -/
structure Double where
  /-- Sign, exponent and fraction, from the highest bit down. -/
  bits : UInt64
deriving DecidableEq, Inhabited

namespace Double

open Number

/-- What the bits of a `Double` stand for. -/
inductive View where
  /-- Not a number. -/
  | nan
  | infinite (negative : Bool)
  /-- The number `± mantissa · 2 ^ exponent`. -/
  | finite (negative : Bool) (mantissa : Nat) (exponent : Int)
deriving DecidableEq

/-- The number of fractions. -/
def fractionSize : Nat := 4_503_599_627_370_496

/-- The number of magnitudes, which is what the sign bit stands for. -/
def signSize : Nat := 2048 * fractionSize

def isNegative (x : Double) : Bool := signSize ≤ x.bits.toNat

/-- What the bits stand for. -/
def view (x : Double) : View :=
  let fraction : Nat := x.bits.toNat % fractionSize
  let field : Nat := x.bits.toNat / fractionSize % 2048
  if field = 2047 then
    if fraction = 0 then .infinite x.isNegative else .nan
  else if field = 0 then .finite x.isNegative fraction (-1074)
  else .finite x.isNegative (fractionSize + fraction) ((field : Int) - 1075)

/-- Whether the bits stand for no number. -/
def isNaN (x : Double) : Bool := x.view == .nan

/-- The bits of a sign and a magnitude. -/
def ofSignMagnitude (negative : Bool) (magnitude : Nat) : Double :=
  ⟨UInt64.ofNat ((if negative then signSize else 0) + magnitude)⟩

def infinityMagnitude : Nat := 2047 * fractionSize

def infinity (negative : Bool) : Double := ofSignMagnitude negative infinityMagnitude

/-- The value that is no number. -/
def nan : Double := ⟨0x7ff8000000000000⟩

def zero (negative : Bool) : Double := ofSignMagnitude negative 0

/-- The nearest `Double` to `± num / den`, halves to the even one; beyond the largest finite one it
is an infinity. -/
def ofRatio (negative : Bool) (num den : Nat) : Double :=
  if num = 0 then zero negative
  else
    let e := max (floorLog2 num den - 52) (-1074)
    let m := roundHalfEven (num * pow2 (-e).toNat) (den * pow2 e.toNat)
    ofSignMagnitude negative (min ((e + 1074).toNat * fractionSize + m) infinityMagnitude)

/-- The nearest `Double` to an integer. -/
def ofInt (i : Int) : Double := ofRatio (i < 0) i.natAbs 1

/-- Numerator and denominator of `mantissa · 2 ^ exponent`. -/
def ratio (mantissa : Nat) (exponent : Int) : Nat × Nat :=
  (mantissa * pow2 exponent.toNat, pow2 (-exponent).toNat)

/-- The nearest single precision number to `± num / den`, as a `Double`; halves go to the even one. -/
def singleOfRatio (negative : Bool) (num den : Nat) : Double :=
  if num = 0 then zero negative
  else
    let e := max (floorLog2 num den - 23) (-149)
    let m := roundHalfEven (num * pow2 (-e).toNat) (den * pow2 e.toNat)
    if atLeastPow2 (ratio m e).1 (ratio m e).2 128 then infinity negative
    else ofRatio negative (ratio m e).1 (ratio m e).2

/-- The nearest single precision number, as a `Double`. -/
def toSingle (x : Double) : Double :=
  match x.view with
  | .finite negative mantissa exponent =>
    singleOfRatio negative (ratio mantissa exponent).1 (ratio mantissa exponent).2
  | _ => x

/-- A number as a signed numerator over a positive denominator; `none` unless it is finite. -/
def toRatio? (x : Double) : Option (Int × Nat) :=
  match x.view with
  | .finite negative mantissa exponent =>
    let (num, den) := ratio mantissa exponent
    some (if negative then -(num : Int) else num, den)
  | _ => none

/-- Whether two values are equal as numbers: zeros of both signs are, and no number equals `nan`. -/
def numericEq (x y : Double) : Bool :=
  match x.view, y.view with
  | .nan, _ => false
  | _, .nan => false
  | .finite _ 0 _, .finite _ 0 _ => true
  | _, _ => x.bits == y.bits

/-- The integer a value is equal to, if there is one. -/
def toInt? (x : Double) : Option Int :=
  match x.toRatio? with
  | some (num, den) => if num % den = 0 then some (num / den) else none
  | none => none

/-- The order of a value and an integer, exactly; `none` for `nan`. -/
def compareInt? (x : Double) (i : Int) : Option Ordering :=
  match x.view with
  | .nan => none
  | .infinite negative => some (if negative then .lt else .gt)
  | .finite .. => x.toRatio?.map fun (num, den) => compare num (i * den)

/-- The order of two values as numbers; `none` if one of them is `nan`. -/
def compare? (x y : Double) : Option Ordering :=
  match x.view, y.view with
  | .nan, _ => none
  | _, .nan => none
  | .infinite a, .infinite b => some (if a == b then .eq else if a then .lt else .gt)
  | .infinite a, _ => some (if a then .lt else .gt)
  | _, .infinite b => some (if b then .gt else .lt)
  | _, _ =>
    match x.toRatio?, y.toRatio? with
    | some (a, b), some (c, d) => some (compare (a * d) (c * b))
    | _, _ => none

@[simp] theorem numericEq_nan (x : Double) : numericEq nan x = false := by
  have : nan.view = .nan := by decide +kernel
  simp [numericEq, this]

end Double

end EntityStore
