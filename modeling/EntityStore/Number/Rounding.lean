/-!
# Rounding a ratio of natural numbers

`roundHalfEven num den` is the whole number nearest to `num / den`, and of two equally near ones the
even one. `floorLog2 num den` is the exponent of the largest power of two that is at most
`num / den`.
-/

namespace EntityStore.Number

/-- The power of two with an exponent. -/
def pow2 (n : Nat) : Nat := Nat.pow 2 n

/-- The power of ten with an exponent. -/
def pow10 (n : Nat) : Nat := Nat.pow 10 n

@[simp] theorem pow2_zero : pow2 0 = 1 := rfl

@[simp] theorem pow10_zero : pow10 0 = 1 := rfl

theorem pow2_pos (n : Nat) : 0 < pow2 n := Nat.pow_pos (by decide)

/-- The whole number nearest to a ratio; halves go to the even neighbour. -/
def roundHalfEven (num den : Nat) : Nat :=
  let q := num / den
  let r := num % den
  if 2 * r < den then q
  else if den < 2 * r then q + 1
  else q + q % 2

theorem roundHalfEven_of_dvd {num den : Nat} (hden : 0 < den) (h : den ∣ num) :
    roundHalfEven num den = num / den := by
  have : num % den = 0 := Nat.mod_eq_zero_of_dvd h
  simp [roundHalfEven, this, hden]

theorem roundHalfEven_le (num den : Nat) : roundHalfEven num den ≤ num / den + 1 := by
  simp only [roundHalfEven]
  split
  · omega
  · split <;> omega

/-- Whether `num / den` is at least `2 ^ e`. -/
def atLeastPow2 (num den : Nat) (e : Int) : Bool :=
  den * pow2 e.toNat ≤ num * pow2 (-e).toNat

/-- The greatest exponent `e` with `2 ^ e ≤ num / den`, for positive `num` and `den`. -/
def floorLog2 (num den : Nat) : Int :=
  let e : Int := (num.log2 : Int) - den.log2
  if atLeastPow2 num den e then e else e - 1

/-- Whether `num / den` is at least `10 ^ e`. -/
def atLeastPow10 (num den : Nat) (e : Int) : Bool :=
  den * pow10 e.toNat ≤ num * pow10 (-e).toNat

/-- The greatest exponent `e` with `10 ^ e ≤ num / den`, for positive `num` and `den`. The first
guess is one too small at most, since `log 2` lies between `0.30102` and `0.30103`. -/
def floorLog10 (num den : Nat) : Int :=
  let e : Int := (floorLog2 num den * 30103) / 100000 - 1
  if atLeastPow10 num den (e + 2) then e + 2
  else if atLeastPow10 num den (e + 1) then e + 1
  else e

end EntityStore.Number
