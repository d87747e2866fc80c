import EntityStore.Number.Double
import Mathlib.Algebra.Order.Field.Power
import Mathlib.Data.Rat.Cast.Order
import Mathlib.Tactic.Positivity
import Mathlib.Tactic.FieldSimp
import Mathlib.Tactic.Ring
import Mathlib.Tactic.Linarith

/-!
# Exponents and rounding as rational numbers

The whole numbers that rounding works with stand for rational numbers: a power of two is reached iff
the ratio is at least it (`atLeastPow2_iff`), the exponent of a ratio is the one whose power and the
next one enclose it (`floorLog2_eq`), and a ratio that is whole is not rounded (`roundHalfEven_eq`).
-/

namespace EntityStore.Number

@[simp] theorem cast_pow2 (n : Nat) : ((pow2 n : Nat) : ℚ) = 2 ^ n := by
  rw [pow2, Nat.pow_eq, Nat.cast_pow, Nat.cast_ofNat]

/-- A power of two with any exponent as a ratio of whole ones. -/
theorem zpow_eq (e : Int) : (2 : ℚ) ^ e = 2 ^ e.toNat / 2 ^ (-e).toNat := by
  conv_lhs => rw [← Int.toNat_sub_toNat_neg e]
  rw [zpow_sub₀ (by norm_num), zpow_natCast, zpow_natCast]

variable {num den : Nat} {e : Int}

/-- A ratio, scaled by a power of two. -/
theorem cast_scaled : ((num * pow2 (-e).toNat : Nat) : ℚ) / ((den * pow2 e.toNat : Nat) : ℚ) =
    num / den / 2 ^ e := by
  rw [zpow_eq, Nat.cast_mul, Nat.cast_mul, cast_pow2, cast_pow2]
  field_simp

theorem atLeastPow2_iff (hden : 0 < den) :
    atLeastPow2 num den e = true ↔ (2 : ℚ) ^ e ≤ num / den := by
  have hden' : (0 : ℚ) < den := by exact_mod_cast hden
  rw [atLeastPow2, decide_eq_true_iff, zpow_eq, div_le_div_iff₀ (by positivity) hden',
    ← cast_pow2, ← cast_pow2, mul_comm]
  exact_mod_cast Iff.rfl

/-! ## Exponents -/

/-- There is only one exponent whose power and the next one enclose a number. -/
theorem exponent_unique {v : ℚ} {a b : Int} (ha : 2 ^ a ≤ v) (ha' : v < 2 ^ (a + 1))
    (hb : 2 ^ b ≤ v) (hb' : v < 2 ^ (b + 1)) : a = b := by
  have hab : a < b + 1 := (zpow_lt_zpow_iff_right₀ (by norm_num)).1 (lt_of_le_of_lt ha hb')
  have hba : b < a + 1 := (zpow_lt_zpow_iff_right₀ (by norm_num)).1 (lt_of_le_of_lt hb ha')
  omega

theorem floorLog2_spec (hnum : 0 < num) (hden : 0 < den) :
    (2 : ℚ) ^ floorLog2 num den ≤ num / den ∧ (num / den : ℚ) < 2 ^ (floorLog2 num den + 1) := by
  have hden' : (0 : ℚ) < den := by exact_mod_cast hden
  have hnum₁ : (2 : ℚ) ^ num.log2 ≤ num := by exact_mod_cast Nat.log2_self_le (by omega)
  have hnum₂ : (num : ℚ) < 2 ^ (num.log2 + 1) := by exact_mod_cast Nat.lt_log2_self
  have hden₁ : (2 : ℚ) ^ den.log2 ≤ den := by exact_mod_cast Nat.log2_self_le (by omega)
  have hden₂ : (den : ℚ) < 2 ^ (den.log2 + 1) := by exact_mod_cast Nat.lt_log2_self
  have hlow : (2 : ℚ) ^ ((num.log2 : Int) - den.log2 - 1) ≤ num / den := by
    rw [le_div_iff₀ hden']
    calc (2 : ℚ) ^ ((num.log2 : Int) - den.log2 - 1) * den
        ≤ 2 ^ ((num.log2 : Int) - den.log2 - 1) * 2 ^ (den.log2 + 1) :=
          mul_le_mul_of_nonneg_left hden₂.le (by positivity)
      _ = 2 ^ num.log2 := by
          rw [← zpow_natCast, ← zpow_natCast, ← zpow_add₀ (by norm_num)]
          congr 1
          push_cast
          ring
      _ ≤ num := hnum₁
  have hhigh : (num / den : ℚ) < 2 ^ ((num.log2 : Int) - den.log2 + 1) := by
    rw [div_lt_iff₀ hden']
    calc (num : ℚ) < 2 ^ (num.log2 + 1) := hnum₂
      _ = 2 ^ ((num.log2 : Int) - den.log2 + 1) * 2 ^ den.log2 := by
          rw [← zpow_natCast, ← zpow_natCast, ← zpow_add₀ (by norm_num)]
          congr 1
          push_cast
          ring
      _ ≤ 2 ^ ((num.log2 : Int) - den.log2 + 1) * den :=
          mul_le_mul_of_nonneg_left hden₁ (by positivity)
  rw [floorLog2]
  by_cases h : atLeastPow2 num den ((num.log2 : Int) - den.log2) = true
  · simp only [h, if_true]
    exact ⟨(atLeastPow2_iff hden).1 h, hhigh⟩
  · simp only [h, Bool.false_eq_true, if_false]
    rw [atLeastPow2_iff hden, not_le] at h
    exact ⟨hlow, by rwa [sub_add_cancel]⟩

theorem floorLog2_eq (hnum : 0 < num) (hden : 0 < den) (h : (2 : ℚ) ^ e ≤ num / den)
    (h' : (num / den : ℚ) < 2 ^ (e + 1)) : floorLog2 num den = e :=
  exponent_unique (floorLog2_spec hnum hden).1 (floorLog2_spec hnum hden).2 h h'

/-! ## Rounding -/

theorem roundHalfEven_eq {n : Nat} (hden : 0 < den) (h : (num : ℚ) / den = n) :
    roundHalfEven num den = n := by
  have hden' : (den : ℚ) ≠ 0 := by exact_mod_cast hden.ne'
  have hnum : num = n * den := by
    rw [div_eq_iff hden'] at h
    exact_mod_cast h
  rw [roundHalfEven_of_dvd hden ⟨n, by rw [hnum, Nat.mul_comm]⟩, hnum, Nat.mul_div_cancel n hden]

/-- What is less than a whole number is not rounded beyond it. -/
theorem roundHalfEven_le_of_lt {n : Nat} (hden : 0 < den) (h : (num / den : ℚ) < n) :
    roundHalfEven num den ≤ n := by
  have hden' : (0 : ℚ) < den := by exact_mod_cast hden
  have hlt : num < n * den := by
    rw [div_lt_iff₀ hden'] at h
    exact_mod_cast h
  have hdiv : num / den < n := (Nat.div_lt_iff_lt_mul hden).2 hlt
  exact Nat.le_trans (roundHalfEven_le num den) hdiv

end EntityStore.Number
