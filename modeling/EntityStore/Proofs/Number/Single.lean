import EntityStore.Proofs.Number.Rounding

/-!
# Rounding to single precision

A number `m · 2 ^ e` of at most twenty-four bits, with an exponent that a single precision number
may have, is a `Double` and is not rounded, neither to a `Double` nor to single precision. Rounding
to single precision ends with such a number, with zero or with an infinity, so rounding again
changes nothing (`toSingle_toSingle`).
-/

namespace EntityStore.Double

open Number

variable {negative : Bool} {num den m M : Nat} {e E : Int}

/-- The ratio of a mantissa and an exponent. -/
theorem cast_ratio (m : Nat) (e : Int) : ((ratio m e).1 : ℚ) / (ratio m e).2 = m * 2 ^ e := by
  rw [ratio, zpow_eq, Nat.cast_mul, cast_pow2, cast_pow2]
  ring

theorem ratio_snd_pos (m : Nat) (e : Int) : 0 < (ratio m e).2 := pow2_pos _

/-! ## Numbers with all bits of the fraction -/

/-- The number `± M · 2 ^ E`, if `M` has all bits of a `Double`. -/
def ofScaled (negative : Bool) (M : Nat) (E : Int) : Double :=
  ofSignMagnitude negative ((E + 1074).toNat * fractionSize + M)

/-- The mantissa has fifty-three bits, and the exponent is that of a finite `Double`. -/
structure Scaled (M : Nat) (E : Int) : Prop where
  low : 2 ^ 52 ≤ M
  high : M < 2 ^ 53
  least : -1074 ≤ E
  greatest : E ≤ 971

theorem view_ofScaled (h : Scaled M E) : (ofScaled negative M E).view = .finite negative M E := by
  obtain ⟨hlow, hhigh, hleast, hgreatest⟩ := h
  obtain ⟨k, hk⟩ : ∃ k : Nat, (E + 1074).toNat = k := ⟨_, rfl⟩
  have hE : E = (k : Int) - 1074 := by omega
  have hbits : (ofScaled negative M E).bits.toNat =
      (if negative then signSize else 0) + (k * fractionSize + M) := by
    rw [ofScaled, ofSignMagnitude, hk, UInt64.toNat_ofNat']
    apply Nat.mod_eq_of_lt
    simp only [signSize, fractionSize]
    split <;> omega
  have hfield : (ofScaled negative M E).bits.toNat / fractionSize % 2048 = k + 1 := by
    rw [hbits]
    simp only [signSize, fractionSize]
    split <;> omega
  have hfraction : (ofScaled negative M E).bits.toNat % fractionSize = M - fractionSize := by
    rw [hbits]
    simp only [signSize, fractionSize]
    split <;> omega
  have hsign : (ofScaled negative M E).isNegative = negative := by
    rw [isNegative, hbits]
    simp only [signSize, fractionSize]
    cases negative with
    | false => exact decide_eq_false (by simp; omega)
    | true => exact decide_eq_true (by simp)
  have hM : fractionSize + (M - fractionSize) = M := by
    rw [fractionSize]
    omega
  have hexp : ((k + 1 : Nat) : Int) - 1075 = E := by omega
  rw [view]
  simp only [hfield, hfraction, hsign, hM, hexp]
  rw [if_neg (by omega), if_neg (by omega)]

/-- The power of two that a number with all bits reaches. -/
theorem Scaled.bounds (h : Scaled M E) :
    (2 : ℚ) ^ (E + 52) ≤ M * 2 ^ E ∧ (M * 2 ^ E : ℚ) < 2 ^ (E + 52 + 1) := by
  have hpos : (0 : ℚ) < 2 ^ E := by positivity
  have hlow : (2 : ℚ) ^ (52 : Nat) ≤ M := by exact_mod_cast h.low
  have hhigh : (M : ℚ) < 2 ^ (53 : Nat) := by exact_mod_cast h.high
  constructor
  · rw [zpow_add₀ (by norm_num), mul_comm]
    exact mul_le_mul_of_nonneg_right hlow hpos.le
  · rw [add_assoc, zpow_add₀ (by norm_num), mul_comm ((2 : ℚ) ^ E)]
    exact mul_lt_mul_of_pos_right hhigh hpos

/-- A ratio that has a `Double` with all bits has an exponent. -/
theorem floorLog2_of_scaled (h : Scaled M E) (hden : 0 < den) (hv : (num / den : ℚ) = M * 2 ^ E) :
    0 < num ∧ floorLog2 num den = E + 52 := by
  have hnum : 0 < num := by
    have hpos : (0 : ℚ) < num / den := by
      rw [hv]
      have : (0 : ℚ) < M := by exact_mod_cast Nat.lt_of_lt_of_le (by norm_num) h.low
      positivity
    by_contra h₀
    simp [Nat.eq_zero_of_not_pos h₀] at hpos
  exact ⟨hnum, floorLog2_eq hnum hden (hv ▸ h.bounds.1) (hv ▸ h.bounds.2)⟩

/-- A number with all bits is not rounded. -/
theorem ofRatio_of_scaled (h : Scaled M E) (hden : 0 < den) (hv : (num / den : ℚ) = M * 2 ^ E) :
    ofRatio negative num den = ofScaled negative M E := by
  obtain ⟨hnum, hlog⟩ := floorLog2_of_scaled h hden hv
  have hexp : max (floorLog2 num den - 52) (-1074) = E := by
    rw [hlog]
    have := h.least
    omega
  have hround : roundHalfEven (num * pow2 (-E).toNat) (den * pow2 E.toNat) = M := by
    refine roundHalfEven_eq (Nat.mul_pos hden (pow2_pos _)) ?_
    rw [cast_scaled, hv, mul_div_assoc, div_self (by positivity), mul_one]
  rw [ofRatio, if_neg (by omega)]
  simp only [hexp, hround]
  rw [ofScaled, Nat.min_eq_left]
  have := h.high
  have := h.greatest
  rw [infinityMagnitude, fractionSize]
  omega

/-- Filled up with zero bits, a number of at most fifty-three bits has all bits of a `Double`. -/
theorem exists_scaled (hpos : 0 < m) (hlog : m.log2 ≤ 52) (hleast : -1022 ≤ m.log2 + e)
    (hgreatest : m.log2 + e ≤ 1023) : ∃ M E, Scaled M E ∧ (M * 2 ^ E : ℚ) = m * 2 ^ e := by
  have hlow : 2 ^ m.log2 ≤ m := Nat.log2_self_le hpos.ne'
  have hhigh : m < 2 ^ (m.log2 + 1) := Nat.lt_log2_self
  refine ⟨m * 2 ^ (52 - m.log2), e - (52 - m.log2 : Nat), ⟨?_, ?_, by omega, by omega⟩, ?_⟩
  · calc 2 ^ 52 = 2 ^ m.log2 * 2 ^ (52 - m.log2) := by rw [← Nat.pow_add]; congr 1; omega
      _ ≤ m * 2 ^ (52 - m.log2) := Nat.mul_le_mul_right _ hlow
  · calc m * 2 ^ (52 - m.log2) < 2 ^ (m.log2 + 1) * 2 ^ (52 - m.log2) :=
          Nat.mul_lt_mul_of_pos_right hhigh (by positivity)
      _ = 2 ^ 53 := by rw [← Nat.pow_add]; congr 1; omega
  · rw [Nat.cast_mul, Nat.cast_pow, Nat.cast_ofNat, mul_assoc, ← zpow_natCast,
      ← zpow_add₀ (by norm_num)]
    congr 2
    ring

/-! ## Numbers of single precision -/

/-- The number `m · 2 ^ e` has at most twenty-four bits and the exponent of a finite number of
single precision. -/
structure Short (m : Nat) (e : Int) : Prop where
  pos : 0 < m
  size : m ≤ 2 ^ 24
  least : -149 ≤ e
  bound : (m * 2 ^ e : ℚ) < 2 ^ (128 : Int)

/-- Filled up with zero bits, a number of single precision is a `Double`. -/
theorem Short.exists_scaled (h : Short m e) :
    ∃ M E, Scaled M E ∧ (M * 2 ^ E : ℚ) = m * 2 ^ e := by
  have hlow : 2 ^ m.log2 ≤ m := Nat.log2_self_le h.pos.ne'
  have hlog : m.log2 ≤ 24 := (Nat.pow_le_pow_iff_right (by norm_num)).1 (hlow.trans h.size)
  have hexp : (m.log2 : Int) + e < 128 := by
    refine (zpow_lt_zpow_iff_right₀ (by norm_num : (1 : ℚ) < 2)).1 (lt_of_le_of_lt ?_ h.bound)
    rw [zpow_add₀ (by norm_num), zpow_natCast]
    exact mul_le_mul_of_nonneg_right (by exact_mod_cast hlow) (by positivity)
  have hleast := h.least
  exact Double.exists_scaled h.pos (by omega) (by omega) (by omega)

/-- The exponent that single precision leaves to a number of single precision leaves it whole. -/
theorem Short.exists_whole (h : Short m e) (hM : Scaled M E) (hv : (M * 2 ^ E : ℚ) = m * 2 ^ e) :
    ∃ n : Nat, (n * 2 ^ max (E + 29) (-149) : ℚ) = m * 2 ^ e := by
  have hsize : (m : ℚ) ≤ 2 ^ (24 : Int) := by exact_mod_cast h.size
  have hpos : (0 : ℚ) < 2 ^ e := by positivity
  have hexp : E + 52 ≤ e + 24 := by
    refine (zpow_le_zpow_iff_right₀ (by norm_num : (1 : ℚ) < 2)).1 (hM.bounds.1.trans ?_)
    rw [hv, add_comm e, zpow_add₀ (by norm_num)]
    exact mul_le_mul_of_nonneg_right hsize hpos.le
  by_cases he : max (E + 29) (-149) ≤ e
  · refine ⟨m * 2 ^ (e - max (E + 29) (-149)).toNat, ?_⟩
    rw [Nat.cast_mul, Nat.cast_pow, Nat.cast_ofNat, mul_assoc, ← zpow_natCast,
      ← zpow_add₀ (by norm_num), Int.toNat_of_nonneg (by omega), sub_add_cancel]
  · -- Rounding up has made the mantissa a power of two.
    have hleast := h.least
    have hE : E + 52 = 24 + e := by omega
    have hm : (m : ℚ) = 2 ^ (24 : Int) := by
      refine le_antisymm hsize (le_of_mul_le_mul_right ?_ hpos)
      rw [← zpow_add₀ (by norm_num), ← hE, ← hv]
      exact hM.bounds.1
    have hmax : max (E + 29) (-149) = 1 + e := by omega
    refine ⟨2 ^ 23, ?_⟩
    rw [hmax, hm, zpow_add₀ (by norm_num)]
    norm_num [← mul_assoc]

/-- A number of single precision is not rounded to single precision. -/
theorem singleOfRatio_of_short (h : Short m e) (hM : Scaled M E) (hv : (M * 2 ^ E : ℚ) = m * 2 ^ e)
    (hden : 0 < den) (hratio : (num / den : ℚ) = m * 2 ^ e) :
    singleOfRatio negative num den = ofScaled negative M E := by
  obtain ⟨hnum, hlog⟩ := floorLog2_of_scaled hM hden (hratio.trans hv.symm)
  obtain ⟨n, hn⟩ := h.exists_whole hM hv
  have hexp : max (floorLog2 num den - 23) (-149) = max (E + 29) (-149) := by
    rw [hlog]
    congr 1
    ring
  have hround : roundHalfEven (num * pow2 (-max (E + 29) (-149)).toNat)
      (den * pow2 (max (E + 29) (-149)).toNat) = n := by
    refine roundHalfEven_eq (Nat.mul_pos hden (pow2_pos _)) ?_
    rw [cast_scaled, hratio, ← hn, mul_div_assoc, div_self (by positivity), mul_one]
  have hbound : atLeastPow2 (ratio n (max (E + 29) (-149))).1
      (ratio n (max (E + 29) (-149))).2 128 = false := by
    rw [Bool.eq_false_iff, Ne, atLeastPow2_iff (ratio_snd_pos _ _), cast_ratio, hn, not_le]
    exact h.bound
  rw [singleOfRatio, if_neg (by omega)]
  simp only [hexp, hround, hbound, Bool.false_eq_true, if_false]
  exact ofRatio_of_scaled hM (ratio_snd_pos _ _) (by rw [cast_ratio, hn, hv])

/-- Rounding to single precision ends with zero, with an infinity or with a number of single
precision. -/
theorem singleOfRatio_cases (negative : Bool) (num : Nat) (hden : 0 < den) :
    singleOfRatio negative num den = zero negative ∨
      singleOfRatio negative num den = infinity negative ∨
      ∃ m e M E, Short m e ∧ Scaled M E ∧ (M * 2 ^ E : ℚ) = m * 2 ^ e ∧
        singleOfRatio negative num den = ofScaled negative M E := by
  rw [singleOfRatio]
  by_cases hnum : num = 0
  · exact Or.inl (if_pos hnum)
  rw [if_neg hnum]
  obtain ⟨e, he⟩ : ∃ e, max (floorLog2 num den - 23) (-149) = e := ⟨_, rfl⟩
  obtain ⟨m, hm⟩ : ∃ m, roundHalfEven (num * pow2 (-e).toNat) (den * pow2 e.toNat) = m := ⟨_, rfl⟩
  simp only [he, hm]
  by_cases hbound : atLeastPow2 (ratio m e).1 (ratio m e).2 128 = true
  · exact Or.inr (Or.inl (if_pos hbound))
  rw [if_neg hbound]
  by_cases hm₀ : m = 0
  · refine Or.inl ?_
    rw [hm₀, ratio, Nat.zero_mul, ofRatio, if_pos rfl]
  have hshort : Short m e := by
    refine ⟨Nat.pos_of_ne_zero hm₀, ?_, by omega, ?_⟩
    · rw [← hm]
      refine roundHalfEven_le_of_lt (Nat.mul_pos hden (pow2_pos _)) ?_
      rw [cast_scaled, div_lt_iff₀ (by positivity)]
      refine lt_of_lt_of_le (floorLog2_spec (Nat.pos_of_ne_zero hnum) hden).2 ?_
      rw [Nat.cast_pow, Nat.cast_ofNat, ← zpow_natCast, ← zpow_add₀ (by norm_num)]
      exact zpow_le_zpow_right₀ (by norm_num) (by push_cast; omega)
    · rw [atLeastPow2_iff (ratio_snd_pos _ _), cast_ratio, not_le] at hbound
      exact hbound
  obtain ⟨M, E, hM, hv⟩ := hshort.exists_scaled
  exact Or.inr (Or.inr ⟨m, e, M, E, hshort, hM, hv,
    ofRatio_of_scaled hM (ratio_snd_pos _ _) (by rw [cast_ratio, hv])⟩)

/-- Rounding to single precision again changes nothing. -/
theorem toSingle_toSingle (x : Double) : x.toSingle.toSingle = x.toSingle := by
  obtain hview | ⟨negative, m, e, hview⟩ : x.toSingle = x ∨
      ∃ negative m e, x.view = .finite negative m e := by
    rw [toSingle]
    cases h : x.view with
    | nan => exact Or.inl rfl
    | infinite negative => exact Or.inl rfl
    | finite negative m e => exact Or.inr ⟨negative, m, e, rfl⟩
  · rw [hview, hview]
  have hsingle : x.toSingle = singleOfRatio negative (ratio m e).1 (ratio m e).2 := by
    rw [toSingle, hview]
  rcases singleOfRatio_cases negative (ratio m e).1 (ratio_snd_pos m e) with
    h | h | ⟨n, p, M, E, hshort, hM, hv, h⟩
  · rw [hsingle, h]
    cases negative <;> decide +kernel
  · rw [hsingle, h]
    cases negative <;> decide +kernel
  · have hagain : (ofScaled negative M E).toSingle =
        singleOfRatio negative (ratio M E).1 (ratio M E).2 := by
      rw [toSingle, view_ofScaled hM]
    rw [hsingle, h, hagain]
    exact singleOfRatio_of_short hshort hM hv (ratio_snd_pos _ _) (by rw [cast_ratio, hv])

end EntityStore.Double
