import EntityStore.Proofs.Number.Single

/-!
# Whole numbers as doubles

Up to `2 ^ 53` in magnitude a whole number is a `Double` and is not rounded (`view_ofInt`), so no two
of them become one `Double` (`ofInt_inj`).
-/

namespace EntityStore.Double

open Number

/-- A positive whole number up to `2 ^ 53` has a `Double` with all bits. -/
theorem exists_scaled_of_le {n : Nat} (hpos : 0 < n) (hle : n ≤ 2 ^ 53) :
    ∃ M E, Scaled M E ∧ (M * 2 ^ E : ℚ) = n := by
  have hlow : 2 ^ n.log2 ≤ n := Nat.log2_self_le hpos.ne'
  rcases hle.eq_or_lt with rfl | hlt
  · exact ⟨2 ^ 52, 1, ⟨by norm_num, by norm_num, by norm_num, by norm_num⟩, by norm_num⟩
  · have hlog : n.log2 < 53 := (Nat.pow_lt_pow_iff_right (by norm_num)).1 (hlow.trans_lt hlt)
    obtain ⟨M, E, hM, hv⟩ := exists_scaled (e := 0) hpos (by omega) (by omega) (by omega)
    exact ⟨M, E, hM, by rw [hv, zpow_zero, mul_one]⟩

/-- A whole number up to `2 ^ 53` in magnitude is not rounded. -/
theorem view_ofInt {i : Int} (hi : i.natAbs ≤ 2 ^ 53) :
    ∃ M E, (ofInt i).view = .finite (i < 0) M E ∧ (M * 2 ^ E : ℚ) = i.natAbs := by
  rcases Nat.eq_zero_or_pos i.natAbs with hzero | hpos
  · obtain rfl : i = 0 := Int.natAbs_eq_zero.1 hzero
    exact ⟨0, -1074, by decide +kernel, by simp⟩
  · obtain ⟨M, E, hM, hv⟩ := exists_scaled_of_le hpos hi
    refine ⟨M, E, ?_, hv⟩
    rw [ofInt, ofRatio_of_scaled hM Nat.one_pos (by rw [Nat.cast_one, div_one, hv]),
      view_ofScaled hM]

/-- No two whole numbers up to `2 ^ 53` in magnitude are one `Double`. -/
theorem ofInt_inj {i j : Int} (hi : i.natAbs ≤ 2 ^ 53) (hj : j.natAbs ≤ 2 ^ 53) :
    ofInt i = ofInt j ↔ i = j := by
  refine ⟨fun h => ?_, congrArg ofInt⟩
  obtain ⟨M, E, hview, hv⟩ := view_ofInt hi
  obtain ⟨M', E', hview', hv'⟩ := view_ofInt hj
  rw [h, hview'] at hview
  obtain ⟨hsign, rfl, rfl⟩ := View.finite.inj hview
  have habs : i.natAbs = j.natAbs := by exact_mod_cast hv.symm.trans hv'
  have hneg : j < 0 ↔ i < 0 := by simpa using hsign
  omega

end EntityStore.Double
