import EntityStore.Proofs.Number.Numeral
import EntityStore.Proofs.Placement.TargetSet
import Mathlib.Data.Int.ModEq
import Mathlib.Data.List.Nodup
import Mathlib.Data.List.ProdSigma

/-!
# Residues and targets

A key is placed by its residues modulo the numbers of databases and of tables.

1. Different partitions of a dimension have different names (`Dimension.nameAt_inj`), so a scheme has
   as many targets as pairs of partitions (`HashScheme.length_broadcast`).
2. The partition of a key is its least residue (`Dimension.indexOf_eq`), also when it is computed in
   machine words (`Dimension.toNat_wordIndex`).
3. Hence two keys lie in one target iff they are congruent modulo the least common multiple of both
   numbers (`HashScheme.place_eq_place_iff`).
4. Residues of one key agree modulo the greatest common divisor. The other way round two residues that
   agree so are those of some integer, and of a key if the integers of one period are keys
   (`HashScheme.exists_place_eq_iff`). So all targets hold keys iff the numbers are coprime.
-/

namespace EntityStore

namespace Dimension

variable {d : Dimension}

theorem nameAt_inj {i j : Nat} (hi : i < d.count) (hj : j < d.count) :
    d.nameAt i = d.nameAt j ↔ i = j := by
  refine ⟨fun h => ?_, congrArg d.nameAt⟩
  unfold nameAt at h
  unfold count at hi hj
  split at h
  · exact Number.toString_inj.1 ((String.append_right_inj _).1 h)
  · next hs =>
    rw [if_neg hs] at hi hj
    omega

theorem nodup_names (d : Dimension) : d.names.Nodup := by
  refine List.nodup_range.map_on fun i hi j hj h => ?_
  exact (nameAt_inj (List.mem_range.1 hi) (List.mem_range.1 hj)).1 h

theorem length_names (d : Dimension) : d.names.length = d.count := by
  rw [names, List.length_map, List.length_range]

/-! ## The residue of a key -/

theorem count_pos (h : d.Valid) : 0 < d.count := Nat.zero_lt_of_lt (indexOf_lt_count h 0)

theorem indexOf_eq (h : d.Valid) (v : Int64) : (d.indexOf v : Int) = v.toInt % d.count := by
  have hpos := count_pos h
  unfold count at hpos ⊢
  unfold indexOf
  split
  · next hs =>
    rw [if_pos hs] at hpos
    exact Int.toNat_of_nonneg (Int.emod_nonneg _ (by omega))
  · rw [Nat.cast_one, Int.emod_one]
    rfl

/-- The residue of a key in words of 128 bits: what is left of it by a division towards zero, moved up by
the base if it is negative. -/
def wideResidue (b : UInt64) (v : Int64) : BitVec 128 :=
  let base := b.toBitVec.setWidth 128
  let rest := (v.toBitVec.signExtend 128).srem base
  if rest.slt 0#128 then rest + base else rest

/-- The partition of a key, computed in machine words. -/
def wordIndex (d : Dimension) (v : Int64) : UInt64 :=
  if d.isSharding then ⟨(wideResidue d.base v).setWidth 64⟩ else 0

theorem toInt_setWidth_base (b : UInt64) : (b.toBitVec.setWidth 128).toInt = b.toNat := by
  have hlt := b.toNat_lt
  rw [BitVec.toInt_setWidth, UInt64.toNat_toBitVec]
  exact Int.bmod_eq_of_le_mul_two (by omega) (by omega)

/-- Neither the rest nor its sum with the base leaves the words. -/
theorem toInt_wideResidue {b : UInt64} (hb : 0 < b.toNat) (v : Int64) :
    (wideResidue b v).toInt = v.toInt % b.toNat := by
  have hbase := toInt_setWidth_base b
  have hrest : ((v.toBitVec.signExtend 128).srem (b.toBitVec.setWidth 128)).toInt =
      v.toInt.tmod b.toNat := by
    rw [BitVec.toInt_srem, hbase, BitVec.toInt_signExtend_of_le (by decide), Int64.toInt_toBitVec]
  have hlow := Int.lt_tmod_of_pos v.toInt (Int.natCast_pos.2 hb)
  have hhigh := Int.tmod_lt_of_pos v.toInt (Int.natCast_pos.2 hb)
  have hlt := b.toNat_lt
  have hmod : v.toInt.tmod b.toNat % b.toNat = v.toInt % b.toNat := by
    rw [Int.tmod_def, Int.sub_mul_emod_self_left]
  unfold wideResidue
  dsimp only
  split
  · next hneg =>
    rw [BitVec.slt_iff_toInt_lt, hrest, BitVec.toInt_zero] at hneg
    rw [BitVec.toInt_add, hrest, hbase, Int.bmod_eq_of_le_mul_two (by omega) (by omega), ← hmod,
      ← Int.add_emod_right, Int.emod_eq_of_lt (by omega) (by omega)]
  · next hnonneg =>
    rw [BitVec.slt_iff_toInt_lt, hrest, BitVec.toInt_zero, Int.not_lt] at hnonneg
    rw [hrest, ← hmod, Int.emod_eq_of_lt hnonneg hhigh]

/-- The partition of a key is computed without an overflow. -/
theorem toNat_wordIndex (h : d.Valid) (v : Int64) : (d.wordIndex v).toNat = d.indexOf v := by
  unfold wordIndex
  split
  · next hs =>
    have hlt := d.base.toNat_lt
    have hcount := indexOf_lt_count h v
    have hindex := indexOf_eq h v
    have hpos := count_pos h
    rw [count, if_pos hs] at hcount hindex hpos
    have hint := toInt_wideResidue hpos v
    rw [← hindex] at hint
    have hnat : (wideResidue d.base v).toNat = d.indexOf v := by
      rw [BitVec.toInt_eq_toNat_cond] at hint
      have hwide := (wideResidue d.base v).isLt
      omega
    rw [← UInt64.toNat_toBitVec, BitVec.toNat_setWidth, hnat]
    exact Nat.mod_eq_of_lt (by omega)
  · next hs =>
    rw [indexOf, if_neg hs]
    rfl

end Dimension

namespace HashScheme

variable {s : HashScheme}

theorem length_broadcast (s : HashScheme) :
    s.broadcast.length = s.database.count * s.table.count := by
  have hpairs : (s.database.names.flatMap fun d => s.table.names.map fun t => (⟨d, t⟩ : Target)) =
      (s.database.names ×ˢ s.table.names).map fun p => ⟨p.1, p.2⟩ := by
    simp only [SProd.sprod, List.product, List.map_flatMap, List.map_map, Function.comp_def]
  have hinj : Function.Injective fun p : String × String => (⟨p.1, p.2⟩ : Target) := by
    rintro ⟨_, _⟩ ⟨_, _⟩ ⟨⟩
    rfl
  have hnodup := (s.database.nodup_names.product s.table.nodup_names).map hinj
  rw [broadcast, hpairs, (TargetSet.ofList_perm hnodup).length_eq, List.length_map,
    List.length_product, Dimension.length_names, Dimension.length_names]

/-! ## Keys in one target -/

theorem place_eq_iff {v : Int64} {i j : Nat} (hi : i < s.database.count) (hj : j < s.table.count) :
    s.place v = ⟨s.database.nameAt i, s.table.nameAt j⟩ ↔
      v.toInt ≡ i [ZMOD s.database.count] ∧ v.toInt ≡ j [ZMOD s.table.count] := by
  have hmod : ∀ {i n : Nat}, i < n → (i : Int) % n = i := fun h => Int.emod_eq_of_lt (by omega) (by omega)
  rw [place, Target.mk.injEq, Dimension.nameAt_inj (Dimension.indexOf_lt_count s.database_valid v) hi,
    Dimension.nameAt_inj (Dimension.indexOf_lt_count s.table_valid v) hj, Int.ModEq, Int.ModEq,
    hmod hi, hmod hj, ← Dimension.indexOf_eq s.database_valid, ← Dimension.indexOf_eq s.table_valid,
    Nat.cast_inj, Nat.cast_inj]

/-- Two keys lie in one target iff they are congruent modulo the least common multiple of the numbers of
databases and of tables. -/
theorem place_eq_place_iff {v w : Int64} :
    s.place v = s.place w ↔
      v.toInt ≡ w.toInt [ZMOD (Nat.lcm s.database.count s.table.count : Nat)] := by
  have hw : s.place v = s.place w ↔ _ :=
    place_eq_iff (Dimension.indexOf_lt_count s.database_valid w)
      (Dimension.indexOf_lt_count s.table_valid w)
  rw [Dimension.indexOf_eq s.database_valid, Dimension.indexOf_eq s.table_valid, Int.ModEq, Int.ModEq,
    Int.emod_emod, Int.emod_emod] at hw
  rw [hw]
  exact Int.modEq_and_modEq_iff_modEq_lcm

/-! ## Targets with keys -/

/-- The integers of one period are keys, so each integer is congruent to a key. -/
theorem exists_key_modEq {n : Nat} (hpos : 0 < n) (hn : n ≤ 2 ^ 64) (k : Int) :
    ∃ v : Int64, v.toInt ≡ k [ZMOD n] := by
  have hlow : -((n : Int) / 2) ≤ k.bmod n := Int.le_bmod hpos
  have hhigh : k.bmod n < ((n : Int) + 1) / 2 := Int.bmod_lt hpos
  refine ⟨Int64.ofInt (k.bmod n), ?_⟩
  rw [Int64.toInt_ofInt_of_le (by omega) (by omega)]
  exact Int.bmod_emod

/-- Two partitions are those of one key iff they agree modulo the greatest common divisor of the numbers
of databases and of tables. -/
theorem exists_place_eq_iff (h : Nat.lcm s.database.count s.table.count ≤ 2 ^ 64) {i j : Nat}
    (hi : i < s.database.count) (hj : j < s.table.count) :
    (∃ v, s.place v = ⟨s.database.nameAt i, s.table.nameAt j⟩) ↔
      i ≡ j [MOD Nat.gcd s.database.count s.table.count] := by
  constructor
  · rintro ⟨v, hv⟩
    obtain ⟨hvi, hvj⟩ := (place_eq_iff hi hj).1 hv
    rw [← Int.natCast_modEq_iff]
    exact (hvi.of_dvd (Int.natCast_dvd_natCast.2 (Nat.gcd_dvd_left _ _))).symm.trans
      (hvj.of_dvd (Int.natCast_dvd_natCast.2 (Nat.gcd_dvd_right _ _)))
  · intro hij
    obtain ⟨k, hki, hkj⟩ := Nat.chineseRemainder' hij
    obtain ⟨v, hv⟩ := exists_key_modEq
      (Nat.lcm_pos (Dimension.count_pos s.database_valid) (Dimension.count_pos s.table_valid)) h k
    refine ⟨v, (place_eq_iff hi hj).2 ⟨?_, ?_⟩⟩
    · have hvk := hv.of_dvd (Int.natCast_dvd_natCast.2 (Nat.dvd_lcm_left _ _))
      exact hvk.trans (Int.natCast_modEq_iff.2 hki)
    · have hvk := hv.of_dvd (Int.natCast_dvd_natCast.2 (Nat.dvd_lcm_right _ _))
      exact hvk.trans (Int.natCast_modEq_iff.2 hkj)

theorem exists_partitions {t : Target} (ht : t ∈ s.broadcast) :
    ∃ i < s.database.count, ∃ j < s.table.count, t = ⟨s.database.nameAt i, s.table.nameAt j⟩ := by
  obtain ⟨hdatabase, htable⟩ := mem_broadcast.1 ht
  obtain ⟨i, hi, hname⟩ := List.mem_map.1 hdatabase
  obtain ⟨j, hj, htname⟩ := List.mem_map.1 htable
  refine ⟨i, List.mem_range.1 hi, j, List.mem_range.1 hj, ?_⟩
  rw [hname, htname]

/-- All targets hold keys iff the numbers of databases and of tables are coprime. -/
theorem forall_exists_place_eq_iff (h : Nat.lcm s.database.count s.table.count ≤ 2 ^ 64) :
    (∀ t ∈ s.broadcast, ∃ v, s.place v = t) ↔ Nat.Coprime s.database.count s.table.count := by
  have hdatabase := Dimension.count_pos s.database_valid
  constructor
  · intro hall
    by_contra hne
    -- a common divisor keeps apart the first database and the second table
    have htable : 1 < s.table.count := by
      have hpos := Dimension.count_pos s.table_valid
      rcases Nat.lt_or_ge 1 s.table.count with hlt | hle
      · exact hlt
      · exact absurd (Nat.coprime_one_right _) (by rwa [show s.table.count = 1 by omega] at hne)
    have hmem : (⟨s.database.nameAt 0, s.table.nameAt 1⟩ : Target) ∈ s.broadcast :=
      mem_broadcast.2 ⟨Dimension.nameAt_mem_names hdatabase, Dimension.nameAt_mem_names htable⟩
    have hone := (exists_place_eq_iff h hdatabase htable).1 (hall _ hmem)
    exact hne (Nat.dvd_one.1 ((Nat.modEq_zero_iff_dvd).1 hone.symm))
  · intro hcoprime t ht
    obtain ⟨i, hi, j, hj, rfl⟩ := exists_partitions ht
    rw [exists_place_eq_iff h hi hj, hcoprime.gcd_eq_one]
    exact Nat.modEq_one

/-- The targets of a scheme are the pairs of a database and a table, and the keys are spread over them by
their residues:
* there are as many targets as pairs of partitions;
* the rows with a key are in the one target of its least residues, which are computed without an
  overflow;
* two keys have the same target iff they are congruent modulo the least common multiple of the numbers
  of databases and of tables;
* if a period of that length is within the keys, the targets with keys are those whose partitions agree
  modulo the greatest common divisor, and all targets have keys iff the numbers are coprime. -/
theorem targets_by_residue (s : HashScheme) :
    (s.broadcast.Nodup ∧ s.broadcast.length = s.database.count * s.table.count) ∧
    (∀ v : Int64, ∃ i j : Nat,
      s.placement.targets .eq v = .ok [⟨s.database.nameAt i, s.table.nameAt j⟩] ∧
      (i : Int) = v.toInt % s.database.count ∧ (s.database.wordIndex v).toNat = i ∧
      (j : Int) = v.toInt % s.table.count ∧ (s.table.wordIndex v).toNat = j ∧
      (⟨s.database.nameAt i, s.table.nameAt j⟩ : Target) ∈ s.broadcast) ∧
    (∀ v w : Int64, s.placement.targets .eq v = s.placement.targets .eq w ↔
      v.toInt ≡ w.toInt [ZMOD (Nat.lcm s.database.count s.table.count : Nat)]) ∧
    (Nat.lcm s.database.count s.table.count ≤ 2 ^ 64 →
      (∀ i < s.database.count, ∀ j < s.table.count,
        (∃ v, s.placement.targets .eq v = .ok [⟨s.database.nameAt i, s.table.nameAt j⟩]) ↔
          i ≡ j [MOD Nat.gcd s.database.count s.table.count]) ∧
      ((∀ t ∈ s.broadcast, ∃ v, s.placement.targets .eq v = .ok [t]) ↔
        Nat.Coprime s.database.count s.table.count)) := by
  have htargets : ∀ v, s.placement.targets .eq v = .ok [s.place v] := fun _ => rfl
  refine ⟨⟨s.ascending_broadcast.nodup, s.length_broadcast⟩, fun v => ?_, fun v w => ?_, fun h => ?_⟩
  · exact ⟨s.database.indexOf v, s.table.indexOf v, rfl,
      Dimension.indexOf_eq s.database_valid v, Dimension.toNat_wordIndex s.database_valid v,
      Dimension.indexOf_eq s.table_valid v, Dimension.toNat_wordIndex s.table_valid v,
      place_mem_broadcast s v⟩
  · rw [htargets, htargets, ← place_eq_place_iff]
    simp
  · simp only [htargets, Except.ok.injEq, List.cons.injEq, and_true]
    exact ⟨fun i hi j hj => exists_place_eq_iff h hi hj, forall_exists_place_eq_iff h⟩

/-- Orders split by their number over six databases with four tables each. -/
def numberScheme : HashScheme where
  key := "order_no"
  database := .sharded "order_db" 6
  table := .sharded "order_tab" 4
  key_ne := by decide
  database_valid := by decide
  table_valid := by decide

/-- Of the 24 targets only those hold orders whose partitions are both even or both odd, and two numbers
twelve apart are in one target. -/
theorem targets_by_residue_numbers :
    Nat.lcm numberScheme.database.count numberScheme.table.count ≤ 2 ^ 64 ∧
      numberScheme.broadcast.length = 24 ∧
      numberScheme.placement.targets .eq (-5) = .ok [⟨"order_db_1", "order_tab_3"⟩] ∧
      numberScheme.placement.targets .eq (-5) = numberScheme.placement.targets .eq 7 ∧
      (∃ v, numberScheme.placement.targets .eq v =
        .ok [⟨numberScheme.database.nameAt 5, numberScheme.table.nameAt 1⟩]) ∧
      ¬ ∃ v, numberScheme.placement.targets .eq v =
        .ok [⟨numberScheme.database.nameAt 5, numberScheme.table.nameAt 2⟩] := by
  have hlcm : Nat.lcm numberScheme.database.count numberScheme.table.count ≤ 2 ^ 64 := by decide
  obtain ⟨⟨-, hlength⟩, -, heq, hhit⟩ := targets_by_residue numberScheme
  obtain ⟨hexists, -⟩ := hhit hlcm
  refine ⟨hlcm, hlength, rfl, (heq (-5) 7).2 (by decide), ?_, ?_⟩
  · exact (hexists 5 (by decide) 1 (by decide)).2 (by decide)
  · rw [hexists 5 (by decide) 2 (by decide)]
    decide

end HashScheme

end EntityStore
