import EntityStore.Proofs.Number.Signed
import EntityStore.Proofs.Text.Blank
import EntityStore.Proofs.Value.Coercion

/-!
# Integers read from texts

A text that is written to an integer field is trimmed first. If what is left is a numeral, the field
holds its integer, or refuses it when it does not fit the width of the field; any other text, and one
whose integer has more than sixty-four bits, is refused as a text
(`FieldType.read_integer_text`). The decimal text of an integer has no blank characters
(`Number.IsNumeral.not_blank`), so it is read back with any of them around it.
-/

namespace EntityStore

open Text (isBlank trim Enclosed)

/-! ## Numerals and blank characters -/

namespace Number

theorem not_blank_of_isDigit {c : Char} (h : c.isDigit = true) : isBlank c = false := by
  have hrange : 48 ≤ c.toNat ∧ c.toNat ≤ 57 := by
    simp only [Char.isDigit, ge_iff_le, Bool.and_eq_true, decide_eq_true_eq] at h
    exact h
  rw [isBlank, Text.blankRanges, Text.CharRanges.contains_cons_of_gt _ (by omega) (by omega),
    Text.CharRanges.contains_cons_of_gt _ (by omega) (by omega),
    Text.CharRanges.contains_cons_of_lt _ (by omega)]

variable {s : List Char} {i : Int}

/-- A numeral has no blank characters. -/
theorem IsNumeral.not_blank (h : IsNumeral s i) : ∀ c ∈ s, isBlank c = false := by
  cases h with
  | unsigned h => exact fun c hc => not_blank_of_isDigit (h.digits c hc)
  | plus h =>
    exact List.forall_mem_cons.2 ⟨by decide, fun c hc => not_blank_of_isDigit (h.digits c hc)⟩
  | minus h =>
    exact List.forall_mem_cons.2 ⟨by decide, fun c hc => not_blank_of_isDigit (h.digits c hc)⟩

/-- Trimming leaves a numeral between blank characters. -/
theorem IsNumeral.trim_eq (h : IsNumeral s i) {before after : List Char}
    (hbefore : ∀ c ∈ before, isBlank c = true) (hafter : ∀ c ∈ after, isBlank c = true) :
    trim (before ++ s ++ after) = s :=
  Text.trim_eq_iff.2 ⟨⟨before, after, rfl, hbefore, hafter⟩,
    fun c hc => h.not_blank c (List.mem_of_mem_head? hc),
    fun c hc => h.not_blank c (List.mem_of_getLast? hc)⟩

end Number

/-! ## Integer fields -/

namespace FieldType

open Number (IsNumeral readInt64? readInt64?_eq_some_iff)

variable {w : IntWidth} {s : String}

theorem read_int_text (w : IntWidth) (s : String) : (int w).read (.text s) =
    match readInt64? (trim s.toList) with
    | some n => if w.fits n then .ok (.int n) else .error (.outOfRange n w)
    | none => .error (.typeMismatch .int .text) := by
  simp only [read, Value.coerce, Value.coerce?, valueType]
  cases readInt64? (trim s.toList) <;> rfl

theorem read_int_text_eq_ok_iff {v : Value} : (int w).read (.text s) = .ok v ↔ ∃ n : Int64,
    v = .int n ∧ IsNumeral (trim s.toList) n.toInt ∧ w.min ≤ n.toInt ∧ n.toInt ≤ w.max := by
  simp only [read_int_text, ← readInt64?_eq_some_iff, ← IntWidth.fits_iff]
  cases readInt64? (trim s.toList) with
  | none => simp
  | some k =>
    by_cases hk : w.fits k = true
    · simp only [hk, if_true, Except.ok.injEq, Option.some.injEq]
      constructor
      · rintro rfl
        exact ⟨k, rfl, rfl, hk⟩
      · rintro ⟨n, rfl, rfl, -⟩
        rfl
    · simp [hk]

theorem read_int_text_eq_outOfRange_iff {n : Int64} :
    (int w).read (.text s) = .error (.outOfRange n w) ↔
      IsNumeral (trim s.toList) n.toInt ∧ ¬ (w.min ≤ n.toInt ∧ n.toInt ≤ w.max) := by
  simp only [read_int_text, ← readInt64?_eq_some_iff, ← IntWidth.fits_iff]
  cases readInt64? (trim s.toList) with
  | none => simp
  | some k =>
    by_cases hk : w.fits k = true
    · simp only [hk, if_true, Option.some.injEq, reduceCtorEq, false_iff, not_and, not_not]
      rintro rfl
      exact hk
    · simp only [hk]
      constructor
      · rintro ⟨⟩
        exact ⟨rfl, hk⟩
      · rintro ⟨h, -⟩
        rw [Option.some.inj h]
        rfl

theorem read_int_text_eq_typeMismatch_iff :
    (int w).read (.text s) = .error (.typeMismatch .int .text) ↔
      ∀ n : Int64, ¬ IsNumeral (trim s.toList) n.toInt := by
  simp only [read_int_text, ← readInt64?_eq_some_iff]
  cases readInt64? (trim s.toList) with
  | none => simp
  | some k => by_cases hk : w.fits k = true <;> simp [hk]

/-- The decimal text of an integer is read back, whatever blank characters are around it. -/
theorem read_decimal_text {n : Int64} (hmin : w.min ≤ n.toInt) (hmax : n.toInt ≤ w.max)
    {before after : String} (hbefore : ∀ c ∈ before.toList, isBlank c = true)
    (hafter : ∀ c ∈ after.toList, isBlank c = true) :
    (int w).read (.text (before ++ toString n.toInt ++ after)) = .ok (.int n) := by
  have hn := Number.isNumeral_toString n.toInt
  refine read_int_text_eq_ok_iff.2 ⟨n, rfl, ?_, hmin, hmax⟩
  rw [String.toList_append, String.toList_append, hn.trim_eq hbefore hafter]
  exact hn

/-- What an integer field makes of a text, where `inner` is the text without the blank characters
around it. The field holds an integer iff `inner` is a numeral of it and it lies in the range of the
field. It finds an integer out of range iff `inner` is a numeral of it, and it has sixty-four bits but
lies outside that range. It refuses the text as a text iff `inner` is a numeral of no integer of
sixty-four bits. An optional field does the same. So the decimal text of each integer of the range is
read back, whatever blank characters are around it. -/
theorem read_integer_text (w : IntWidth) (s : String) :
    ∃ inner, Enclosed inner s.toList ∧
      (∀ v, (int w).read (.text s) = .ok v ↔ ∃ n : Int64,
        v = .int n ∧ IsNumeral inner n.toInt ∧ w.min ≤ n.toInt ∧ n.toInt ≤ w.max) ∧
      (∀ n, (int w).read (.text s) = .error (.outOfRange n w) ↔
        IsNumeral inner n.toInt ∧ ¬ (w.min ≤ n.toInt ∧ n.toInt ≤ w.max)) ∧
      ((int w).read (.text s) = .error (.typeMismatch .int .text) ↔
        ∀ n : Int64, ¬ IsNumeral inner n.toInt) ∧
      (optional (int w)).read (.text s) = (int w).read (.text s) ∧
      ∀ (n : Int64) (before after : String), s = before ++ toString n.toInt ++ after →
        (∀ c ∈ before.toList, isBlank c = true) → (∀ c ∈ after.toList, isBlank c = true) →
        w.min ≤ n.toInt → n.toInt ≤ w.max → (int w).read (.text s) = .ok (.int n) := by
  refine ⟨trim s.toList, Text.enclosed_trim _, fun v => read_int_text_eq_ok_iff,
    fun n => read_int_text_eq_outOfRange_iff, read_int_text_eq_typeMismatch_iff, rfl, ?_⟩
  rintro n before after rfl hbefore hafter hmin hmax
  exact read_decimal_text hmin hmax hbefore hafter

/-- Zeros, a sign and blank characters of three kinds around the least integer of eight bits, which no
unsigned field takes. -/
theorem read_integer_text_padded :
    (int .i8).read (.text "\u00a0\t-00128\u3000") = .ok (.int (-128)) ∧
    (int .u8).read (.text "\u00a0\t-00128\u3000") = .error (.outOfRange (-128) .u8) ∧
    (optional (int .i8)).read (.text "\u00a0\t-00128\u3000") = .ok (.int (-128)) := by
  have hnumeral : IsNumeral "-00128".toList (-128) :=
    .minus ⟨by decide, List.all_eq_true.1 (by decide), by decide⟩
  have htrim : ∀ inner, Enclosed inner "\u00a0\t-00128\u3000".toList → inner = "-00128".toList :=
    fun inner h => (Text.trim_eq_iff.2 h).symm.trans (by decide)
  obtain ⟨inner, hinner, hok, -, -, hoptional, -⟩ :=
    read_integer_text .i8 "\u00a0\t-00128\u3000"
  obtain ⟨inner', hinner', -, hrange, -⟩ := read_integer_text .u8 "\u00a0\t-00128\u3000"
  obtain rfl := htrim inner hinner
  obtain rfl := htrim inner' hinner'
  have hread := (hok (.int (-128))).2 ⟨-128, rfl, hnumeral, by decide, by decide⟩
  exact ⟨hread, (hrange (-128)).2 ⟨hnumeral, by decide⟩, hoptional.trans hread⟩

end FieldType

end EntityStore
