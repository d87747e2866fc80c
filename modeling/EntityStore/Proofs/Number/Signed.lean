import EntityStore.Proofs.Number.Numeral

/-!
# Signed numerals

A text is read as an integer iff it is a numeral of that integer, that is an optional sign and one or
more ASCII digits (`readInt?_eq_some_iff`), and as one of sixty-four bits iff that integer has as many
(`readInt64?_eq_some_iff`). The decimal text of an integer is one of its numerals.
-/

namespace EntityStore.Number

/-- The digits of a natural number, with any number of zeros in front. -/
structure IsDigits (s : List Char) (n : Nat) : Prop where
  ne_nil : s ≠ []
  digits : ∀ c ∈ s, c.isDigit = true
  value : Nat.ofDigitChars 10 s 0 = n

/-- The numerals of an integer. -/
inductive IsNumeral : List Char → Int → Prop where
  | unsigned {s : List Char} {n : Nat} : IsDigits s n → IsNumeral s n
  | plus {s : List Char} {n : Nat} : IsDigits s n → IsNumeral ('+' :: s) n
  | minus {s : List Char} {n : Nat} : IsDigits s n → IsNumeral ('-' :: s) (-n)

variable {s : List Char} {n : Nat} {i : Int}

theorem readDigits?_eq_some_iff : readDigits? s = some n ↔ IsDigits s n := by
  have hall : s.all isDigit = true ↔ ∀ c ∈ s, c.isDigit = true := by
    simp only [List.all_eq_true, isDigit_eq]
  simp only [readDigits?, List.isEmpty_iff, hall]
  split
  · next h => exact iff_of_false (Option.some_ne_none n).symm fun hd => hd.ne_nil h
  · next h =>
    split
    · next hs =>
      rw [digitsValue_eq fun c hc => by rw [isDigit_eq, hs c hc], Option.some.injEq]
      exact ⟨fun hn => ⟨h, hs, hn⟩, IsDigits.value⟩
    · next hs => exact iff_of_false (Option.some_ne_none n).symm fun hd => hs hd.digits

theorem IsDigits.not_sign (h : IsDigits s n) : s.head? ≠ some '-' ∧ s.head? ≠ some '+' := by
  cases s with
  | nil => simp
  | cons c s =>
    have hc := h.digits c List.mem_cons_self
    constructor
    all_goals
      intro heq
      obtain rfl : c = _ := Option.some.inj heq
      exact absurd hc (by decide)

theorem takeSign_of_ne (hminus : s.head? ≠ some '-') (hplus : s.head? ≠ some '+') :
    takeSign s = (false, s) := by
  unfold takeSign
  split
  · exact absurd rfl hminus
  · exact absurd rfl hplus
  · rfl

theorem readInt?_eq (s : List Char) : readInt? s =
    (readDigits? (takeSign s).2).map fun n : Nat => if (takeSign s).1 then -(n : Int) else n := by
  rw [readInt?]
  obtain ⟨negative, digits⟩ := takeSign s
  dsimp only
  cases readDigits? digits <;> rfl

/-- A text is read as an integer iff it is a numeral of it. -/
theorem readInt?_eq_some_iff : readInt? s = some i ↔ IsNumeral s i := by
  rw [readInt?_eq, Option.map_eq_some_iff]
  simp only [readDigits?_eq_some_iff]
  constructor
  · rintro ⟨n, hn, rfl⟩
    revert hn
    fun_cases takeSign s with
    | case1 rest => exact .minus
    | case2 rest => exact .plus
    | case3 => exact .unsigned
  · intro h
    cases h with
    | @unsigned _ n h =>
      rw [takeSign_of_ne h.not_sign.1 h.not_sign.2]
      exact ⟨n, h, rfl⟩
    | @plus _ n h => exact ⟨n, h, rfl⟩
    | @minus _ n h => exact ⟨n, h, rfl⟩

/-- A text is read as an integer of sixty-four bits iff it is a numeral of it. -/
theorem readInt64?_eq_some_iff {j : Int64} : readInt64? s = some j ↔ IsNumeral s j.toInt := by
  rw [← readInt?_eq_some_iff, readInt64?]
  have hmin := Int64.minValue_le_toInt j
  have hmax := Int64.toInt_le j
  cases readInt? s with
  | none => simp
  | some i =>
    simp only [Option.some.injEq, Option.ite_none_right_eq_some]
    constructor
    · rintro ⟨⟨hlow, hhigh⟩, rfl⟩
      exact (Int64.toInt_ofInt_of_le hlow (Int.lt_of_le_of_lt hhigh (by decide))).symm
    · rintro rfl
      exact ⟨⟨hmin, hmax⟩, Int64.ofInt_toInt j⟩

theorem isDigits_repr (n : Nat) : IsDigits n.repr.toList n :=
  readDigits?_eq_some_iff.1 (by rw [Nat.toList_repr, readDigits?_toDigits])

/-- The decimal text of an integer is one of its numerals. -/
theorem isNumeral_toString (i : Int) : IsNumeral (toString i).toList i := by
  cases i with
  | ofNat n => exact .unsigned (isDigits_repr n)
  | negSucc n =>
    have h : (toString (Int.negSucc n)).toList = '-' :: (n + 1).repr.toList := by
      simp [toString, Int.repr]
    rw [h]
    exact .minus (isDigits_repr (n + 1))

end EntityStore.Number
