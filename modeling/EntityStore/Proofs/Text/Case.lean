import EntityStore.Text.Case

/-!
# Texts that can be lowered

A text can be lowered if no lower-case form of its letters has an upper-case letter itself (`Lowers`).
The capitals of ASCII are one run of letters, whose lower-case forms lie behind it (`isUpper_of_ascii`,
`lower_of_ascii`), so every ASCII text can be lowered (`lowers_of_ascii`). A text with a capital that
has no lower-case form, such as `ϒ`, cannot.
-/

namespace EntityStore.Text

/-- Every upper-case letter of a text has a lower-case form without upper-case letters. -/
def Lowers (s : List Char) : Prop :=
  ∀ c ∈ s, isUpper c = true → ∀ l ∈ lower c, isUpper l = false

variable {s : List Char} {c l : Char}

theorem Lowers.isUpper_eq_false (h : Lowers s) (hc : c ∈ s) (hl : l ∈ lower c) :
    isUpper l = false := by
  cases hu : isUpper c with
  | true => exact h c hc hu l hl
  | false =>
    rw [lower_of_not_upper hu, List.mem_singleton] at hl
    rw [hl, hu]

/-- It is enough to look at the lower-case forms, since any other character stands for itself. -/
theorem all_lower_iff : (s.all fun c => (lower c).all fun l => !isUpper l) = true ↔ Lowers s := by
  simp only [List.all_eq_true, Bool.not_eq_true']
  constructor
  · intro h c hc _
    exact h c hc
  · intro h c hc l hl
    exact h.isUpper_eq_false hc hl

-- the letters of the text are gone through, not all characters there are
instance : Decidable (Lowers s) := decidable_of_iff _ all_lower_iff

theorem Lowers.of_cons (h : Lowers (c :: s)) : Lowers s :=
  fun d hd => h d (List.mem_cons_of_mem c hd)

/-! ## The letters of ASCII -/

/-- The upper-case letters of ASCII. -/
def asciiRun : LetterRun := ⟨0x41, 0x5a, 1, 32⟩

theorem asciiRun_contains_iff {n : Nat} : asciiRun.contains n = true ↔ 65 ≤ n ∧ n ≤ 90 := by
  simp only [LetterRun.contains, Bool.and_eq_true, decide_eq_true_eq, beq_iff_eq]
  simp [asciiRun, Nat.mod_one]

/-- All other runs begin behind ASCII. -/
theorem upperRun?_of_ascii (h : c.toNat < 128) :
    upperRun? c = if asciiRun.contains c.toNat then some asciiRun else none := by
  have hsplit : upperRuns = asciiRun :: upperRuns.tail := rfl
  have hfirst : ∀ r ∈ upperRuns.tail, 128 ≤ r.first := by decide +kernel
  have hrest : upperRuns.tail.find? (·.contains c.toNat) = none := by
    refine List.find?_eq_none.2 fun r hr hc => ?_
    have hle : r.first ≤ c.toNat := by
      simp only [LetterRun.contains, Bool.and_eq_true, decide_eq_true_eq] at hc
      exact hc.1.1
    have := hfirst r hr
    omega
  rw [upperRun?, hsplit, List.find?_cons, hrest]
  cases asciiRun.contains c.toNat <;> rfl

theorem ne_dotted_of_ascii (h : c.toNat < 128) : (c == 'İ') = false := by
  refine beq_eq_false_iff_ne.2 ?_
  rintro rfl
  exact absurd h (by decide)

theorem isUpper_of_ascii (h : c.toNat < 128) : isUpper c = asciiRun.contains c.toNat := by
  rw [isUpper, ne_dotted_of_ascii h, upperRun?_of_ascii h]
  cases asciiRun.contains c.toNat <;> rfl

theorem lower_of_ascii (h : c.toNat < 128) (hu : isUpper c = true) :
    lower c = [Char.ofNat (c.toNat + 32)] := by
  rw [isUpper_of_ascii h] at hu
  rw [lower, ne_dotted_of_ascii h, upperRun?_of_ascii h, hu]
  rfl

/-- Every ASCII text can be lowered. -/
theorem lowers_of_ascii (h : ∀ c ∈ s, c.toNat < 128) : Lowers s := by
  intro c hc hu l hl
  have hascii := h c hc
  obtain ⟨hge, hle⟩ : 65 ≤ c.toNat ∧ c.toNat ≤ 90 :=
    asciiRun_contains_iff.1 (isUpper_of_ascii hascii ▸ hu)
  rw [lower_of_ascii hascii hu, List.mem_singleton] at hl
  have hl' : l.toNat = c.toNat + 32 := by
    have hvalid : (c.toNat + 32).isValidChar := .inl (by omega)
    rw [hl, Char.ofNat, dif_pos hvalid]
    rfl
  rw [isUpper_of_ascii (by omega), Bool.eq_false_iff, ne_eq, asciiRun_contains_iff]
  omega

end EntityStore.Text
