import EntityStore.Text.Utf8

/-!
# Reading the bytes of a text back

The bytes of a character are read as that character, whatever follows them
(`decodeRepaired_utf8EncodeChar_append`), so nothing of a text is replaced when its bytes are read
(`repaired_utf8`). Bytes are read as a text without repair iff they are the bytes of that text
(`ofUtf8?_eq_some_iff`), which is so of some text iff they are well-formed UTF-8
(`isValidUTF8_iff`).
-/

namespace EntityStore.Text

/-! ## First bytes -/

theorem leadByte?_two {n : Nat} (h₁ : 2 ≤ n) (h₂ : n < 32) :
    leadByte? (n + 0xC0) = some ⟨1, 0x80, 0xBF, n⟩ := by
  rw [leadByte?, if_neg (by omega), if_pos (by omega)]
  simp

/-- The second of three bytes is in the range that the first one leaves to it. -/
theorem leadByte?_three {n k : Nat} (hn : n < 16) (hk : k < 64) (hlong : n = 0 → 32 ≤ k)
    (hvalid : n = 13 → k < 32) : ∃ low high, leadByte? (n + 0xE0) = some ⟨2, low, high, n⟩ ∧
      low ≤ k + 0x80 ∧ k + 0x80 ≤ high := by
  rw [leadByte?, if_neg (by omega), if_neg (by omega)]
  by_cases h₀ : n = 0
  · subst h₀
    exact ⟨_, _, if_pos rfl, by have := hlong rfl; omega, by omega⟩
  · rw [if_neg (by omega)]
    by_cases h₁₃ : n = 13
    · subst h₁₃
      exact ⟨_, _, if_pos rfl, by omega, by have := hvalid rfl; omega⟩
    · rw [if_neg (by omega), if_pos (by omega)]
      exact ⟨0x80, 0xBF, by simp, by omega, by omega⟩

/-- The second of four bytes is in the range that the first one leaves to it. -/
theorem leadByte?_four {n k : Nat} (hn : n ≤ 4) (hk : k < 64) (hlong : n = 0 → 16 ≤ k)
    (hvalid : n = 4 → k < 16) : ∃ low high, leadByte? (n + 0xF0) = some ⟨3, low, high, n⟩ ∧
      low ≤ k + 0x80 ∧ k + 0x80 ≤ high := by
  rw [leadByte?, if_neg (by omega), if_neg (by omega), if_neg (by omega), if_neg (by omega),
    if_neg (by omega)]
  by_cases h₀ : n = 0
  · subst h₀
    exact ⟨_, _, if_pos rfl, by have := hlong rfl; omega, by omega⟩
  · rw [if_neg (by omega)]
    by_cases h₄ : n = 4
    · subst h₄
      rw [if_neg (by omega), if_pos rfl]
      exact ⟨_, _, rfl, by omega, by have := hvalid rfl; omega⟩
    · rw [if_pos (by omega)]
      exact ⟨0x80, 0xBF, by simp, by omega, by omega⟩

/-! ## Following bytes -/

/-- A byte that may stand there adds its six bits. -/
theorem readTails_succ_cons {n low high code k : Nat} (hk : k < 64) (hlow : low ≤ k + 0x80)
    (hhigh : k + 0x80 ≤ high) (rest : List UInt8) :
    readTails (n + 1) low high code (UInt8.ofNat (k + 0x80) :: rest) =
      readTails n 0x80 0xBF (code * 64 + k) rest := by
  have hbyte : (UInt8.ofNat (k + 0x80)).toNat = k + 0x80 := by
    rw [UInt8.toNat_ofNat']
    omega
  rw [readTails, hbyte, if_pos ⟨hlow, hhigh⟩]
  congr 1
  omega

/-- A first byte, followed by bytes that may stand there, is read as their character. -/
theorem decodeRepaired_cons {b tails low high bits : Nat} (hb : 0x80 ≤ b) (hb' : b < 256)
    (hlead : leadByte? b = some ⟨tails, low, high, bits⟩) {bytes rest : List UInt8} {code : Nat}
    (hread : readTails tails low high bits bytes = (some code, rest)) :
    decodeRepaired (UInt8.ofNat b :: bytes) = Char.ofNat code :: decodeRepaired rest := by
  have hbyte : (UInt8.ofNat b).toNat = b := by
    rw [UInt8.toNat_ofNat']
    omega
  rw [decodeRepaired, hbyte, if_neg (by omega), hlead]
  simp only [hread]

/-! ## Characters and texts -/

theorem decodeRepaired_utf8EncodeChar_append (c : Char) (rest : List UInt8) :
    decodeRepaired (String.utf8EncodeChar c ++ rest) = c :: decodeRepaired rest := by
  have hvalid : c.toNat < 0xD800 ∨ 0xDFFF < c.toNat ∧ c.toNat < 0x110000 := c.valid
  obtain ⟨n, hn⟩ : ∃ n, c.val.toNat = n := ⟨_, rfl⟩
  have hc : c = Char.ofNat n := by rw [← hn]; exact (Char.ofNat_toNat c).symm
  replace hvalid : n < 0xD800 ∨ 0xDFFF < n ∧ n < 0x110000 := hn ▸ hvalid
  simp only [String.utf8EncodeChar, hn]
  rw [hc]
  clear hc hn
  by_cases h₁ : n ≤ 0x7f
  · rw [if_pos h₁]
    have hbyte : (UInt8.ofNat n).toNat = n := by
      rw [UInt8.toNat_ofNat']
      omega
    rw [List.singleton_append, decodeRepaired, hbyte, if_pos (by omega)]
  rw [if_neg h₁]
  by_cases h₂ : n ≤ 0x7ff
  · rw [if_pos h₂, List.cons_append, List.cons_append, List.nil_append]
    refine decodeRepaired_cons (by omega) (by omega) (leadByte?_two (by omega) (by omega)) ?_
    rw [readTails_succ_cons (by omega) (by omega) (by omega), readTails]
    congr 2
    omega
  rw [if_neg h₂]
  by_cases h₃ : n ≤ 0xffff
  · rw [if_pos h₃, List.cons_append, List.cons_append, List.cons_append, List.nil_append]
    obtain ⟨low, high, hlead, hlow, hhigh⟩ := leadByte?_three (n := n / 4096 % 0x10)
      (k := n / 64 % 64) (by omega) (by omega) (by omega) (by omega)
    refine decodeRepaired_cons (by omega) (by omega) hlead ?_
    rw [readTails_succ_cons (by omega) hlow hhigh,
      readTails_succ_cons (by omega) (by omega) (by omega), readTails]
    congr 2
    omega
  rw [if_neg h₃, List.cons_append, List.cons_append, List.cons_append, List.cons_append,
    List.nil_append]
  obtain ⟨low, high, hlead, hlow, hhigh⟩ := leadByte?_four (n := n / 262144 % 0x08)
    (k := n / 4096 % 64) (by omega) (by omega) (by omega) (by omega)
  refine decodeRepaired_cons (by omega) (by omega) hlead ?_
  rw [readTails_succ_cons (by omega) hlow hhigh,
    readTails_succ_cons (by omega) (by omega) (by omega),
    readTails_succ_cons (by omega) (by omega) (by omega), readTails]
  congr 2
  omega

/-- The bytes of a text are read as that text. -/
@[simp] theorem repaired_utf8 (s : String) : repaired (utf8 s) = s := by
  have h : ∀ cs : List Char, decodeRepaired (cs.flatMap String.utf8EncodeChar) = cs := by
    intro cs
    induction cs with
    | nil => rw [List.flatMap_nil, decodeRepaired]
    | cons c cs ih => rw [List.flatMap_cons, decodeRepaired_utf8EncodeChar_append, ih]
  rw [repaired, utf8, h, String.ofList_toList]

theorem utf8_inj {s t : String} : utf8 s = utf8 t ↔ s = t := by
  refine ⟨fun h => ?_, congrArg utf8⟩
  rw [← repaired_utf8 s, h, repaired_utf8]

/-- Bytes are those of at most one text, and that is the text they are read as. -/
theorem ofUtf8?_eq_some_iff {bytes : List UInt8} {s : String} :
    ofUtf8? bytes = some s ↔ utf8 s = bytes := by
  refine ⟨utf8_of_ofUtf8?, ?_⟩
  rintro rfl
  simp [ofUtf8?]

/-- Bytes are well-formed iff they are those of a text. -/
theorem isValidUTF8_iff {bytes : List UInt8} :
    bytes.toByteArray.IsValidUTF8 ↔ ∃ s, utf8 s = bytes := by
  constructor
  · rintro ⟨cs, hcs⟩
    refine ⟨String.ofList cs, ?_⟩
    rw [utf8, String.toList_ofList]
    simpa [List.utf8Encode] using congrArg (·.data.toList) hcs.symm
  · rintro ⟨s, rfl⟩
    exact .intro s.toList rfl

end EntityStore.Text
