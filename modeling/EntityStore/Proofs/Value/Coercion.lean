import EntityStore.Proofs.Number.Whole
import EntityStore.Proofs.Text.Utf8
import EntityStore.Value.Coerce

/-!
# Conversions lose nothing

What a value is brought to has the wanted type, and is NULL iff the value is (`Value.type?_of_coerce?`).
A value of the wanted type stays as it is (`coerce?_of_type?`), so being brought to a type twice is
being brought to it once. Two values of one type are not brought to the same value
(`eq_of_coerce?`), unless they are texts that a number is read from, since a number has many
spellings. What is refused is refused as a mismatch of the wanted type and the type of the value
(`coerce_eq_error_iff`).
-/

namespace EntityStore.Value

variable {target : ValueType} {v v' w : Value}

theorem type?_eq_none_iff : v.type? = none ↔ v = .null := by
  cases v <;> simp [type?]

theorem coerce_eq_ok_iff : v.coerce target = .ok w ↔ v.coerce? target = some w := by
  rw [coerce]
  cases v.coerce? target <;> cases v.type? <;> simp

/-- Only what has a type is refused, and the error names that type and the wanted one. -/
theorem coerce_eq_error_iff {e : ValueError} : v.coerce target = .error e ↔
    v.coerce? target = none ∧ ∃ found, v.type? = some found ∧ e = .typeMismatch target found := by
  rw [coerce]
  cases hc : v.coerce? target with
  | some u => simp
  | none =>
    cases ht : v.type? with
    | none =>
      rw [type?_eq_none_iff.1 ht] at hc
      cases hc
    | some found => simp [eq_comm]

/-! ## Types -/

theorem coerce?_of_type? (h : v.type? = some target) : v.coerce? target = some v := by
  cases v <;> cases h <;> rfl

/-- What a value is brought to is NULL if the value is, and else has the type it is brought to. -/
theorem type?_of_coerce? (h : v.coerce? target = some w) :
    w.type? = v.type?.map fun _ => target := by
  cases v with
  | null =>
    cases h
    rfl
  | bool b => cases target <;> cases h <;> rfl
  | int i =>
    cases target with
    | bool =>
      simp only [coerce?] at h
      split at h
      · cases h
        rfl
      · split at h <;> cases h
        rfl
    | float =>
      simp only [coerce?] at h
      split at h <;> cases h
      rfl
    | int =>
      cases h
      rfl
    | _ => cases h
  | float x =>
    cases target <;> cases h
    rfl
  | text s =>
    cases target with
    | int =>
      obtain ⟨i, -, rfl⟩ := Option.map_eq_some_iff.1 h
      rfl
    | float =>
      obtain ⟨x, -, rfl⟩ := Option.map_eq_some_iff.1 h
      rfl
    | _ => cases h <;> rfl
  | bytes b =>
    cases target with
    | text =>
      obtain ⟨s, -, rfl⟩ := Option.map_eq_some_iff.1 h
      rfl
    | bytes =>
      cases h
      rfl
    | _ => cases h

theorem eq_null_iff_of_coerce? (h : v.coerce? target = some w) : w = .null ↔ v = .null := by
  rw [← type?_eq_none_iff, ← type?_eq_none_iff, type?_of_coerce? h, Option.map_eq_none_iff]

theorem eq_null_or_type?_of_coerce? (h : v.coerce? target = some w) :
    w = .null ∨ w.type? = some target := by
  rw [← type?_eq_none_iff, type?_of_coerce? h]
  cases v.type? <;> simp

/-- To bring a value to a type again changes nothing. -/
theorem coerce?_coerce? (h : v.coerce? target = some w) : w.coerce? target = some w := by
  rcases eq_null_or_type?_of_coerce? h with rfl | hw
  · rfl
  · exact coerce?_of_type? hw

/-! ## Equal results -/

/-- Whether a number is read from a text. -/
def ReadsNumber (target : ValueType) (v : Value) : Prop :=
  v.type? = some .text ∧ (target = .int ∨ target = .float)

theorem eq_of_coerce?_int {i j : Int64} (hi : (int i).coerce? target = some w)
    (hj : (int j).coerce? target = some w) : j = i := by
  cases target with
  | bool =>
    simp only [coerce?] at hi hj
    split_ifs at hi hj <;> cases hi <;> simp_all
  | int =>
    cases hi
    exact int.inj (Option.some.inj hj)
  | float =>
    simp only [coerce?, Option.ite_none_right_eq_some, Option.some.injEq] at hi hj
    obtain ⟨hi, rfl⟩ := hi
    obtain ⟨hj, hfloat⟩ := hj
    simp only [maxExactInt] at hi hj
    rw [float.injEq, Double.ofInt_inj (by omega) (by omega)] at hfloat
    exact Int64.toInt_inj.1 hfloat
  | _ => cases hi

/-- Values of one type that are brought to the same value are equal, unless a number is read from
them. -/
theorem eq_of_coerce? (ht : v'.type? = v.type?) (hr : ¬ ReadsNumber target v)
    (h : v.coerce? target = some w) (h' : v'.coerce? target = some w) : v' = v := by
  cases v <;> cases v' <;> cases ht
  case null => rfl
  case bool b c => cases target <;> cases b <;> cases c <;> cases h <;> cases h' <;> rfl
  case int i j => rw [eq_of_coerce?_int h h']
  case float x y =>
    cases target <;> cases h
    cases h'
    rfl
  case text s t =>
    cases target with
    | int => exact absurd ⟨rfl, .inl rfl⟩ hr
    | float => exact absurd ⟨rfl, .inr rfl⟩ hr
    | bool => cases h
    | text =>
      cases h
      cases h'
      rfl
    | bytes =>
      cases h
      rw [Text.utf8_inj.1 (bytes.inj (Option.some.inj h'))]
  case bytes b c =>
    cases target with
    | text =>
      obtain ⟨s, hs, rfl⟩ := Option.map_eq_some_iff.1 h
      obtain ⟨t, ht, hst⟩ := Option.map_eq_some_iff.1 h'
      obtain rfl := text.inj hst
      rw [← Text.utf8_of_ofUtf8? hs, Text.utf8_of_ofUtf8? ht]
    | bytes =>
      cases h
      cases h'
      rfl
    | _ => cases h

/-! ## Conversions without loss -/

/-- A value stays as it is iff it is NULL or has the wanted type already. -/
theorem coerce_eq_self_iff : v.coerce target = .ok v ↔ v = .null ∨ v.type? = some target := by
  rw [coerce_eq_ok_iff]
  refine ⟨eq_null_or_type?_of_coerce?, ?_⟩
  rintro (rfl | h)
  · rfl
  · exact coerce?_of_type? h

theorem coerce_bytes_of_text (s : String) : (text s).coerce .bytes = .ok (bytes (Text.utf8 s)) := rfl

theorem coerce_text_of_bytes_eq_ok_iff {b : List UInt8} {w : Value} :
    (bytes b).coerce .text = .ok w ↔ ∃ s, Text.utf8 s = b ∧ w = text s := by
  rw [coerce_eq_ok_iff, coerce?, Option.map_eq_some_iff]
  exact exists_congr fun s => and_congr Text.ofUtf8?_eq_some_iff eq_comm

/-- Conversions lose nothing. What a value is brought to is NULL iff the value is and else has the
wanted type, and to bring it there again changes nothing. Values of one type that are brought to the
same value are equal, unless a number is read from a text. A text comes back from its bytes; bytes
are a text iff they are well-formed UTF-8, and come back from that text. Whatever is refused is
refused with the wanted type and its own. -/
theorem coerce_lossless (target : ValueType) (v : Value) :
    (∀ w, v.coerce target = .ok w →
      (w = .null ↔ v = .null) ∧ (w ≠ .null → w.type? = some target) ∧
        w.coerce target = .ok w) ∧
    (v.coerce target = .ok v ↔ v = .null ∨ v.type? = some target) ∧
    (∀ v' w, v'.type? = v.type? → ¬ ReadsNumber target v →
      v.coerce target = .ok w → v'.coerce target = .ok w → v' = v) ∧
    (∀ s, ∃ b, (text s).coerce .bytes = .ok (bytes b) ∧ (bytes b).coerce .text = .ok (text s)) ∧
    (∀ b, ((∃ w, (bytes b).coerce .text = .ok w) ↔ b.toByteArray.IsValidUTF8) ∧
      ∀ w, (bytes b).coerce .text = .ok w → w.coerce .bytes = .ok (bytes b)) ∧
    ∀ e, v.coerce target = .error e →
      ∃ found, v.type? = some found ∧ e = .typeMismatch target found ∧
        e.message = "type mismatch: expected " ++ target.name ++ ", found " ++ found.name := by
  refine ⟨fun w h => ?_, coerce_eq_self_iff, ?_, fun s => ?_, fun b => ⟨?_, fun w h => ?_⟩,
    fun e h => ?_⟩
  · rw [coerce_eq_ok_iff] at h
    exact ⟨eq_null_iff_of_coerce? h, (eq_null_or_type?_of_coerce? h).resolve_left,
      coerce_eq_ok_iff.2 (coerce?_coerce? h)⟩
  · intro v' w htype hreads h h'
    exact eq_of_coerce? htype hreads (coerce_eq_ok_iff.1 h) (coerce_eq_ok_iff.1 h')
  · exact ⟨_, coerce_bytes_of_text s, coerce_text_of_bytes_eq_ok_iff.2 ⟨s, rfl, rfl⟩⟩
  · simp [coerce_text_of_bytes_eq_ok_iff, Text.isValidUTF8_iff]
  · obtain ⟨s, rfl, rfl⟩ := coerce_text_of_bytes_eq_ok_iff.1 h
    exact coerce_bytes_of_text s
  · obtain ⟨-, found, hfound, rfl⟩ := coerce_eq_error_iff.1 h
    exact ⟨found, hfound, rfl, rfl⟩

/-- The bytes of a letter of two bytes are brought to it and back, and without the second byte they
are refused. The two integers that are truth values are told apart by them. -/
theorem coerce_lossless_letter :
    ((text "é").coerce .text = .ok (text "é") ∧ (text "é").coerce .bytes = .ok (bytes [0xC3, 0xA9])) ∧
    (∀ v, v.type? = some .int → v.coerce .bool = .ok (bool true) → v = int 1) ∧
    ∃ found, (bytes [0xC3]).type? = some found ∧
      ValueError.typeMismatch .text .bytes = .typeMismatch .text found := by
  have hletter : (bytes [0xC3, 0xA9]).coerce .text = .ok (text "é") :=
    coerce_text_of_bytes_eq_ok_iff.2 ⟨"é", by decide, rfl⟩
  have hcut : (bytes [0xC3]).coerce .text = .error (.typeMismatch .text .bytes) :=
    coerce_eq_error_iff.2 ⟨by decide +kernel, _, rfl, rfl⟩
  refine ⟨⟨?_, ?_⟩, ?_, ?_⟩
  · exact ((coerce_lossless .text (bytes [0xC3, 0xA9])).1 _ hletter).2.2
  · exact ((coerce_lossless .text (bytes [0xC3, 0xA9])).2.2.2.2.1 [0xC3, 0xA9]).2 _ hletter
  · intro v hv h
    exact (coerce_lossless .bool (int 1)).2.2.1 v (bool true) hv (by simp [ReadsNumber, type?]) rfl h
  · obtain ⟨found, hfound, he, -⟩ := (coerce_lossless .text (bytes [0xC3])).2.2.2.2.2 _ hcut
    exact ⟨found, hfound, he⟩

end EntityStore.Value
