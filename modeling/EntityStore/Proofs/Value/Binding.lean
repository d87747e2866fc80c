import EntityStore.Proofs.Value.Coercion
import EntityStore.Sqlite.Datum

/-!
# Values through a store

A value that is bound, kept unchanged and handed back is the same value, except that a truth value
comes back as an integer (`Value.returned`). A field holds only values of its type, whatever is
written to it (`FieldType.holds_of_read`), and reads what comes back of a value it holds as that
value (`FieldType.read_returned`).
-/

namespace EntityStore

/-- What a store hands back of a value that is bound, if it keeps what it is given. -/
def Value.returned (v : Value) : Value := (Sqlite.Datum.bound v).toValue

namespace Value

@[simp] theorem returned_null : returned .null = .null := rfl

@[simp] theorem returned_bool (b : Bool) : returned (.bool b) = .int (if b then 1 else 0) := rfl

@[simp] theorem returned_int (i : Int64) : returned (.int i) = .int i := rfl

@[simp] theorem returned_float (x : Double) : returned (.float x) = .float x := rfl

@[simp] theorem returned_text (s : String) : returned (.text s) = .text s :=
  congrArg Value.text (Text.repaired_utf8 s)

@[simp] theorem returned_bytes (b : List UInt8) : returned (.bytes b) = .bytes b := rfl

@[simp] theorem isNull_returned (v : Value) : v.returned.isNull = v.isNull := by
  cases v <;> simp [isNull, type?]

end Value

namespace FieldType

/-- The values that a field of a type holds; a field of single precision holds what a number is
rounded to. -/
def Holds : FieldType → Value → Prop
  | bool, .bool _ => True
  | int w, .int i => w.fits i = true
  | single, .float x => ∃ y : Double, y.toSingle = x
  | double, .float _ => True
  | text, .text _ => True
  | bytes, .bytes _ => True
  | optional t, v => v = .null ∨ t.Holds v
  | _, _ => False

theorem holds_initial (t : FieldType) : t.Holds t.initial := by
  cases t with
  | bool => trivial
  | int w =>
    show w.fits 0 = true
    cases w <;> decide
  | single => exact ⟨Double.zero false, by decide +kernel⟩
  | double => trivial
  | text => trivial
  | bytes => trivial
  | optional t => exact Or.inl rfl

/-- What a field that is not optional makes of a value of its type, it holds. -/
theorem holds_of_narrow {t : FieldType} {v w : Value} (ht : t.nullable = false)
    (hv : v = .null ∨ v.type? = some t.valueType) (h : t.narrow v = .ok w) : t.Holds w := by
  rcases hv with rfl | hv
  · cases t <;> cases h
  cases t with
  | int width =>
    cases v with
    | int i =>
      rw [narrow] at h
      split at h
      · next hfits =>
        cases h
        exact hfits
      · cases h
    | _ => cases hv
  | single =>
    cases v with
    | float x =>
      cases h
      exact ⟨x, rfl⟩
    | _ => cases hv
  | optional t => cases ht
  | _ =>
    cases v <;> cases hv
    cases h
    trivial

/-- What a field that is not optional reads, it has brought to its type before. -/
theorem exists_coerce_of_read {t : FieldType} {v w : Value} (ht : t.nullable = false)
    (h : t.read v = .ok w) : ∃ u, v.coerce t.valueType = .ok u ∧ t.narrow u = .ok w := by
  cases t with
  | optional t => cases ht
  | _ =>
    rw [read] at h
    · split at h
      · next u hu => exact ⟨u, hu, h⟩
      · cases h
    · exact fun t ht => by cases ht

/-- Whatever is written to a field, what it holds then is of its type. -/
theorem holds_of_read {t : FieldType} {v w : Value} (h : t.read v = .ok w) : t.Holds w := by
  induction t with
  | optional t ih =>
    rw [read] at h
    split at h
    · cases h
      exact Or.inl rfl
    · exact Or.inr (ih h)
  | _ =>
    obtain ⟨u, hu, hw⟩ := exists_coerce_of_read rfl h
    exact holds_of_narrow rfl (Value.eq_null_or_type?_of_coerce? (Value.coerce_eq_ok_iff.1 hu)) hw

/-- A value that is held is read as itself from what a store hands back of it. -/
theorem read_returned {t : FieldType} {v : Value} (h : t.Holds v) : t.read v.returned = .ok v := by
  induction t with
  | bool =>
    cases v with
    | bool b => cases b <;> rfl
    | _ => cases h
  | int w =>
    cases v with
    | int i =>
      have hfits : w.fits i = true := h
      simp [read, Value.coerce, Value.coerce?, valueType, narrow, hfits]
    | _ => cases h
  | single =>
    cases v with
    | float x =>
      obtain ⟨y, rfl⟩ := h
      simp [read, Value.coerce, Value.coerce?, valueType, narrow, Double.toSingle_toSingle]
    | _ => cases h
  | double =>
    cases v with
    | float x => rfl
    | _ => cases h
  | text =>
    cases v with
    | text s => simp [read, Value.coerce, Value.coerce?, valueType, narrow]
    | _ => cases h
  | bytes =>
    cases v with
    | bytes b => rfl
    | _ => cases h
  | optional t ih =>
    rw [read, Value.isNull_returned]
    by_cases hnull : v.isNull = true
    · rw [if_pos hnull, Value.isNull_iff.1 hnull]
    · rw [if_neg hnull]
      rcases h with rfl | h
      · exact absurd rfl hnull
      · exact ih h

end FieldType

end EntityStore
