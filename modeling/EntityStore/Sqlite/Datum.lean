import EntityStore.Text.Utf8
import EntityStore.Value.Basic

/-!
# Stored values

What a table holds is nothing, an integer, a number, a text or bytes. A truth value is stored as an
integer, and what is no number is stored as nothing; a text is kept as its bytes, which need not be
well-formed. Stored values are in one order: nothing comes first, then numbers by their value, then
texts, then bytes, both byte by byte.
-/

namespace EntityStore.Sqlite

/-- A value as it is stored. -/
inductive Datum where
  | null
  | int (i : Int64)
  | real (x : Double)
  | text (bytes : List UInt8)
  | blob (bytes : List UInt8)
deriving DecidableEq, Inhabited

namespace Datum

/-- A value as it is bound to a placeholder. -/
def bound : Value → Datum
  | .null => null
  | .bool b => int (if b then 1 else 0)
  | .int i => int i
  | .float x => real x
  | .text s => text (Text.utf8 s)
  | .bytes b => blob b

/-- A bound value as a statement works on it: what is no number has become nothing. -/
def taken : Datum → Datum
  | real x => if x.isNaN then null else real x
  | d => d

/-- A value as it is handed to a statement. -/
def ofValue (v : Value) : Datum := (bound v).taken

/-- A value as it is read; faulty parts of a text are replaced. -/
def toValue : Datum → Value
  | null => .null
  | int i => .int i
  | real x => .float x
  | text b => .text (Text.repaired b)
  | blob b => .bytes b

/-- The text of a word. -/
def ofString (s : String) : Datum := text (Text.utf8 s)

/-- Whether there is nothing. -/
def isNull : Datum → Bool
  | null => true
  | _ => false

@[simp] theorem toValue_ofValue_int (i : Int64) : (ofValue (.int i)).toValue = .int i := rfl

@[simp] theorem toValue_ofValue_bytes (b : List UInt8) : (ofValue (.bytes b)).toValue = .bytes b := rfl

@[simp] theorem isNull_ofValue_null : (ofValue .null).isNull = true := rfl

/-! ## Order -/

/-- The order of two lists of bytes. -/
def compareBytes : List UInt8 → List UInt8 → Ordering
  | [], [] => .eq
  | [], _ :: _ => .lt
  | _ :: _, [] => .gt
  | a :: as, b :: bs => (compare a.toNat b.toNat).then (compareBytes as bs)

/-- The place of a kind of value in the order. -/
def rank : Datum → Nat
  | null => 0
  | int _ => 1
  | real _ => 1
  | text _ => 2
  | blob _ => 3

/-- The order of two values. -/
def order : Datum → Datum → Ordering
  | int i, int j => compare i.toInt j.toInt
  | int i, real y => ((y.compareInt? i.toInt).getD .eq).swap
  | real x, int j => (x.compareInt? j.toInt).getD .eq
  | real x, real y => (x.compare? y).getD .eq
  | text a, text b => compareBytes a b
  | blob a, blob b => compareBytes a b
  | a, b => compare a.rank b.rank

@[simp] theorem compareBytes_self (l : List UInt8) : compareBytes l l = .eq := by
  induction l with
  | nil => rfl
  | cons a as ih => simp [compareBytes, ih]

@[simp] theorem order_null_null : order null null = .eq := rfl

end Datum

end EntityStore.Sqlite
