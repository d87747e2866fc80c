import EntityStore.Error
import EntityStore.Text.Blank
import EntityStore.Text.Utf8

/-!
# Conversion of values without loss

Drivers hand numbers back as text or booleans as integers. `Value.coerce` brings a value to a wanted
type where nothing is lost, and NULL to NULL. `FieldType.read` goes on to the type of a field: an
integer has to fit the width, a single precision number is rounded, and only an optional field takes
NULL. What a field holds is again a value, so reading what is held changes nothing.
-/

namespace EntityStore

namespace Value

/-- The largest integer up to which all integers are exact floats. -/
def maxExactInt : Int := 9_007_199_254_740_992

/-- The value brought to a type; `none` if that would lose something. -/
def coerce? (target : ValueType) : Value → Option Value
  | null => some null
  | bool b =>
    match target with
    | .bool => some (bool b)
    | .int => some (int (if b then 1 else 0))
    | _ => none
  | int i =>
    match target with
    | .bool => if i = 0 then some (bool false) else if i = 1 then some (bool true) else none
    | .int => some (int i)
    | .float => if i.toInt.natAbs ≤ maxExactInt then some (float (Double.ofInt i.toInt)) else none
    | _ => none
  | float x =>
    match target with
    | .float => some (float x)
    | _ => none
  | text s =>
    match target with
    | .int => (Number.readInt64? (Text.trim s.toList)).map int
    | .float => (Number.readDouble? (Text.trim s.toList)).map float
    | .text => some (text s)
    | .bytes => some (bytes (Text.utf8 s))
    | .bool => none
  | bytes b =>
    match target with
    | .text => (Text.ofUtf8? b).map text
    | .bytes => some (bytes b)
    | _ => none

/-- The value brought to a type. -/
def coerce (target : ValueType) (v : Value) : Except ValueError Value :=
  match coerce? target v, v.type? with
  | some w, _ => .ok w
  | none, some found => .error (.typeMismatch target found)
  | none, none => .error (.unexpectedNull target)

@[simp] theorem coerce_null (target : ValueType) : coerce target null = .ok null := rfl

end Value

/-- The type of a record field. -/
inductive FieldType where
  | bool
  | int (width : IntWidth)
  | single
  | double
  | text
  | bytes
  | optional (inner : FieldType)
deriving DecidableEq, Repr, Inhabited

namespace FieldType

/-- The type of the values a field holds. -/
def valueType : FieldType → ValueType
  | bool => .bool
  | int _ => .int
  | single => .float
  | double => .float
  | text => .text
  | bytes => .bytes
  | optional t => t.valueType

/-- Whether a field takes NULL. -/
def nullable : FieldType → Bool
  | optional _ => true
  | _ => false

/-- What a new record holds in a field. -/
def initial : FieldType → Value
  | bool => .bool false
  | int _ => .int 0
  | single => .float (Double.zero false)
  | double => .float (Double.zero false)
  | text => .text ""
  | bytes => .bytes []
  | optional _ => .null

/-- A value of the right type as a field that is not optional holds it. -/
def narrow : FieldType → Value → Except ValueError Value
  | int w, .int i => if w.fits i then .ok (.int i) else .error (.outOfRange i w)
  | single, .float x => .ok (.float x.toSingle)
  | t, .null => .error (.unexpectedNull t.valueType)
  | _, v => .ok v

/-- What a field holds after a value was written to it. -/
def read : FieldType → Value → Except ValueError Value
  | optional t, v => if v.isNull then .ok .null else t.read v
  | t, v =>
    match v.coerce t.valueType with
    | .ok w => t.narrow w
    | .error e => .error e

@[simp] theorem read_optional_null (t : FieldType) : (optional t).read .null = .ok .null := rfl

end FieldType

end EntityStore
