import EntityStore.Number.Numeral
import EntityStore.Text.Quoted

/-!
# Values

A value is what a placeholder of a statement is bound to and what a column of a row holds. Apart from
NULL it has one of five types.
-/

namespace EntityStore

inductive ValueType where
  | bool
  | int
  | float
  | text
  | bytes
deriving DecidableEq, Repr, Inhabited

namespace ValueType

def name : ValueType → String
  | bool => "bool"
  | int => "int"
  | float => "float"
  | text => "text"
  | bytes => "bytes"

/-- The types in the order of their names' table. -/
def all : List ValueType := [bool, int, float, text, bytes]

theorem mem_all (t : ValueType) : t ∈ all := by cases t <;> decide

def ofName? (s : String) : Option ValueType := all.find? (·.name == s)

theorem ofName?_name (t : ValueType) : ofName? t.name = some t := by cases t <;> rfl

end ValueType

/-- A bound argument or the content of a column. -/
inductive Value where
  | null
  | bool (b : Bool)
  | int (i : Int64)
  | float (x : Double)
  | text (s : String)
  | bytes (b : List UInt8)
deriving DecidableEq, Inhabited

namespace Value

/-- The type of a value; NULL has none. -/
def type? : Value → Option ValueType
  | null => none
  | bool _ => some .bool
  | int _ => some .int
  | float _ => some .float
  | text _ => some .text
  | bytes _ => some .bytes

def isNull (v : Value) : Bool := v.type?.isNone

/-- The number of an integer value. -/
def asInt? : Value → Option Int64
  | int i => some i
  | _ => none

/-- Equality of values as data, where a float equals another as a number does: the two zeros are
equal, and `nan` equals nothing. -/
def same : Value → Value → Bool
  | float x, float y => x.numericEq y
  | v, w => v == w

/-- A value shown to a reader: text in quotes, bytes by their number. -/
def display : Value → String
  | null => "NULL"
  | bool b => if b then "true" else "false"
  | int i => toString i.toInt
  | float x => String.ofList (Number.doubleText x)
  | text s => Text.quoted s
  | bytes b => "<" ++ toString b.length ++ " bytes>"

@[simp] theorem isNull_null : isNull null = true := rfl

theorem isNull_iff {v : Value} : v.isNull = true ↔ v = null := by
  cases v <;> simp [isNull, type?]

end Value

end EntityStore
