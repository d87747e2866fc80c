import EntityStore.Sqlite.Refusal
import EntityStore.Sqlite.Statement

/-!
# Evaluating expressions

The names of an expression are looked up before it is evaluated, so that an unknown name is refused
even if there are no rows. Truth has three values: a comparison with nothing is neither true nor false,
and `AND`, `OR` and `NOT` treat that as a truth that is not known. A condition keeps a row only if it
is true (`holds`).
-/

namespace EntityStore.Sqlite

/-- An expression over the columns of a row. -/
inductive Formula where
  | constant (d : Datum)
  | column (place : Nat) (type : ColumnType)
  /-- The number of rows of the group. -/
  | rowCount
  /-- An aggregate of a column, over a group of one row. -/
  | aggregate (a : Aggregate) (place : Nat)
  | asText (f : Formula)
  | compare (op : Comparison) (left right : Formula)
  | and (left right : Formula)
  | or (left right : Formula)
  | not (f : Formula)
deriving DecidableEq, Inhabited

/-! ## Truth -/

/-- A truth value that may not be known. -/
abbrev Truth := Option Bool

namespace Truth

/-- Both. -/
def and : Truth → Truth → Truth
  | some false, _ => some false
  | _, some false => some false
  | some true, some true => some true
  | _, _ => none

/-- One of two. -/
def or : Truth → Truth → Truth
  | some true, _ => some true
  | _, some true => some true
  | some false, some false => some false
  | _, _ => none

/-- The opposite. -/
def not (t : Truth) : Truth := t.map (!·)

theorem and_comm (a b : Truth) : and a b = and b a := by
  rcases a with _ | _ | _ <;> rcases b with _ | _ | _ <;> rfl

theorem or_comm (a b : Truth) : or a b = or b a := by
  rcases a with _ | _ | _ <;> rcases b with _ | _ | _ <;> rfl

theorem not_and (a b : Truth) : not (and a b) = or (not a) (not b) := by
  rcases a with _ | _ | _ <;> rcases b with _ | _ | _ <;> rfl

theorem not_not (a : Truth) : not (not a) = a := by
  rcases a with _ | _ | _ <;> rfl

/-- A truth value as it is stored. -/
def toDatum : Truth → Datum
  | none => .null
  | some b => .int (if b then 1 else 0)

end Truth

namespace Datum

/-- Whether a value is true: a number is unless it is zero. -/
def truth : Datum → Truth
  | null => none
  | int i => some (i ≠ 0)
  | real x => some (x.toInt? ≠ some 0)
  | text b => some ((leadingNumber (byteChars b)).toInt? ≠ some 0)
  | blob b => some ((leadingNumber (byteChars b)).toInt? ≠ some 0)

@[simp] theorem truth_toDatum (t : Truth) : t.toDatum.truth = t := by
  rcases t with _ | _ | _ <;> rfl

/-- A value as a number: that at the beginning of a text, zero if there is none. -/
def toDouble : Datum → Double
  | null => Double.zero false
  | int i => Double.ofInt i.toInt
  | real x => x
  | text b => leadingNumber (byteChars b)
  | blob b => leadingNumber (byteChars b)

/-- A value that reads as a number, as that number. -/
def number? : Datum → Option Datum
  | int i => some (int i)
  | real x => some (real x)
  | text b => numberOf? (byteChars b)
  | _ => none

/-- An aggregate of one value. -/
def aggregate (a : Aggregate) (d : Datum) : Datum :=
  match a with
  | .count => int (if d.isNull then 0 else 1)
  | .max => d
  | .min => d
  | .sum => if d.isNull then null else d.number?.getD (real d.toDouble)
  | .avg => if d.isNull then null else real d.toDouble

/-- Bytes as a text; numbers are written out. -/
def asText : Datum → Datum
  | blob b => text b
  | d => ColumnType.toText d

/-- A comparison of two values. -/
def compare (op : Comparison) (x y : Datum) : Truth :=
  if x.isNull || y.isNull then none
  else
    match op with
    | .eq => some (x.order y == .eq)
    | .lt => some (x.order y == .lt)
    | .gt => some (x.order y == .gt)

@[simp] theorem compare_null_left (op : Comparison) (y : Datum) : compare op null y = none := rfl

end Datum

/-! ## Evaluation -/

namespace Formula

/-- The type of a side of a comparison, if it is a column. -/
def type? : Formula → Option ColumnType
  | column _ t => some t
  | asText _ => some .text
  | _ => none

/-- The value of an expression on a row that stands for a group of `count` rows. -/
def eval (row : List Datum) (count : Nat) : Formula → Datum
  | constant d => d
  | column i _ => row[i]?.getD .null
  | rowCount => .int (Int64.ofNat count)
  | aggregate a i => (row[i]?.getD .null).aggregate a
  | asText f => (f.eval row count).asText
  | compare op l r =>
    let align := ColumnType.aligned l.type? r.type?
    (Datum.compare op (align (l.eval row count)) (align (r.eval row count))).toDatum
  | and l r => ((l.eval row count).truth.and (r.eval row count).truth).toDatum
  | or l r => ((l.eval row count).truth.or (r.eval row count).truth).toDatum
  | not f => (f.eval row count).truth.not.toDatum

/-- Whether a condition keeps a row; no condition keeps every row. -/
def holds (condition : Option Formula) (row : List Datum) : Bool :=
  match condition with
  | none => true
  | some f => (f.eval row 1).truth == some true

@[simp] theorem holds_none (row : List Datum) : holds none row = true := rfl

theorem holds_and (f g : Formula) (row : List Datum) :
    holds (some (.and f g)) row = (holds (some f) row && holds (some g) row) := by
  simp only [holds, eval, Datum.truth_toDatum]
  rcases (f.eval row 1).truth with _ | _ | _ <;> rcases (g.eval row 1).truth with _ | _ | _ <;> rfl

end Formula

/-! ## Names -/

/-- Whether two names are the same; the case of ASCII letters does not count. -/
def sameName (a b : String) : Bool := a.map Char.toLower == b.map Char.toLower

/-- A column that an expression can name. -/
structure ScopeColumn where
  table : String
  /-- The column. -/
  name : String
  type : ColumnType
deriving DecidableEq

/-- What an expression can name. -/
structure Scope where
  /-- The columns, in the order of the values of a row. -/
  columns : List ScopeColumn := []
  /-- The names of the result of a select. -/
  aliases : List (String × Formula) := []
  arguments : List Datum := []
  /-- Whether aggregates can be used. -/
  grouped : Bool := false

namespace Scope

/-- The place of a column. -/
def find? (s : Scope) (table : Option String) (name : String) : Option Nat :=
  s.columns.findIdx? fun c =>
    sameName c.name name && (table.map (sameName c.table)).getD true

def place (s : Scope) (table : Option String) (name : String) : Except Refusal (Nat × ColumnType) :=
  match s.find? table name with
  | some i => .ok (i, (s.columns[i]?.map (·.type)).getD .untyped)
  | none => .error (.unknownColumn name)

/-- What a name of the result stands for. -/
def alias? (s : Scope) (name : String) : Option Formula :=
  (s.aliases.find? fun a => sameName a.1 name).map (·.2)

/-- A column; or what a name of the result stands for. -/
def column (s : Scope) (table : Option String) (name : String) : Except Refusal Formula :=
  match s.place table name with
  | .ok (i, t) => .ok (.column i t)
  | .error e =>
    match table, s.alias? name with
    | none, some f => .ok f
    | _, _ => .error e

/-- An expression with its names looked up. A placeholder without an argument stands for nothing. -/
def formula (s : Scope) : Scalar → Except Refusal Formula
  | .literal d => .ok (.constant d)
  | .placeholder i => .ok (.constant (s.arguments[i]?.getD .null))
  | .column t c => s.column t c
  | .rowCount => if s.grouped then .ok .rowCount else .error .misplacedAggregate
  | .aggregate a c => do
    let (i, _) ← s.place none c
    if s.grouped then return .aggregate a i else throw .misplacedAggregate
  | .asText e => do return .asText (← s.formula e)
  | .compare op l r => do return .compare op (← s.formula l) (← s.formula r)
  | .and l r => do return .and (← s.formula l) (← s.formula r)
  | .or l r => do return .or (← s.formula l) (← s.formula r)
  | .not e => do return .not (← s.formula e)

/-- An expression that may be missing. -/
def formula? (s : Scope) : Option Scalar → Except Refusal (Option Formula)
  | none => .ok none
  | some e => (s.formula e).map some

@[simp] theorem formula?_none (s : Scope) : s.formula? none = .ok none := rfl

end Scope

end EntityStore.Sqlite
