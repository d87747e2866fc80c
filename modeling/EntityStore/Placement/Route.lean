import EntityStore.Model.Table
import EntityStore.Placement.Scheme

/-!
# Routing a condition

The targets that a condition can touch: a conjunction touches what both sides touch, a disjunction
what either side touches, a comparison of the key with an integer what the placement says, and
anything else every target. The sides of a conjunction or disjunction are looked at from left to
right, so the leftmost comparison that cannot be routed decides the error; what stands below a
negation is not looked at.
-/

namespace EntityStore

namespace Placement

/-- Whether a field is the one a placement splits by. -/
def isKey (a : Placement) (f : Field) : Bool := f.name == a.key || f.column == a.key

/-- The targets of a comparison with a literal, or with anything else (`none`). -/
def routeCompare (a : Placement) (m : TableModel) (left : Operand) (op : Comparison)
    (right : Option Value) : Except QueryError TargetSet :=
  match left with
  | .aggregate .. => .error .notAColumn
  | .column field =>
    match m.field? field with
    | none => .error (.illegalField field)
    | some f =>
      match right with
      | none => .error .notAValue
      | some v =>
        if a.isKey f then
          match v.asInt? with
          | some i => a.targets op i
          | none => .ok (a.broadcast ())
        else .ok (a.broadcast ())

/-- The targets that a condition can touch; the set may be empty. -/
def routePredicate (a : Placement) (m : TableModel) : Predicate → Except QueryError TargetSet
  | .compare l op (.value v) => a.routeCompare m l op (some v)
  | .compare l op _ => a.routeCompare m l op none
  | .compareTruth l op _ => a.routeCompare m l op none
  | .and l r =>
    match a.routePredicate m l with
    | .error e => .error e
    | .ok s =>
      match a.routePredicate m r with
      | .error e => .error e
      | .ok t => .ok (s.inter t)
  | .or l r =>
    match a.routePredicate m l with
    | .error e => .error e
    | .ok s =>
      match a.routePredicate m r with
      | .error e => .error e
      | .ok t => .ok (s.union t)
  | .not _ => .ok (a.broadcast ())

/-- The targets that a statement with an optional condition can touch; the set may be empty. -/
def candidates (a : Placement) (m : TableModel) (p : Option Predicate) :
    Except QueryError TargetSet :=
  match p with
  | none => .ok (a.broadcast ())
  | some p => a.routePredicate m p

/-- The targets that a statement with an optional condition can touch; no targets are an error. -/
def route (a : Placement) (m : TableModel) (p : Option Predicate) : Except QueryError TargetSet :=
  match a.candidates m p with
  | .error e => .error e
  | .ok [] => .error .noDataSource
  | .ok targets => .ok targets

end Placement

/-! ## Placement by residues -/

namespace HashScheme

/-- Whether a field is the one a scheme splits by. -/
abbrev isKey (s : HashScheme) (f : Field) : Bool := s.placement.isKey f

/-- The targets of a comparison with a literal, or with anything else (`none`). -/
abbrev routeCompare (s : HashScheme) (m : TableModel) (left : Operand) (op : Comparison)
    (right : Option Value) : Except QueryError TargetSet :=
  s.placement.routeCompare m left op right

/-- The targets that a condition can touch; the set may be empty. -/
abbrev routePredicate (s : HashScheme) (m : TableModel) (p : Predicate) :
    Except QueryError TargetSet :=
  s.placement.routePredicate m p

/-- The targets that a statement with an optional condition can touch; no targets are an error. -/
abbrev route (s : HashScheme) (m : TableModel) (p : Option Predicate) :
    Except QueryError TargetSet :=
  s.placement.route m p

end HashScheme

end EntityStore
