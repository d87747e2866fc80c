import EntityStore.Proofs.Placement.Routing

/-!
# Conditions as they are stored

A stored predicate has an operator between any two expressions, of which the left one may be missing. So
before anything else, its route looks whether the sides of a conjunction or disjunction are
predicates. The constructors only put predicates there: what they make are the conditions of
`Predicate` (`RawPredicate.built_iff`). These are routed alike in both forms
(`Placement.routeRaw_raw`), so that a check of the sides never fails.
-/

namespace EntityStore

/-! ## Stored predicates -/

inductive Connective where
  | and
  | or
deriving DecidableEq

/-- What a stored predicate does with its operands. -/
inductive Operator where
  | logic (c : Connective)
  | not
  | compare (op : Comparison)
deriving DecidableEq

mutual

/-- An expression as it is stored. -/
inductive RawExpr where
  | term (t : Term)
  | predicate (p : RawPredicate)

/-- A predicate as it is stored. -/
inductive RawPredicate where
  | node (left : Option RawExpr) (op : Operator) (right : RawExpr)

end

/-- The literal that an expression is. -/
def RawExpr.value? : RawExpr → Option Value
  | term (.value v) => some v
  | _ => none

/-- A condition in its stored form. -/
def Predicate.raw : Predicate → RawPredicate
  | compare l op t => .node (some (.term (.operand l))) (.compare op) (.term t)
  | compareTruth l op p => .node (some (.term (.operand l))) (.compare op) (.predicate p.raw)
  | and p q => .node (some (.predicate p.raw)) (.logic .and) (.predicate q.raw)
  | or p q => .node (some (.predicate p.raw)) (.logic .or) (.predicate q.raw)
  | not p => .node none .not (.predicate p.raw)

/-- The stored predicates that the constructors make: columns and aggregates can be compared with any
expression, and predicates can be joined and negated. -/
inductive RawPredicate.Built : RawPredicate → Prop where
  | compare (l : Operand) (op : Comparison) (t : Term) :
      Built (.node (some (.term (.operand l))) (.compare op) (.term t))
  | compareTruth (l : Operand) (op : Comparison) {p : RawPredicate} :
      Built p → Built (.node (some (.term (.operand l))) (.compare op) (.predicate p))
  | logic (c : Connective) {p q : RawPredicate} :
      Built p → Built q → Built (.node (some (.predicate p)) (.logic c) (.predicate q))
  | not {p : RawPredicate} : Built p → Built (.node none .not (.predicate p))

theorem Predicate.built_raw (p : Predicate) : p.raw.Built := by
  induction p with
  | compare l op t => exact .compare l op t
  | compareTruth l op p ih => exact .compareTruth l op ih
  | and p q ihp ihq => exact .logic .and ihp ihq
  | or p q ihp ihq => exact .logic .or ihp ihq
  | not p ih => exact .not ih

/-- What the constructors make are the conditions. -/
theorem RawPredicate.built_iff {t : RawPredicate} : t.Built ↔ ∃ p : Predicate, p.raw = t := by
  constructor
  · intro h
    induction h with
    | compare l op t => exact ⟨.compare l op t, rfl⟩
    | compareTruth l op _ ih =>
      obtain ⟨p, rfl⟩ := ih
      exact ⟨.compareTruth l op p, rfl⟩
    | logic c _ _ ihp ihq =>
      obtain ⟨p, rfl⟩ := ihp
      obtain ⟨q, rfl⟩ := ihq
      cases c with
      | and => exact ⟨.and p q, rfl⟩
      | or => exact ⟨.or p q, rfl⟩
    | not _ ih =>
      obtain ⟨p, rfl⟩ := ih
      exact ⟨.not p, rfl⟩
  · rintro ⟨p, rfl⟩
    exact p.built_raw

/-! ## Routes of stored predicates -/

/-- The targets of two sides together. -/
def Connective.combine : Connective → TargetSet → TargetSet → TargetSet
  | and => TargetSet.inter
  | or => TargetSet.union

namespace Placement

variable {a : Placement} {m : TableModel}

/-- The targets that a stored predicate can touch; the set may be empty. -/
def routeRawPredicate (a : Placement) (m : TableModel) : RawPredicate → Except QueryError TargetSet
  | .node left (.logic c) right =>
    match left with
    | some (.predicate l) =>
      match right with
      | .predicate r =>
        match a.routeRawPredicate m l with
        | .error e => .error e
        | .ok s =>
          match a.routeRawPredicate m r with
          | .error e => .error e
          | .ok t => .ok (c.combine s t)
      | _ => .error (.notAPredicate "right")
    | _ => .error (.notAPredicate "left")
  | .node left (.compare op) right =>
    match left with
    | some (.term (.operand l)) => a.routeCompare m l op right.value?
    | _ => .error .notAColumn
  | .node _ .not _ => .ok (a.broadcast ())

/-- The targets that a statement with a stored predicate can touch; no targets are an error. -/
def routeRaw (a : Placement) (m : TableModel) (t : RawPredicate) : Except QueryError TargetSet :=
  match a.routeRawPredicate m t with
  | .error e => .error e
  | .ok [] => .error .noDataSource
  | .ok targets => .ok targets

theorem routeRawPredicate_raw (p : Predicate) :
    a.routeRawPredicate m p.raw = a.routePredicate m p := by
  induction p with
  | compare l op t => cases t <;> rfl
  | compareTruth l op p ih => rfl
  | and p q ihp ihq =>
    rw [Predicate.raw, routeRawPredicate, routePredicate, ihp, ihq]
    rfl
  | or p q ihp ihq =>
    rw [Predicate.raw, routeRawPredicate, routePredicate, ihp, ihq]
    rfl
  | not p ih => rfl

/-- A condition is routed as its stored form is. -/
theorem routeRaw_raw (p : Predicate) : a.routeRaw m p.raw = a.route m (some p) := by
  rw [routeRaw, routeRawPredicate_raw]
  rfl

/-- The left side is checked before the right one, and both before either is routed. -/
example (a : Placement) (m : TableModel) (v : Value) (p : Predicate) :
    a.routeRaw m (.node none (.logic .and) (.term (.value v))) = .error (.notAPredicate "left") ∧
      a.routeRaw m (.node (some (.predicate p.raw)) (.logic .or) (.term (.value v))) =
        .error (.notAPredicate "right") :=
  ⟨rfl, rfl⟩

end Placement

end EntityStore
