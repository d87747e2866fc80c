import EntityStore.Statement.Template

/-!
# Expressions and predicates

A predicate is a comparison, a conjunction, a disjunction or a negation. The left side of a comparison
is a column or an aggregate of one; the right side may be any expression, among them another
predicate. In the text of a predicate an operand stands in parentheses iff it is a predicate itself,
so the grouping of the tree is never lost; the text of a negation begins with a space, since nothing
stands on its left.
-/

namespace EntityStore

/-- A function over a group of rows. -/
inductive Aggregate where
  | sum
  | avg
  | count
  | max
  | min
deriving DecidableEq, Repr, Inhabited

def Aggregate.name : Aggregate → String
  | sum => "SUM"
  | avg => "AVG"
  | count => "COUNT"
  | max => "MAX"
  | min => "MIN"

/-- The direction of an order. -/
inductive Direction where
  | asc
  | desc
deriving DecidableEq, Repr, Inhabited

def Direction.name : Direction → String
  | asc => "ASC"
  | desc => "DESC"

/-- What two sides are compared by. -/
inductive Comparison where
  | lt
  | gt
  | eq
deriving DecidableEq, Repr, Inhabited

def Comparison.sign : Comparison → String
  | lt => "<"
  | gt => ">"
  | eq => "="

/-- A column or an aggregate of a column, named by its field. -/
inductive Operand where
  | column (field : String)
  | aggregate (f : Aggregate) (field : String)
deriving DecidableEq, Inhabited

/-- The field an operand refers to. -/
def Operand.field : Operand → String
  | column f => f
  | aggregate _ f => f

/-- An expression that is no predicate. -/
inductive Term where
  /-- A column or an aggregate. -/
  | operand (o : Operand)
  /-- A literal. -/
  | value (v : Value)
  /-- An order by a column. -/
  | order (direction : Direction) (field : String)
deriving DecidableEq, Inhabited

/-- A condition. -/
inductive Predicate where
  /-- A comparison with an expression that is no predicate. -/
  | compare (left : Operand) (op : Comparison) (right : Term)
  /-- A comparison with the truth value of a predicate. -/
  | compareTruth (left : Operand) (op : Comparison) (right : Predicate)
  | and (left right : Predicate)
  | or (left right : Predicate)
  | not (inner : Predicate)
deriving DecidableEq, Inhabited

inductive Expr where
  | term (t : Term)
  | predicate (p : Predicate)
deriving DecidableEq, Inhabited

/-! ## Layout -/

/-- The pieces of an operand. -/
def Operand.template : Operand → Template
  | column f => Template.quotedColumn f
  | aggregate a f => [.column (a.name ++ "(`") f "`)"]

/-- The pieces of a term. -/
def Term.template : Term → Template
  | operand o => o.template
  | value v => [.argument v]
  | order d f => [.column "`" f ("` " ++ d.name)]

/-- Pieces between parentheses. -/
def Template.parenthesized (t : Template) : Template := .text "(" :: t ++ [.text ")"]

/-- The pieces of a predicate. -/
def Predicate.template : Predicate → Template
  | compare l op r => l.template ++ .text (" " ++ op.sign ++ " ") :: r.template
  | compareTruth l op r =>
    l.template ++ .text (" " ++ op.sign ++ " ") :: r.template.parenthesized
  | and l r => l.template.parenthesized ++ .text " AND " :: r.template.parenthesized
  | or l r => l.template.parenthesized ++ .text " OR " :: r.template.parenthesized
  | not p => .text " NOT " :: p.template.parenthesized

/-- The pieces of an expression. -/
def Expr.template : Expr → Template
  | term t => t.template
  | predicate p => p.template

/-- The conjunction of a list of predicates, from the left; nothing for the empty list. -/
def Predicate.conjunction : List Predicate → Option Predicate
  | [] => none
  | p :: rest => some (rest.foldl .and p)

@[simp] theorem Predicate.conjunction_nil : Predicate.conjunction [] = none := rfl

@[simp] theorem Predicate.conjunction_singleton (p : Predicate) :
    Predicate.conjunction [p] = some p := rfl

end EntityStore
