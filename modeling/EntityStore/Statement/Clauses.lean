import EntityStore.Placement.Route
import EntityStore.Session.Interceptor

/-!
# Clauses of statements

A select lists its clauses in a fixed order, a delete has a condition only. Several conditions are
joined from the left. A condition on groups needs groups; that it has none is found out after the
condition on rows and the list of groups have been written. A limit and an offset are arguments.

A select over a table that is spread by a placement is one select for each target its condition can
touch, in the order of the targets.
-/

namespace EntityStore

/-- What a select or a delete is made of. -/
structure Clauses where
  /-- The table as it is to be written, if it is not the one of the model. -/
  table : Option String := none
  /-- The conditions on rows. -/
  conditions : List Predicate := []
  /-- The fields to group by. -/
  groupBy : List String := []
  /-- The condition on groups. -/
  having : Option Predicate := none
  orderBy : List (Direction × String) := []
  /-- The greatest number of rows. -/
  limit : Option UInt32 := none
  /-- The number of rows to leave out. -/
  offset : Option UInt32 := none
  options : CallOptions := {}
deriving DecidableEq, Inhabited

namespace Clauses

/-- The clauses with another table; an empty name stands for the one of the model. -/
def fromTable (c : Clauses) (table : String) : Clauses :=
  { c with table := if table.isEmpty then none else some table }

/-- The table of a model as it is written. -/
def modelTable (m : TableModel) : String := "`" ++ m.table ++ "`"

def tableText (c : Clauses) (m : TableModel) : String := c.table.getD (modelTable m)

/-- All conditions on rows in one. -/
def condition (c : Clauses) : Option Predicate := Predicate.conjunction c.conditions

/-- The condition on rows. -/
def whereTemplate (c : Clauses) : Template :=
  match c.condition with
  | none => []
  | some p => .text " WHERE " :: p.template

def groupTemplate (c : Clauses) : Template :=
  if c.groupBy.isEmpty then []
  else .text " GROUP BY " :: Template.commaList (c.groupBy.map Template.quotedColumn)

/-- The condition on groups. -/
def havingTemplate (c : Clauses) : Template :=
  match c.having with
  | none => []
  | some p =>
    if c.groupBy.isEmpty then [.refuse (.query .missingGroupBy)]
    else .text " HAVING " :: p.template

def orderTemplate (c : Clauses) : Template :=
  if c.orderBy.isEmpty then []
  else .text " ORDER BY " :: Template.commaList (c.orderBy.map fun (d, f) => (Term.order d f).template)

/-- A number behind a word. -/
def countTemplate (word : String) : Option UInt32 → Template
  | none => []
  | some n => [.text word, .argument (.int (Int64.ofNat n.toNat))]

def selectTemplate (c : Clauses) (table : String) : Template :=
  [.text "SELECT * FROM ", .text table] ++ c.whereTemplate ++ c.groupTemplate ++ c.havingTemplate ++
    c.orderTemplate ++ countTemplate " LIMIT " c.limit ++ countTemplate " OFFSET " c.offset ++
    [.text ";"]

def deleteTemplate (c : Clauses) (table : String) : Template :=
  [.text "DELETE FROM ", .text table] ++ c.whereTemplate ++ [.text ";"]

def select (c : Clauses) (m : TableModel) : Except Error Query :=
  (c.selectTemplate (c.tableText m)).toQuery m

def delete (c : Clauses) (m : TableModel) : Except Error Query :=
  (c.deleteTemplate (c.tableText m)).toQuery m

/-- The queries of a select from each of a list of targets; the first that cannot be written decides
the failure. -/
def selectFrom (c : Clauses) (m : TableModel) :
    TargetSet → Except Error (List (Target × Query))
  | [] => .ok []
  | t :: rest =>
    match (c.selectTemplate t.text).toQuery m with
    | .error e => .error e
    | .ok q =>
      match c.selectFrom m rest with
      | .error e => .error e
      | .ok qs => .ok ((t, q) :: qs)

/-- The queries of a sharded select, by target. -/
def selectSharded (c : Clauses) (placement : Placement) (m : TableModel) :
    Except Error (List (Target × Query)) :=
  match placement.route m c.condition with
  | .error e => .error (.query e)
  | .ok targets => c.selectFrom m targets

end Clauses

end EntityStore
