import EntityStore.Sqlite.Grammar
import EntityStore.Sqlite.Table

/-!
# Stores

A store is a list of tables. Running a statement on a store either is refused, or gives an outcome and
a new store; a statement that is refused half way has changed nothing. References between tables are
not looked at here, but by whoever makes the new store visible (`Store.isConsistent`).
-/

namespace EntityStore.Sqlite

/-- The tables of a database. -/
structure Store where
  tables : List Table := []
deriving DecidableEq, Inhabited

/-- What a statement gives back. -/
structure Outcome where
  /-- The names of the columns of the result. -/
  columns : List String := []
  /-- The rows of the result. -/
  rows : List (List Datum) := []
  /-- The number of rows that were inserted, changed or deleted. -/
  changed : Nat := 0
  /-- The id of the last row that was inserted. -/
  lastId : Option Int64 := none
deriving DecidableEq, Inhabited

namespace Store

/-! ## Tables -/

def find? (s : Store) (name : String) : Option Table := s.tables.find? fun t => sameName t.name name

/-- The table that a statement names; all tables are in the database `main`. -/
def table (s : Store) (n : TableName) : Except Refusal Table :=
  if (n.database.map (sameName · "main")).getD true then
    match s.find? n.name with
    | some t => .ok t
    | none => .error (.unknownTable n.name)
  else .error (.unknownTable n.name)

/-- The store with a table in the place of the one of its name, or behind the others. -/
def put (s : Store) (t : Table) : Store :=
  if s.tables.any (·.name == t.name) then
    ⟨s.tables.map fun u => if u.name == t.name then t else u⟩
  else ⟨s.tables ++ [t]⟩

/-- The store with a table, unless there is one of its name. -/
def create (s : Store) (t : Table) : Store := if (s.find? t.name).isSome then s else s.put t

/-- Whether a value refers to a row of a table, or to nothing. -/
def refers (s : Store) (parent : String) : Datum → Bool
  | .null => true
  | .int id => (((s.find? parent).bind (·.find? id)).isSome)
  | _ => false

/-- Whether all references lead to rows that exist. -/
def isConsistent (s : Store) : Bool :=
  s.tables.all fun t =>
    t.rows.all fun r =>
      (t.columns.zip r.values).all fun (c, d) =>
        match c.references with
        | some parent => s.refers parent d
        | none => true

@[simp] theorem isConsistent_empty : isConsistent {} = true := rfl

/-- Refuses columns whose references lead to a table that does not exist. -/
def checkParents (s : Store) (columns : List Column) : Except Refusal Unit :=
  match columns.find? fun c => (c.references.map fun p => (s.find? p).isNone).getD false with
  | some c => .error (.unknownTable (c.references.getD ""))
  | none => .ok ()

/-! ## Selects -/

/-- A row that stands for a group, and the size of the group. -/
structure Group where
  /-- The values. -/
  row : List Datum
  /-- The number of rows. -/
  count : Nat := 1

/-- Whether an expression looks at a group as a whole. -/
def usesGroup : Formula → Bool
  | .rowCount => true
  | .aggregate _ _ => true
  | .asText f => usesGroup f
  | .compare _ l r => usesGroup l || usesGroup r
  | .and l r => usesGroup l || usesGroup r
  | .or l r => usesGroup l || usesGroup r
  | .not f => usesGroup f
  | _ => false

/-- Whether an expression uses an aggregate of a column. -/
def usesAggregate : Formula → Bool
  | .aggregate _ _ => true
  | .asText f => usesAggregate f
  | .compare _ l r => usesAggregate l || usesAggregate r
  | .and l r => usesAggregate l || usesAggregate r
  | .or l r => usesAggregate l || usesAggregate r
  | .not f => usesAggregate f
  | _ => false

/-- The columns of a result, with their names. -/
def itemColumns (scope : Scope) : Item → Except Refusal (List (String × Formula))
  | .all =>
    if scope.columns.isEmpty then .error .noTable
    else .ok (scope.columns.mapIdx fun i c => (c.name, .column i c.type))
  | .scalar e name source => do
    let f ← scope.formula e
    let own := match f with
      | .column i _ => (scope.columns[i]?.map (·.name)).getD source
      | _ => source
    return [(name.getD own, f)]

/-- The order of two lists of values, column by column in the given directions. -/
def compareKeys : List Direction → List Datum → List Datum → Ordering
  | d :: ds, x :: xs, y :: ys =>
    let first := match d with
      | .asc => x.order y
      | .desc => y.order x
    first.then (compareKeys ds xs ys)
  | _, _, _ => .eq

/-- Groups in the order of keys; those with equal keys stay as they are. -/
def sortBy (keys : List (Formula × Direction)) (groups : List Group) : List Group :=
  let directions := keys.map (·.2)
  let keyed := groups.map fun g => (keys.map fun k => k.1.eval g.row g.count, g)
  (keyed.mergeSort fun a b => compareKeys directions a.1 b.1 != .gt).map (·.2)

/-- Whether neighbours have different keys. -/
def keysDiffer (keys : List Formula) : List Group → Bool
  | a :: b :: rest =>
    let key (g : Group) := keys.map fun k => k.eval g.row g.count
    compareKeys (keys.map fun _ => .asc) (key a) (key b) != .eq && keysDiffer keys (b :: rest)
  | _ => true

/-- The groups of some rows. Without keys every row stands for itself, or all of them for one if the
result looks at groups; with keys every group has to be one row. -/
def groupsOf (width : Nat) (keys results : List Formula) (rows : List (List Datum)) :
    Except Refusal (List Group) :=
  if keys.isEmpty then
    if results.any usesGroup then
      if 1 < rows.length && results.any usesAggregate then .error .sharedGroup
      else .ok [⟨rows.head?.getD (List.replicate width .null), rows.length⟩]
    else .ok (rows.map fun r => ⟨r, 1⟩)
  else
    let groups := sortBy (keys.map fun k => (k, .asc)) (rows.map fun r => ⟨r, 1⟩)
    if keysDiffer keys groups then .ok groups else .error .sharedGroup

/-- The number of a limit or an offset; less than zero counts as no limit. -/
def bound (scope : Scope) : Option Scalar → Except Refusal (Option Nat)
  | none => .ok none
  | some e => do
    match ColumnType.toNumber ((← { scope with columns := [], aliases := [] }.formula e).eval [] 1) with
    | .int i => return if i.toInt < 0 then none else some i.toInt.toNat
    | _ => throw .limitType

/-- A condition on rows, which cannot look at groups. -/
def rowCondition (scope : Scope) (e : Option Scalar) : Except Refusal (Option Formula) := do
  match ← { scope with grouped := false }.formula? e with
  | some f => if usesGroup f then throw .misplacedAggregate else return some f
  | none => return none

/-- An order: by a column of the result if it has that name, and else by one of the table. -/
def orderKey (scope : Scope) (o : String × Direction) : Except Refusal (Formula × Direction) :=
  match scope.alias? o.1 with
  | some f => .ok (f, o.2)
  | none => do return (← scope.column none o.1, o.2)

/-- The rows of a select. -/
def select (s : Store) (arguments : List Datum) (q : Selection) : Except Refusal Outcome := do
  let table : Option Table ← match q.table with
    | some n => (s.table n).map some
    | none => pure none
  let columns := (table.map Table.scope).getD []
  let plain : Scope := { columns, arguments, grouped := true }
  let byItem ← q.items.mapM (itemColumns plain)
  let results := byItem.flatten
  let aliases := ((q.items.zip byItem).filter (·.1.isNamed)).flatMap (·.2)
  let scope := { plain with aliases }
  let condition ← rowCondition scope q.condition
  let keys ← q.groups.mapM (scope.column none)
  let having ← scope.formula? q.having
  let orders ← q.orders.mapM (orderKey scope)
  let limit ← bound scope q.limit
  let offset ← bound scope q.offset
  let rows : List (List Datum) := match table with
    | some t => t.rows.map (·.values)
    | none => [[]]
  let groups ← groupsOf columns.length keys (results.map (·.2)) (rows.filter (Formula.holds condition))
  let kept := groups.filter fun g =>
    match having with
    | some f => (f.eval g.row g.count).truth == some true
    | none => true
  let sorted := (if orders.isEmpty then kept else sortBy orders kept).drop (offset.getD 0)
  let page := match limit with
    | some n => sorted.take n
    | none => sorted
  return {
    columns := results.map (·.1)
    rows := page.map fun g => results.map fun r => r.2.eval g.row g.count }

/-! ## Writes -/

/-- New values with the places of their columns, looked up. -/
def assignments (t : Table) (scope : Scope) (cs : Changes) : Except Refusal (List (Nat × Formula)) :=
  cs.mapM fun (name, e) => do
    let i ← t.place name
    let f ← scope.formula e
    return (i, f)

/-- The values of a row after some changes; of two changes of one column the later one counts. -/
def changedValues (cs : List (Nat × Formula)) (context values : List Datum) : List Datum :=
  cs.foldl (fun vs (i, f) => vs.set i (f.eval context 1)) values

/-- The values of a new row: each column takes the first value given for it, but the key the last. -/
def newValues (t : Table) (places : List Nat) (given : List Datum) : List Datum :=
  let pairs := places.zip given
  t.columns.mapIdx fun i c =>
    let pairs := if c.isKey then pairs.reverse else pairs
    ((pairs.find? (·.1 = i)).map (·.2)).getD .null

/-- A table during an insert: with the number of rows written and the id of the last new one. -/
structure Progress where
  table : Table
  /-- The number of rows. -/
  changed : Nat := 0
  /-- The id of the last new row. -/
  lastId : Option Int64 := none

/-- Inserts one row, or changes the row that has its key. -/
def insertRow (onConflict : Option (List (Nat × Formula))) (given : List Datum) (p : Progress) :
    Except Refusal Progress := do
  let t := p.table
  let values := t.stored given
  let key ← t.keyOf values
  t.checkRequired values
  match key.bind t.find? with
  | some old =>
    match onConflict with
    | none => throw (.keyExists t.name)
    | some cs =>
      let context := old.values ++ t.withKey old.id (t.offered given)
      let table ← t.replace old (changedValues cs context old.values)
      return { p with table, changed := p.changed + 1 }
  | none =>
    match key.or t.nextId? with
    | none => throw .keysExhausted
    | some id =>
      return { table := t.add ⟨id, t.withKey id values⟩, changed := p.changed + 1, lastId := some id }

/-- Inserts rows. What to do on a conflict is not looked at unless the rows give keys, since without
them there is no conflict. -/
def insert (s : Store) (arguments : List Datum) (n : TableName) (columns : Option (List String))
    (rows : List (List Scalar)) (onConflict : Option Changes) : Except Refusal (Outcome × Store) := do
  let t ← s.table n
  s.checkParents t.columns
  let places ← match columns with
    | some cs => cs.mapM t.place
    | none => pure (List.range t.columns.length)
  let values ← rows.mapM fun row => do
    if row.length = places.length then
      (row.mapM (Scope.formula { arguments })).map fun fs => fs.map (·.eval [] 1)
    else throw (.valueCount places.length row.length)
  let scope : Scope := { columns := t.scope ++ t.scopeAs "excluded", arguments }
  let onConflict ← match onConflict with
    | some cs =>
      if t.keyPlace?.any places.contains then (assignments t scope cs).map some else pure none
    | none => pure none
  let p ← values.foldlM (fun p vs => insertRow onConflict (newValues t places vs) p) ⟨t, 0, none⟩
  return ({ changed := p.changed, lastId := p.lastId }, s.put p.table)

/-- Changes the rows that satisfy a condition, in the order of their ids. -/
def update (s : Store) (arguments : List Datum) (n : TableName) (cs : Changes)
    (condition : Option Scalar) : Except Refusal (Outcome × Store) := do
  let t ← s.table n
  let scope : Scope := { columns := t.scope, arguments }
  let cs ← assignments t scope cs
  s.checkParents (cs.filterMap fun c => t.columns[c.1]?)
  let condition ← rowCondition scope condition
  let matched := t.rows.filter fun r => Formula.holds condition r.values
  let t' ← matched.foldlM (fun (t : Table) r => t.replace r (changedValues cs r.values r.values)) t
  return ({ changed := matched.length }, s.put t')

/-- Deletes the rows that satisfy a condition. -/
def delete (s : Store) (arguments : List Datum) (n : TableName) (condition : Option Scalar) :
    Except Refusal (Outcome × Store) := do
  let t ← s.table n
  s.checkParents t.columns
  let condition ← rowCondition { columns := t.scope, arguments } condition
  let kept := t.rows.filter fun r => !Formula.holds condition r.values
  return ({ changed := t.rows.length - kept.length }, s.put { t with rows := kept })

/-! ## Statements -/

/-- Runs a statement on a store. What ends a transaction does nothing here. -/
def run (s : Store) (arguments : List Datum) : Statement → Except Refusal (Outcome × Store)
  | .select q => (s.select arguments q).map fun o => (o, s)
  | .insert t columns rows onConflict => s.insert arguments t columns rows onConflict
  | .update t cs condition => s.update arguments t cs condition
  | .delete t condition => s.delete arguments t condition
  | .commit => .ok ({}, s)
  | .rollback => .ok ({}, s)

end Store

end EntityStore.Sqlite
