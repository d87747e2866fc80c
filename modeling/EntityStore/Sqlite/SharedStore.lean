import EntityStore.Sqlite.Store

/-!
# Shared stores

Several connections work on one store. At most one of them has a transaction open; it works on a copy,
which takes the place of the store when the transaction is committed. Outside a transaction every
statement is committed on its own. While a transaction is open, nobody else can write. Others still
read what was committed last, except that in memory a table the transaction has written is locked.

References have to lead to rows that exist whenever something is committed; a commit that fails leaves
the transaction open.
-/

namespace EntityStore.Sqlite

/-- A transaction that is open. -/
structure Writer where
  /-- The connection it belongs to. -/
  connection : Nat
  /-- The copy it works on. -/
  working : Store
  /-- The tables it has written. -/
  written : List String := []
deriving DecidableEq, Inhabited

/-- A store that connections share. -/
structure SharedStore where
  /-- What was committed last. -/
  committed : Store := {}
  /-- The open transaction. -/
  writer : Option Writer := none
  /-- Whether it is kept in memory. -/
  inMemory : Bool
deriving DecidableEq, Inhabited

/-- What came of an attempt. -/
inductive Attempt (α : Type) where
  | done (a : α)
  | refused (r : Refusal)
  /-- Another connection has a transaction open. -/
  | blocked

namespace SharedStore

/-- The transaction of a connection. -/
def owned? (s : SharedStore) (connection : Nat) : Option Writer :=
  s.writer.filter (·.connection = connection)

/-- Whether a connection has a transaction open. -/
def isOpen (s : SharedStore) (connection : Nat) : Bool := (s.owned? connection).isSome

/-- The name of the table that a statement changes. -/
def written (s : Store) (st : Statement) : List String :=
  match st.changed?.bind fun n => s.find? n.name with
  | some t => [t.name]
  | none => []

/-- Whether the open transaction has locked a table that is to be read. -/
def locksRead (s : SharedStore) (st : Statement) : Bool :=
  match s.writer, st.table? with
  | some w, some n => s.inMemory && w.written.any (sameName n.name)
  | _, _ => false

/-- Begins a transaction. -/
def begin_ (s : SharedStore) (connection : Nat) : Attempt Unit × SharedStore :=
  match s.writer with
  | some w => (if w.connection = connection then .refused .nestedTransaction else .blocked, s)
  | none => (.done (), { s with writer := some ⟨connection, s.committed, []⟩ })

/-- Commits the transaction of a connection. -/
def commit (s : SharedStore) (connection : Nat) : Attempt Unit × SharedStore :=
  match s.owned? connection with
  | none => (.refused .noTransaction, s)
  | some w =>
    if w.working.isConsistent then (.done (), { s with committed := w.working, writer := none })
    else (.refused .brokenReference, s)

/-- Rolls the transaction of a connection back. -/
def rollback (s : SharedStore) (connection : Nat) : Attempt Unit × SharedStore :=
  match s.owned? connection with
  | none => (.refused .noTransaction, s)
  | some _ => (.done (), { s with writer := none })

/-- Runs a statement in an open transaction. -/
def runIn (s : SharedStore) (w : Writer) (arguments : List Datum) (st : Statement) :
    Attempt Outcome × SharedStore :=
  let locked := { w with written := written w.working st ++ w.written }
  match w.working.run arguments st with
  | .ok (o, working) => (.done o, { s with writer := some { locked with working } })
  | .error r => (.refused r, if r.isLate then { s with writer := some locked } else s)

/-- Runs a statement on its own. -/
def runAlone (s : SharedStore) (arguments : List Datum) (st : Statement) :
    Attempt Outcome × SharedStore :=
  match s.committed.run arguments st with
  | .error r => (if r.isLate && s.writer.isSome && !st.isSelect then .blocked else .refused r, s)
  | .ok (o, committed) =>
    if st.isSelect then (if s.locksRead st then .refused .locked else .done o, s)
    else if s.writer.isSome then (.blocked, s)
    else if committed.isConsistent then (.done o, { s with committed })
    else (.refused .brokenReference, s)

def run (s : SharedStore) (connection : Nat) (arguments : List Datum) (st : Statement) :
    Attempt Outcome × SharedStore :=
  match st with
  | .commit =>
    match s.commit connection with
    | (.done (), s) => (.done {}, s)
    | (.refused r, s) => (.refused r, s)
    | (.blocked, s) => (.blocked, s)
  | .rollback =>
    match s.rollback connection with
    | (.done (), s) => (.done {}, s)
    | (.refused r, s) => (.refused r, s)
    | (.blocked, s) => (.blocked, s)
  | st =>
    match s.owned? connection with
    | some w => s.runIn w arguments st
    | none => s.runAlone arguments st

theorem rollback_not_isOpen (s : SharedStore) (c : Nat) : (s.rollback c).2.isOpen c = false := by
  simp only [rollback]
  split
  · simp_all [isOpen]
  · simp [isOpen, owned?]

end SharedStore

end EntityStore.Sqlite
