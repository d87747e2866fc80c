import EntityStore.Value.Basic

/-!
# Queries

A query is the text of a statement and the values of its placeholders, in order.
-/

namespace EntityStore

/-- A statement ready to be sent. -/
structure Query where
  /-- The text, with a `?` per argument. -/
  sql : String
  /-- The arguments. -/
  args : List Value
deriving DecidableEq, Inhabited

namespace Query

/-- Whether two lists of values are equal as data, entry by entry. -/
def sameArgs : List Value → List Value → Bool
  | [], [] => true
  | v :: vs, w :: ws => v.same w && sameArgs vs ws
  | _, _ => false

/-- Whether two queries are equal, with values compared as data. -/
def same (p q : Query) : Bool := p.sql == q.sql && sameArgs p.args q.args

/-- A query shown to a reader: its text. -/
def display (q : Query) : String := q.sql

end Query

end EntityStore
