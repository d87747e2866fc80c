import EntityStore.Query

/-!
# Transaction handles

A handle is what its holder has of a transaction. It is live until the first call that ends the
transaction; from then on every call but the last one, letting go, is refused. Letting go of a live
handle rolls the transaction back. A call that is not refused becomes an action on the connection, which
is carried out later: the handle itself never looks at how that turned out.
-/

namespace EntityStore.Sqlite

/-- What the holder of a transaction asks for. -/
inductive Call where
  | query (q : Query)
  | exec (q : Query)
  | commit
  | rollback
  /-- The holder lets go. -/
  | release
deriving DecidableEq

/-- What is to be done on the connection of a transaction. -/
inductive Action where
  | query (q : Query)
  | exec (q : Query)
  | commit
  | rollback
deriving DecidableEq

/-- A handle of a transaction. -/
structure Handle where
  /-- Whether neither a commit nor a rollback was asked for. -/
  live : Bool := true
deriving DecidableEq, Inhabited

namespace Handle

/-- Begins a call: the action that follows from it, if it is not refused. -/
def start (h : Handle) (c : Call) : Option Action × Handle :=
  if h.live then
    match c with
    | .query q => (some (.query q), h)
    | .exec q => (some (.exec q), h)
    | .commit => (some .commit, ⟨false⟩)
    | .rollback => (some .rollback, ⟨false⟩)
    | .release => (some .rollback, ⟨false⟩)
  else (none, h)

@[simp] theorem start_of_not_live {h : Handle} (c : Call) (hl : h.live = false) :
    h.start c = (none, h) := by
  simp [start, hl]

theorem start_live_iff {h : Handle} {c : Call} :
    (h.start c).2.live = true ↔ h.live = true ∧ (∃ q, c = .query q ∨ c = .exec q) := by
  cases hl : h.live <;> cases c <;> simp [start, hl]

end Handle

end EntityStore.Sqlite
