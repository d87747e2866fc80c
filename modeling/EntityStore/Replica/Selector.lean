import EntityStore.Session.Driver

/-!
# Replicas

The domain of a data source name is resolved to addresses, and a connection is kept open to each. Reads
are spread over the list in turn. A refresh resolves the domain again and puts a new list in place; an
address whose data source name was in the list before keeps its connection. A refresh that fails leaves
the list as it was.
-/

namespace EntityStore

namespace Selector

variable {β : Type} [Driver β]

/-! ## The list -/

/-- The name of the replica at a place of the list. -/
def replicaName (i : Nat) : String := "replica_" ++ toString i

/-- The data source names of the addresses of a domain. -/
def discover (dsn : Dsn) (timeout : Duration) : Job β (Except Error (List Dsn)) :=
  (withDeadline (some timeout) (Driver.resolve dsn.host dsn.port)).bind fun r =>
    .done (r.map (·.map dsn.withAddress))

/-- The connection of the last replica with a given data source name. -/
def connectionFor? (known : List Replica) (dsn : String) : Option ConnectionId :=
  (known.reverse.find? (·.dsn == dsn)).map (·.connection)

/-- A replica per data source name, from place `i` on; only names that are not known yet are connected
to. -/
def connectAll (known : List Replica) (i : Nat) : List Dsn → Job β (Except Error (List Replica))
  | [] => .done (.ok [])
  | d :: rest =>
    let goOn (c : ConnectionId) : Job β (Except Error (List Replica)) :=
      (connectAll known (i + 1) rest).bind fun r =>
        .done (r.map fun rs => ⟨replicaName i, d.text, c⟩ :: rs)
    match connectionFor? known d.text with
    | some c => goOn c
    | none =>
      (Driver.connect (replicaName i) d.text).bind fun
        | .ok c => goOn c
        | .error e => .done (.error e)

/-- Resolves a domain and connects to its addresses. -/
def discoverAll (dsn : Dsn) (timeout : Duration) (known : List Replica) :
    Job β (Except Error (List Replica)) :=
  (discover dsn timeout).bind fun
    | .ok dsns => connectAll known 0 dsns
    | .error e => .done (.error e)

/-! ## Starting and refreshing -/

/-- Puts a selector into the session. -/
def install (s : Selector) : Work β Unit := Job.modify fun site => { site with selector := some s }

/-- Changes the selector of the session. -/
def update (f : Selector → Selector) : Work β Unit :=
  Job.modify fun site => { site with selector := site.selector.map f }

/-- Resolves a data source name for the first time. -/
def start (dsn : String) (interval timeout : Duration) : Work β (Except Error Unit) :=
  match Dsn.parse dsn with
  | .error e => .done (.error e)
  | .ok dsn =>
    (Site.ofDriver (discoverAll dsn timeout [])).bind fun
      | .error e => .done (.error e)
      | .ok replicas =>
        (install { dsn, interval, timeout, replicas }).bind fun _ =>
          (Site.note ⟨.info, "Replica selector started",
            [("domain", dsn.host), ("replicas", toString replicas.length)]⟩).bind fun _ =>
              .done (.ok ())

/-- Resolves the domain again and puts the new list in place. -/
def refresh : Work β (Except Error Unit) :=
  Job.read fun site =>
    match site.selector with
    | none => .done (.ok ())
    | some s =>
      (Site.ofDriver (discoverAll s.dsn s.timeout s.replicas)).bind fun
        | .error e => .done (.error e)
        | .ok replicas =>
          (Site.note ⟨.debug, "Replica list refreshed",
            [("domain", s.dsn.host), ("before", toString s.replicas.length),
              ("replicas", toString replicas.length)]⟩).bind fun _ =>
            (update fun s => { s with replicas }).bind fun _ => .done (.ok ())

/-- A refresh that nobody waits for: a failure is noted. -/
def refreshQuietly : Work β Unit :=
  refresh.bind fun
    | .ok () => .done ()
    | .error e =>
      Job.read fun site =>
        Site.note ⟨.warn, "Replica refresh failed, keeping previous list",
          [("domain", match site.selector with
            | some s => s.dsn.host
            | none => ""), ("error", e.message)]⟩

/-! ## Taking turns -/

/-- The replica of a list for a turn. -/
def replicaAt (replicas : List Replica) (turn : UInt64) : Option Replica :=
  replicas[turn.toNat % replicas.length]?

/-- Moves the counter on: the turn that is taken with it. -/
def takeTurn : Work β (Option UInt64) :=
  Job.read fun site =>
    match site.selector with
    | none => .done none
    | some s =>
      .write { site with selector := some { s with counter := s.counter + 1 } }
        (.done (some (s.counter + 1)))

/-- The connection of the next replica in turn; an empty list has none, and then no turn is taken. The
list is looked at before the turn is taken, and another read may take one in between. -/
def next : Work β (Option ConnectionId) :=
  Job.read fun site =>
    match site.selector with
    | none => .done none
    | some s =>
      if s.replicas.isEmpty then .done none
      else takeTurn.bind fun turn =>
        .done ((turn.bind (replicaAt s.replicas)).map (·.connection))

/-- The connection for a read: none for a read that has to go to the primary, and then no turn is
taken. -/
def pick (usePrimary : Bool) : Work β (Option ConnectionId) :=
  if usePrimary then .done none else next

/-- Stops the refreshing. -/
def close : Work β Unit := update fun s => { s with closed := true }

theorem replicaAt_isSome {replicas : List Replica} (h : replicas ≠ []) (turn : UInt64) :
    (replicaAt replicas turn).isSome := by
  have hlt : turn.toNat % replicas.length < replicas.length :=
    Nat.mod_lt _ (List.length_pos_iff.mpr h)
  rw [replicaAt, List.getElem?_eq_getElem hlt]
  rfl

end Selector

end EntityStore
