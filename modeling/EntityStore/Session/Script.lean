import EntityStore.Session.Database

/-!
# Scripts

A script is the task of a transaction written down as a list of steps: statements, panics and nested
transactions. The first failure that is not caught ends the list it stands in, and a panic ends
everything. A nested transaction begins and ends nothing: its steps run in the transaction around it,
and its failure is the failure of one step.
-/

namespace EntityStore

/-- A step of a script. -/
inductive Step (β α : Type) where
  /-- Some work, whose failure may be caught. -/
  | work (caught : Bool) (x : Transaction β → Work β (Except Error α))
  /-- A panic, with a text unless the payload is none. -/
  | panic (payload : Option String)
  /-- A nested transaction, with what it gives back if it succeeds. -/
  | nested (caught : Bool) (steps : List (Step β α)) (result : α)

namespace Step

variable {β α : Type}

instance : Inhabited (Step β α) := ⟨.panic none⟩

/-- The results of the steps that have ended, and how the list of steps ended. -/
abbrev Report (α : Type) := List (Except Error α) × Ending Unit

/-- The report with one result more, after a step that ended with it. -/
def reported (done : List (Except Error α)) (caught : Bool) (r : Except Error α) : Report α :=
  (done ++ [r], match r with
    | .ok _ => .returned (.ok ())
    | .error e => .returned (if caught then .ok () else .error e))

mutual

/-- Runs a step after those that have ended. -/
def perform (t : Transaction β) (done : List (Except Error α)) : Step β α → Work β (Report α)
  | .work caught x => (x t).bind fun r => .done (reported done caught r)
  | .panic payload => .done (done, .panicked payload)
  | .nested caught steps result =>
    (t.transaction fun t => performAll t done steps).bind fun
      | (done, .panicked payload) => .done (done, .panicked payload)
      | (done, .returned r) => .done (reported done caught (r.map fun _ => result))

/-- Runs a list of steps after those that have ended. -/
def performAll (t : Transaction β) (done : List (Except Error α)) :
    List (Step β α) → Work β (Report α)
  | [] => .done (done, .returned (.ok ()))
  | step :: rest =>
    (perform t done step).bind fun
      | (done, .returned (.ok ())) => performAll t done rest
      | report => .done report

end

@[simp] theorem performAll_nil (t : Transaction β) (done : List (Except Error α)) :
    performAll t done [] = .done (done, .returned (.ok ())) := by
  simp [performAll]

variable [Driver β]

/-- Runs a script in a transaction of its own. -/
def runIn (db : Database β) (steps : List (Step β α)) :
    Work β (List (Except Error α) × Except Error Unit) :=
  db.beginTransaction.bind fun
    | .error e => .done ([], .error e)
    | .ok t => t.bracket (performAll t [] steps)

/-- Runs a script in an open transaction and leaves that open. -/
def runOpen (t : Transaction β) (steps : List (Step β α)) :
    Work β (List (Except Error α) × Except Error Unit) :=
  (performAll t [] steps).bind fun
    | (done, .returned r) => .done (done, r)
    | (done, .panicked payload) => .done (done, .error (.panicked (payload.getD "unknown panic")))

end Step

end EntityStore
