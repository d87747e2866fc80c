import EntityStore.Proofs.Session.Running
import EntityStore.Session.Core

/-!
# Recorded drivers

A `Recorder` is a driver in front of another one. It hands every request on and keeps a log of what
was asked and of what came back, in order. A request that its caller has given up stays in the log
without an answer.

`Asks P` is the relation between a state and a later one whose log has grown by requests that satisfy
`P`. Work inside a transaction asks for nothing but statements of it, however it is put together from
reads and writes, deadlines and interceptors that only hand statements on.
-/

namespace EntityStore

/-- Something that is asked of a driver. -/
inductive Request where
  | connect (name dsn : String)
  | resolve (domain : String) (port : UInt16)
  | query (c : ConnectionId) (q : Query) (o : CallOptions)
  | exec (c : ConnectionId) (q : Query) (o : CallOptions)
  | beginOn (c : ConnectionId)
  | queryIn (t : TransactionId) (q : Query)
  | execIn (t : TransactionId) (q : Query)
  | commit (t : TransactionId)
  | rollback (t : TransactionId)
  | release (t : TransactionId)
deriving DecidableEq

/-- What a driver answers. -/
inductive Answer where
  | failed (e : Error)
  | connection (c : ConnectionId)
  | addresses (found : List IpAddr)
  | rows (r : Rows)
  | result (r : ExecResult)
  | transaction (t : TransactionId)
  | done

/-- The answer that a result is. -/
def Answer.ofExcept {α : Type} (success : α → Answer) : Except Error α → Answer
  | .ok a => success a
  | .error e => failed e

/-- A line of a log. -/
inductive Entry where
  | asked (r : Request)
  | answered (r : Request) (a : Answer)

/-- The request that a line of a log is about. -/
def Entry.request : Entry → Request
  | asked r => r
  | answered r _ => r

def Request.answeredBy (r : Request) (a : Answer) : List Entry := [.asked r, .answered r a]

/-- A driver with a log. -/
structure Recorder (β : Type) where
  /-- The state of the driver behind it. -/
  base : β
  /-- The log, the oldest line first. -/
  log : List Entry := []

namespace Recorder

variable {α β : Type}

/-- Adds a line to the log. -/
def record (e : Entry) : Job (Recorder β) Unit := Job.modify fun r => { r with log := r.log ++ [e] }

/-- Work of the driver behind the log. -/
def behind (x : Job β α) : Job (Recorder β) α := x.zoom (·.base) fun b r => { r with base := b }

/-- Hands a request on and puts it and its answer into the log. -/
def forward (q : Request) (answer : α → Answer) (x : Job β α) : Job (Recorder β) α :=
  (record (.asked q)).bind fun _ => (behind x).bind fun a =>
    (record (.answered q (answer a))).bind fun _ => .done a

variable [Driver β]

instance : Driver (Recorder β) where
  name s c := Driver.name s.base c
  note n s := { s with base := Driver.note n s.base }
  elapse ms s := { s with base := Driver.elapse ms s.base }
  connect name dsn :=
    forward (.connect name dsn) (Answer.ofExcept .connection) (Driver.connect name dsn)
  resolve domain port :=
    forward (.resolve domain port) (Answer.ofExcept .addresses) (Driver.resolve domain port)
  query c q o := forward (.query c q o) (Answer.ofExcept .rows) (Driver.query c q o)
  exec c q o := forward (.exec c q o) (Answer.ofExcept .result) (Driver.exec c q o)
  beginOn c := forward (.beginOn c) (Answer.ofExcept .transaction) (Driver.beginOn c)
  queryIn t q := forward (.queryIn t q) (Answer.ofExcept .rows) (Driver.queryIn t q)
  execIn t q := forward (.execIn t q) (Answer.ofExcept .result) (Driver.execIn t q)
  commit t := forward (.commit t) (Answer.ofExcept fun _ => .done) (Driver.commit t)
  rollback t := forward (.rollback t) (Answer.ofExcept fun _ => .done) (Driver.rollback t)
  release t := forward (.release t) (fun _ => .done) (Driver.release t)

end Recorder

/-! ## The log of a recorder -/

namespace Recorder

variable {α β : Type} {P : Request → Prop}

/-- The log is as it was. A log is about one caller: what others ask of the driver is not in it. -/
def SameLog (r s : Recorder β) : Prop := s.log = r.log

/-- The log has grown by requests of a kind. -/
def Asks (P : Request → Prop) (r s : Recorder β) : Prop :=
  ∃ entries, s.log = r.log ++ entries ∧ ∀ e ∈ entries, P e.request

theorem SameLog.asks {r s : Recorder β} (h : SameLog r s) : Asks P r s :=
  ⟨[], by rw [List.append_nil, h], fun _ he => absurd he List.not_mem_nil⟩

theorem Asks.trans {r s t : Recorder β} (h₁ : Asks P r s) (h₂ : Asks P s t) : Asks P r t := by
  obtain ⟨es₁, hs, hP₁⟩ := h₁
  obtain ⟨es₂, ht, hP₂⟩ := h₂
  refine ⟨es₁ ++ es₂, by rw [ht, hs, List.append_assoc], ?_⟩
  intro e he
  rcases List.mem_append.mp he with he | he
  · exact hP₁ e he
  · exact hP₂ e he

theorem only_record {e : Entry} (he : P e.request) (r : Recorder β) : (record e).Only (Asks P) r := by
  refine Job.only_modify ⟨[e], rfl, ?_⟩
  intro e' he'
  rw [List.mem_singleton.mp he']
  exact he

theorem only_behind (x : Job β α) (r : Recorder β) : (behind x).Only (Asks P) r := by
  unfold behind
  apply Job.Only.zoom (fun _ _ => rfl) _ (Job.only_true x r.base)
  intro b r _
  exact SameLog.asks rfl

/-- A request that is handed on puts nothing but itself into the log. -/
theorem only_forward {q : Request} (hq : P q) (answer : α → Answer) (x : Job β α)
    (r : Recorder β) : (forward q answer x).Only (Asks P) r := by
  refine (only_record hq r).bind fun _ s => ?_
  refine (only_behind x s).bind fun a t => ?_
  exact (only_record hq t).bind fun _ _ => trivial

theorem always_behind (x : Job β α) (r : Recorder β) :
    (behind x).Always SameLog (fun s => s.log = r.log) (fun _ s => s.log = r.log) r := by
  have h : (behind x).Always SameLog (fun s => True ∧ s.log = r.log)
      (fun _ s => True ∧ s.log = r.log) r := by
    refine Job.Always.zoom ?_ ?_ ?_ (Job.always_true (fun _ _ => True) x r.base) ?_
    · exact fun _ _ => rfl
    · exact fun _ _ hs => hs
    · exact fun s t ht => ⟨trivial, fun hs => ht.trans hs⟩
    · rfl
  exact h.mono (fun _ hs => hs.2) fun _ _ hs => hs.2

/-- While a request is under way it has been asked, and when it ends it has been answered. -/
theorem always_forward (q : Request) (answer : α → Answer) (x : Job β α) (r : Recorder β) :
    (forward q answer x).Always SameLog (fun s => s.log = r.log ++ [.asked q])
      (fun a s => s.log = r.log ++ q.answeredBy (answer a)) r := by
  rw [forward, Job.always_bind]
  change Job.Always _ _ _ (Job.bind _ _) ({ r with log := r.log ++ [.asked q] } : Recorder β)
  rw [Job.always_bind]
  refine (always_behind x { r with log := r.log ++ [.asked q] }).mono (fun _ h => h) ?_
  intro a s hs
  change s.log ++ [.answered q (answer a)] = _
  rw [hs, List.append_assoc]
  rfl

end Recorder

/-! ## The log in a session -/

namespace Site

variable {α β : Type} {P : Request → Prop} {s t : Site (Recorder β)}

def log (s : Site (Recorder β)) : List Entry := s.driver.log

def SameLog (s t : Site (Recorder β)) : Prop := Recorder.SameLog s.driver t.driver

/-- The log has grown by requests of a kind. -/
def Asks (P : Request → Prop) (s t : Site (Recorder β)) : Prop := Recorder.Asks P s.driver t.driver

theorem only_ask {q : Request} (hq : P q) (answer : α → Answer) (x : Job β α)
    (s : Site (Recorder β)) : (ofDriver (Recorder.forward q answer x)).Only (Asks P) s := by
  unfold ofDriver
  refine Job.Only.zoom ?_ ?_ (Recorder.only_forward hq answer x s.driver)
  · exact fun _ _ => rfl
  · exact fun _ _ h => h

/-- During a request and behind it stands in the log what is asked and answered, and what neither the
driver nor others touch stays. -/
theorem always_ask {others : Site (Recorder β) → Site (Recorder β) → Prop}
    {K : Site (Recorder β) → Prop} (hK : ∀ d s, K s → K { s with driver := d })
    (ho : ∀ s t, others s t → SameLog s t ∧ (K s → K t)) (q : Request) (answer : α → Answer)
    (x : Job β α) (hs : K s) :
    (ofDriver (Recorder.forward q answer x)).Always others
      (fun t => t.log = s.log ++ [.asked q] ∧ K t)
      (fun a t => t.log = s.log ++ q.answeredBy (answer a) ∧ K t) s := by
  unfold ofDriver
  refine Job.Always.zoom ?_ ?_ ?_ (Recorder.always_forward q answer x s.driver) hs
  · exact fun _ _ => rfl
  · exact fun d t => hK d t
  · exact fun t u h => ho t u h

theorem ends_ask {q : Request} {answer : α → Answer} {x : Job β α} {a : α}
    (h : (ofDriver (Recorder.forward q answer x)).Ends SameLog s a t) :
    t.log = s.log ++ q.answeredBy (answer a) := by
  have hask := always_ask (K := fun _ => True) (fun _ _ _ => trivial)
    (fun _ _ hl => ⟨hl, fun _ => trivial⟩) q answer x (s := s) trivial
  exact (hask.of_ends h).1

/-- A job that asks for requests of one kind only has asked for no others when it ends. -/
theorem asks_of_ends {x : Work (Recorder β) α} {a : α} (hx : x.Only (Asks P) s)
    (h : x.Ends SameLog s a t) : Asks P s t := by
  refine Job.Only.of_ends (R := Asks P) ?_ ?_ ?_ hx h
  · exact fun _ => Recorder.SameLog.asks rfl
  · exact fun h₁ h₂ => Recorder.Asks.trans h₁ h₂
  · exact fun hl => Recorder.SameLog.asks hl

variable [Driver β]

theorem ends_note_iff {n : Note} {u : Unit} :
    (note n).Ends SameLog s u t ↔ t = { s with driver := Driver.note n s.driver } := by
  simp [note, Job.modify]

theorem ends_connectionName_iff {c : ConnectionId} {name : String} :
    (connectionName c).Ends SameLog s name t ↔ name = Driver.name s.driver c ∧ t = s := by
  simp [connectionName]

@[simp] theorem log_note (n : Note) (s : Site (Recorder β)) :
    log { s with driver := Driver.note n s.driver } = s.log := rfl

theorem only_note (n : Note) (s : Site (Recorder β)) : (note n).Only (Asks P) s :=
  Job.only_modify (Recorder.SameLog.asks rfl)

end Site

end EntityStore
