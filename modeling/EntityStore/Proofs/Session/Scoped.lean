import EntityStore.Proofs.Session.Recorder
import EntityStore.Session.Database
import EntityStore.Session.Simulation

/-!
# Scoped transactions end once

A `Body` is the task of a transaction: work inside the transaction, nested transactions to any depth,
and a return, a failure or a panic at the end, each depending on what came before. Work is inside a
transaction if the driver sees nothing of it but statements of that transaction
(`Transaction.Confined`). All statements of a session on a transaction are, behind any interceptors
that only hand statements on.

Whatever the driver answers and others do meanwhile, a scoped transaction leaves in the log of its
driver (`Scoped`):

1. one request to begin; if that fails, nothing follows and its error is the result;
2. the statements of the body, among which the nested transactions have left nothing;
3. one request to end, a commit if the body returned and else a rollback, and letting go.

The result follows from the end of the body and from the answer to the request in 3
(`Ending.verdict`).

All this is so once there is a body to run. A call that panics instead of giving one is not caught, and
its transaction is not ended (`Database.ends_transaction_of_unwinds`).
-/

namespace EntityStore

open Site (Asks SameLog)

variable {α β γ : Type}

/-! ## Work inside a transaction -/

def Request.IsStatementIn (t : TransactionId) : Request → Prop
  | queryIn u _ => u = t
  | execIn u _ => u = t
  | _ => False

/-- An interceptor that asks the driver for nothing but through the rest of the chain: it is handed
nothing else that leads to the driver. -/
def Interceptor.Forwards (i : Interceptor (Recorder β)) : Prop :=
  ∀ (P : Request → Prop) (next : Handler (Recorder β)),
    (∀ c s, (next c).Only (Asks P) s) → ∀ c s, (i.intercept c next).Only (Asks P) s

theorem Interceptor.only_chain {P : Request → Prop} {chain : List (Interceptor (Recorder β))}
    (hchain : ∀ i ∈ chain, i.Forwards) {endpoint : Handler (Recorder β)}
    (h : ∀ c s, (endpoint c).Only (Asks P) s) (c : Context) (s : Site (Recorder β)) :
    (Interceptor.chain chain endpoint c).Only (Asks P) s := by
  induction chain generalizing c s with
  | nil => exact h c s
  | cons i rest ih =>
    rw [Interceptor.chain_cons]
    exact hchain i (List.mem_cons_self ..) P _
      (fun c s => ih (fun j hj => hchain j (List.mem_cons_of_mem i hj)) c s) c s

theorem Session.only_andThen {P : Request → Prop} {s : Site (Recorder β)}
    {x : Work (Recorder β) (Except Error α)} {f : α → Work (Recorder β) (Except Error γ)}
    (hx : x.Only (Asks P) s) (hf : ∀ a t, (f a).Only (Asks P) t) :
    (Session.andThen x f).Only (Asks P) s := by
  refine Job.Only.bind hx fun r t => ?_
  cases r with
  | ok a => exact hf a t
  | error e => trivial

/-- Work on a transaction whose interceptors only hand statements on asks the driver for nothing but
statements in that transaction. -/
def Transaction.Confined (x : Transaction (Recorder β) → Work (Recorder β) γ) : Prop :=
  ∀ t, (∀ i ∈ t.core.interceptors, i.Forwards) →
    ∀ s, (x t).Only (Asks (Request.IsStatementIn t.driver)) s

variable [Driver β]

theorem Interceptor.forwards_ofBuiltin (b : BuiltinInterceptor) :
    (ofBuiltin b : Interceptor (Recorder β)).Forwards := by
  intro P next h c s
  cases b with
  | accessLog => exact (Site.only_note _ s).bind fun _ t => h c t
  | costTime => exact (h c s).bind fun _ t => (Site.only_note _ t).bind fun _ _ => trivial

theorem Site.only_modelOf {P : Request → Prop} (ty : MappedType) (s : Site (Recorder β)) :
    (modelOf ty).Only (Asks P) s := by
  unfold modelOf
  rw [Job.only_read_iff]
  cases s.registry.get ty with
  | mk r registry =>
    cases r with
    | error e => trivial
    | ok found =>
      refine ⟨Recorder.SameLog.asks rfl, ?_⟩
      split
      · exact (only_note _ _).bind fun _ _ => trivial
      · trivial

namespace Transaction

open Session

theorem confined_query (q : Query) (o : CallOptions) :
    Confined fun t : Transaction (Recorder β) => t.session.query q o := by
  intro t _ s
  have h : Request.IsStatementIn t.driver (.queryIn t.driver q) := rfl
  exact Site.only_ask h _ _ s

theorem confined_exec (q : Query) (o : CallOptions) :
    Confined fun t : Transaction (Recorder β) => t.session.exec q o := by
  intro t _ s
  have h : Request.IsStatementIn t.driver (.execIn t.driver q) := rfl
  exact Site.only_ask h _ _ s

/-- A statement that goes through the interceptors. -/
theorem confined_dispatch (c : Context) :
    Confined fun t : Transaction (Recorder β) => t.session.dispatch c := by
  intro t ht s
  refine Interceptor.only_chain ht (fun c s => ?_) _ s
  refine Job.Only.withDeadline ?_ c.options.timeout
  split
  · exact (confined_query c.query c.options t ht s).bind fun _ _ => trivial
  · exact (confined_exec c.query c.options t ht s).bind fun _ _ => trivial

theorem confined_fetch (ρ : Type) [Stored ρ] (m : TableModel) (c : Context) :
    Confined fun t : Transaction (Recorder β) => t.session.fetch ρ m c :=
  fun t ht s => only_andThen (confined_dispatch c t ht s) fun _ _ => trivial

theorem confined_execute (c : Context) :
    Confined fun t : Transaction (Recorder β) => t.session.execute c :=
  fun t ht s => only_andThen (confined_dispatch c t ht s) fun _ _ => trivial

theorem confined_select (ρ : Type) [Stored ρ] (c : Clauses) :
    Confined fun t : Transaction (Recorder β) => t.session.select ρ c := by
  intro t ht s
  refine only_andThen (Site.only_modelOf _ s) fun m u => ?_
  split
  · trivial
  · exact confined_fetch ρ m _ t ht u

theorem confined_delete (ρ : Type) [Stored ρ] (c : Clauses) :
    Confined fun t : Transaction (Recorder β) => t.session.delete ρ c := by
  intro t ht s
  refine only_andThen (Site.only_modelOf _ s) fun m u => ?_
  split
  · trivial
  · exact confined_execute _ t ht u

theorem confined_insert (ρ : Type) [Stored ρ] (i : Insert ρ) :
    Confined fun t : Transaction (Recorder β) => t.session.insert ρ i := by
  intro t ht s
  refine only_andThen (Site.only_modelOf _ s) fun m u => only_andThen ?_ fun q v => ?_
  · unfold buildInsert
    split
    · trivial
    · exact only_andThen (Site.only_modelOf _ u) fun _ _ => trivial
  · exact confined_execute _ t ht v

theorem confined_selectRaw (ρ : Type) [Stored ρ] (r : RawStatement) :
    Confined fun t : Transaction (Recorder β) => t.session.selectRaw ρ r :=
  fun t ht s => only_andThen (Site.only_modelOf _ s) fun m u => confined_fetch ρ m _ t ht u

theorem confined_execRaw (ρ : Type) [Stored ρ] (r : RawStatement) :
    Confined fun t : Transaction (Recorder β) => t.session.execRaw ρ r :=
  fun t ht s => only_andThen (Site.only_modelOf _ s) fun _ u => confined_execute _ t ht u

end Transaction

/-! ## Bodies -/

/-- The task of a transaction. -/
inductive Body (β : Type) : Type → Type 1 where
  /-- The body returns or panics. -/
  | ends {α : Type} (e : Ending α) : Body β α
  /-- Some work inside the transaction, and how the body goes on with its result. -/
  | work {α γ : Type} (x : Transaction (Recorder β) → Work (Recorder β) γ)
      (inside : Transaction.Confined x) (next : γ → Body β α) : Body β α
  /-- A nested transaction, and how the body goes on after it has ended. -/
  | nested {α γ : Type} (body : Body β γ) (next : Ending γ → Body β α) : Body β α

namespace Body

def run {α : Type} : Body β α → Transaction (Recorder β) → Work (Recorder β) (Ending α)
  | ends e, _ => .done e
  | work x _ next, t => (x t).bind fun a => (next a).run t
  | nested body next, t => (t.transaction body.run).bind fun e => (next e).run t

def task (b : Body β α) (t : Transaction (Recorder β)) : Task (Recorder β) α := .runs (b.run t)

omit [Driver β] in
/-- The driver sees nothing of a body but the statements in it, however deep its nested transactions
are. -/
theorem confined_run (b : Body β α) : Transaction.Confined b.run := by
  intro t ht s
  induction b generalizing s with
  | ends e => trivial
  | work x inside next ih => exact (inside t ht s).bind fun a u => ih a u
  | nested body next ihb ih => exact (ihb s).bind fun e u => ih e u

end Body

/-! ## The end -/

namespace Ending

/-- Why a body did not succeed. -/
def cause? : Ending α → Option Error
  | returned (.ok _) => none
  | returned (.error e) => some e
  | panicked payload => some (.panicked (payload.getD "unknown panic"))

/-- The request that ends the transaction of a body. -/
def request (t : TransactionId) (o : Ending α) : Request :=
  match o.cause? with
  | none => .commit t
  | some _ => .rollback t

/-- The result of a transaction, from the end of its body and what came of the request to end it. -/
def verdict : Ending α → Except Error Unit → Except Error α
  | returned (.ok a), .ok () => .ok a
  | returned (.ok _), .error e => .error e
  | returned (.error cause), .ok () => .error cause
  | returned (.error cause), .error e => .error (.rollbackFailed cause e)
  | panicked payload, .ok () => .error (.panicked (payload.getD "unknown panic"))
  | panicked payload, .error e =>
    .error (.rollbackFailed (.panicked (payload.getD "unknown panic")) e)

omit [Driver β] in
theorem verdict_eq_ok_iff {o : Ending α} {r : Except Error Unit} {a : α} :
    o.verdict r = .ok a ↔ o = .returned (.ok a) ∧ r = .ok () := by
  rcases o with (_ | _) | _ <;> rcases r with _ | _ <;> simp [verdict]

end Ending

/-- The log of a transaction that is ended by a request with a given outcome and let go. -/
def Request.ending (q : Request) (t : TransactionId) (r : Except Error Unit) : List Entry :=
  q.answeredBy (.ofExcept (fun _ => .done) r) ++ (Request.release t).answeredBy .done

namespace Transaction

variable {t : Transaction (Recorder β)} {s s' : Site (Recorder β)}

theorem ends_finished {r v : Except Error Unit} {n : Note}
    (h : (t.finished r n).Ends SameLog s v s') :
    v = r ∧ s'.log = s.log ++ (Request.release t.driver).answeredBy .done := by
  obtain ⟨_, s₁, hnote, h⟩ := Job.ends_bind_iff.mp h
  obtain ⟨_, s₂, hrelease, h⟩ := Job.ends_bind_iff.mp h
  obtain ⟨rfl, rfl⟩ := Job.ends_done_iff.mp h
  refine ⟨rfl, ?_⟩
  rw [Site.ends_ask hrelease]
  cases v with
  | ok _ =>
    rw [Site.ends_note_iff.mp hnote]
    rfl
  | error e => rw [(Job.ends_done_iff.mp hnote).2]

theorem ends_commit {r : Except Error Unit} (h : t.commit.Ends SameLog s r s') :
    s'.log = s.log ++ (Request.commit t.driver).ending t.driver r := by
  obtain ⟨r', s₁, hcommit, h⟩ := Job.ends_bind_iff.mp h
  obtain ⟨rfl, hlog⟩ := ends_finished h
  rw [hlog, Site.ends_ask hcommit, List.append_assoc, Request.ending]

theorem ends_rollback {r : Except Error Unit} (h : t.rollback.Ends SameLog s r s') :
    s'.log = s.log ++ (Request.rollback t.driver).ending t.driver r := by
  obtain ⟨r', s₁, hrollback, h⟩ := Job.ends_bind_iff.mp h
  obtain ⟨rfl, hlog⟩ := ends_finished h
  rw [hlog, Site.ends_ask hrollback, List.append_assoc, Request.ending]

theorem ends_rollbackAfter {cause e : Error} (h : (t.rollbackAfter cause).Ends SameLog s e s') :
    ∃ r, (e = match r with
      | .ok () => cause
      | .error e => .rollbackFailed cause e) ∧
      s'.log = s.log ++ (Request.rollback t.driver).ending t.driver r := by
  obtain ⟨r, s₁, hrollback, h⟩ := Job.ends_bind_iff.mp h
  refine ⟨r, ?_⟩
  cases r with
  | ok _ =>
    obtain ⟨rfl, rfl⟩ := Job.ends_done_iff.mp h
    exact ⟨rfl, ends_rollback hrollback⟩
  | error e' =>
    obtain ⟨rfl, rfl⟩ := Job.ends_done_iff.mp h
    exact ⟨rfl, ends_rollback hrollback⟩

/-- A transaction is ended by one request, and its result follows from that. -/
theorem ends_finish {o : Ending α} {v : Except Error α} (h : (t.finish o).Ends SameLog s v s') :
    ∃ r, v = o.verdict r ∧ s'.log = s.log ++ (o.request t.driver).ending t.driver r := by
  cases o with
  | returned result =>
    cases result with
    | ok a =>
      obtain ⟨r, s₁, hcommit, h⟩ := Job.ends_bind_iff.mp h
      obtain ⟨rfl, rfl⟩ := Job.ends_done_iff.mp h
      refine ⟨r, ?_, ends_commit hcommit⟩
      cases r <;> rfl
    | error cause =>
      obtain ⟨e, s₁, hrollback, h⟩ := Job.ends_bind_iff.mp h
      obtain ⟨rfl, rfl⟩ := Job.ends_done_iff.mp h
      obtain ⟨r, rfl, hlog⟩ := ends_rollbackAfter hrollback
      refine ⟨r, ?_, hlog⟩
      cases r <;> rfl
  | panicked payload =>
    obtain ⟨_, s₁, hnote, h⟩ := Job.ends_bind_iff.mp h
    obtain ⟨e, s₂, hrollback, h⟩ := Job.ends_bind_iff.mp h
    obtain ⟨rfl, rfl⟩ := Job.ends_done_iff.mp h
    obtain ⟨r, rfl, hlog⟩ := ends_rollbackAfter hrollback
    rw [Site.ends_note_iff.mp hnote, Site.log_note] at hlog
    refine ⟨r, ?_, hlog⟩
    cases r <;> rfl

end Transaction

/-! ## The whole transaction -/

/-- What a scoped transaction with a given body, begun in a given state, may come to. -/
inductive Scoped (db : Database (Recorder β)) (body : Body β α) (s : Site (Recorder β)) :
    Ending α → Site (Recorder β) → Prop where
  /-- It cannot be begun: the body is not run. -/
  | refused {e : Error} {s' : Site (Recorder β)} :
      db.beginTransaction.Ends SameLog s (.error e) s' →
      s'.log = s.log ++ (Request.beginOn db.connection.primary).answeredBy (.failed e) →
      Scoped db body s (.returned (.error e)) s'
  /-- It is begun, the body runs to its end, and it is ended. -/
  | ended {t : Transaction (Recorder β)} {s₁ s₂ s' : Site (Recorder β)} {o : Ending α}
      {r : Except Error Unit} :
      db.beginTransaction.Ends SameLog s (.ok t) s₁ →
      s₁.log = s.log ++
        (Request.beginOn db.connection.primary).answeredBy (.transaction t.driver) →
      (body.run t).Ends SameLog s₁ o s₂ →
      Asks (Request.IsStatementIn t.driver) s₁ s₂ →
      s'.log = s₂.log ++ (o.request t.driver).ending t.driver r →
      Scoped db body s (.returned (o.verdict r)) s'

namespace Database

variable {db : Database (Recorder β)} {s s' : Site (Recorder β)}

theorem ends_beginTransaction {r : Except Error (Transaction (Recorder β))}
    (h : db.beginTransaction.Ends SameLog s r s') :
    (∀ t, r = .ok t → t.core = db.core) ∧
      s'.log = s.log ++ (Request.beginOn db.connection.primary).answeredBy
        (.ofExcept (fun t => .transaction t.driver) r) := by
  obtain ⟨r', s₁, hbegin, h⟩ := Job.ends_bind_iff.mp h
  have hlog := Site.ends_ask hbegin
  cases r' with
  | error e =>
    obtain ⟨rfl, rfl⟩ := Job.ends_done_iff.mp h
    exact ⟨nofun, hlog⟩
  | ok driver =>
    obtain ⟨name, s₂, hname, h⟩ := Job.ends_bind_iff.mp h
    obtain ⟨rfl, rfl⟩ := Site.ends_connectionName_iff.mp hname
    obtain ⟨_, s₃, hnote, h⟩ := Job.ends_bind_iff.mp h
    obtain ⟨rfl, rfl⟩ := Job.ends_done_iff.mp h
    rw [Site.ends_note_iff.mp hnote, Site.log_note, hlog]
    refine ⟨?_, rfl⟩
    rintro t ⟨⟩
    rfl

/-- A scoped transaction comes to an end, and to one of those that `Scoped` describes: it is begun once,
its body asks for nothing but statements in it, and it is ended once, by a commit iff its body
returned. -/
theorem transaction_ends_once (db : Database (Recorder β))
    (hforwards : ∀ i ∈ db.core.interceptors, i.Forwards) (body : Body β α)
    (s : Site (Recorder β)) :
    (∃ out s', (db.transaction body.task).Ends SameLog s out s') ∧
      ∀ out s', (db.transaction body.task).Ends SameLog s out s' → Scoped db body s out s' := by
  have hrefl : ∀ u : Site (Recorder β), SameLog u u := fun _ => rfl
  refine ⟨⟨_, _, Job.ends_run hrefl _ s⟩, ?_⟩
  intro out s' h
  obtain ⟨r, s₁, hbegin, h⟩ := Job.ends_bind_iff.mp h
  obtain ⟨hcore, hlog⟩ := ends_beginTransaction hbegin
  cases r with
  | error e =>
    obtain ⟨rfl, rfl⟩ := Job.ends_done_iff.mp h
    exact .refused hbegin hlog
  | ok t =>
    have hrun : ((body.run t).bind fun o => (t.finish o).bind fun v =>
        Job.done (Ending.returned v)).Ends SameLog s₁ out s' := by
      simpa [Body.task, Transaction.bracket, Job.bind_assoc] using h
    obtain ⟨o, s₂, hbody, hend⟩ := Job.ends_bind_iff.mp hrun
    obtain ⟨v, s₃, hfinish, hdone⟩ := Job.ends_bind_iff.mp hend
    obtain ⟨rfl, rfl⟩ := Job.ends_done_iff.mp hdone
    obtain ⟨r, rfl, hlog₃⟩ := Transaction.ends_finish hfinish
    have hinside := body.confined_run t (by rw [hcore t rfl]; exact hforwards) s₁
    exact .ended hbegin hlog hbody (Site.asks_of_ends hinside hbody) hlog₃

/-- A database on a connection that cannot roll back, with both built-in interceptors. -/
def stuck : Database (Recorder Simulation) where
  core := { interceptors := [.ofBuiltin .accessLog, .ofBuiltin .costTime] }
  connection := .single 0

/-- A session in which the connection is open. -/
def stuckSite : Site (Recorder Simulation) :=
  ⟨{}, none, { base :=
    { connections := #[{ name := "primary", behavior := { rollbackFailure := some "gone" } }] } }⟩

/-- A statement and a panic in a nested transaction. -/
def panicking : Body Simulation Unit :=
  .nested (.work _ (Transaction.confined_query ⟨"SELECT 1", []⟩ {}) fun _ =>
    .ends (.panicked (some "boom"))) .ends

theorem transaction_ends_once_panicking :
    (∀ i ∈ stuck.core.interceptors, i.Forwards) ∧
      let end_ := (stuck.transaction panicking.task).run stuckSite
      Scoped stuck panicking stuckSite end_.1 end_.2 ∧
        end_.1.cause? =
          some (.rollbackFailed (.panicked "boom") (.connectivity (.queryFailed "gone"))) ∧
        end_.2.log.map Entry.request =
          [.beginOn 0, .beginOn 0, .queryIn 0 ⟨"SELECT 1", []⟩, .queryIn 0 ⟨"SELECT 1", []⟩,
            .rollback 0, .rollback 0, .release 0, .release 0] := by
  have hforwards : ∀ i ∈ stuck.core.interceptors, i.Forwards := by
    intro i hi
    rcases List.mem_cons.mp hi with rfl | hi
    · exact Interceptor.forwards_ofBuiltin .accessLog
    · rw [List.mem_singleton.mp hi]
      exact Interceptor.forwards_ofBuiltin .costTime
  have hrefl : ∀ u : Site (Recorder Simulation), SameLog u u := fun _ => rfl
  refine ⟨hforwards, ?_, ?_, ?_⟩
  · exact (transaction_ends_once stuck hforwards panicking stuckSite).2 _ _
      (Job.ends_run hrefl _ stuckSite)
  · decide +kernel
  · decide +kernel

/-- A panic of the call itself is not caught: the driver is let go of without a request to end the
transaction. -/
theorem ends_transaction_of_unwinds {task : Transaction (Recorder β) → Task (Recorder β) α}
    {payload : Option String} (htask : ∀ t, task t = .unwinds payload) {out : Ending α}
    (h : (db.transaction task).Ends SameLog s out s') :
    (∃ e, out = .returned (.error e) ∧
      s'.log = s.log ++ (Request.beginOn db.connection.primary).answeredBy (.failed e)) ∨
    ∃ id, out = .panicked payload ∧
      s'.log = s.log ++ (Request.beginOn db.connection.primary).answeredBy (.transaction id) ++
        (Request.release id).answeredBy .done := by
  obtain ⟨r, s₁, hbegin, h⟩ := Job.ends_bind_iff.mp h
  obtain ⟨-, hlog⟩ := ends_beginTransaction hbegin
  cases r with
  | error e =>
    obtain ⟨rfl, rfl⟩ := Job.ends_done_iff.mp h
    exact .inl ⟨e, rfl, hlog⟩
  | ok t =>
    dsimp only at h
    rw [htask t] at h
    obtain ⟨_, s₂, hdrop, h⟩ := Job.ends_bind_iff.mp h
    obtain ⟨rfl, rfl⟩ := Job.ends_done_iff.mp h
    obtain ⟨_, s₃, hnote, hrelease⟩ := Job.ends_bind_iff.mp hdrop
    refine .inr ⟨t.driver, rfl, ?_⟩
    rw [Site.ends_ask hrelease, Site.ends_note_iff.mp hnote, Site.log_note, hlog]
    rfl

example : (((stuck.transaction fun _ => (.unwinds (some "boom") : Task _ Unit)).run stuckSite).2.log.map
    Entry.request) = [.beginOn 0, .beginOn 0, .release 0, .release 0] := by
  decide +kernel

end Database

end EntityStore
