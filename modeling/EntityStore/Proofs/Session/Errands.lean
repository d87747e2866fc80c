import EntityStore.Proofs.Session.Calls
import EntityStore.Proofs.Session.Scoped

/-!
# What stays on the primary

An `Errand` is what a caller of a database does: a call outside of transactions, a transaction with a
`Visit` inside, or a refresh of the replicas.

Everything but reads outside of transactions asks for nothing but writes and transactions on the
primary, and for what belongs to such a transaction (`Journal.OnPrimary`). It takes no turns, and
neither does a refresh (`keeps_refresh`).

Nothing is left out either. A write that has ended has sent its statement to the primary, unless that
could not be written (`keeps_write`). A transaction that has ended has left its begin on the primary in
the log, the statements in it in order, and its end (`keeps_transaction`, `keeps_unwinding`,
`keeps_explicit`). What a piece of work leaves in the log is put together from its parts
(`Journal.Abides`).
-/

namespace EntityStore

open Job (Keeps Steps)
open Journal (Closed rules)
open Session (Call)
open Site (Plain Sound)

variable {α β γ : Type}

/-! ## Errands -/

/-- What is done in an open transaction. It ends with a result, and each call depends on what came of
those before it. -/
inductive Visit : Type → Type 1 where
  | leave {ε : Type} (e : ε) : Visit ε
  | call {ε : Type} (c : Call) (next : Except Error c.Result → Visit ε) : Visit ε
  | nested {ε γ : Type} (inner : Visit γ) (next : γ → Visit ε) : Visit ε

/-- How a caller parts with a transaction. -/
inductive Parting where
  | commit
  | rollback
  /-- Without an end. -/
  | drop

/-- What a caller of a database does. -/
inductive Errand : Type 1 where
  | call (c : Call)
  /-- A transaction that is ended as its task ends. -/
  | transaction (v : Visit (Ending Unit))
  /-- A transaction whose task panics when it is called. -/
  | unwinding (payload : Option String)
  /-- A transaction that the caller begins and ends. -/
  | explicit (v : Visit Parting)
  /-- A new list of replicas. -/
  | refresh

section

variable [Driver β]

def Visit.run {ε : Type} (t : Transaction β) : Visit ε → Work β ε
  | leave e => .done e
  | call c next => (c.run t.session).bind fun result => (next result).run t
  | nested inner next => (t.transaction fun t => inner.run t).bind fun e => (next e).run t

def Transaction.part (t : Transaction β) : Parting → Work β (Except Error Unit)
  | .commit => t.commit
  | .rollback => t.rollback
  | .drop => t.drop.bind fun _ => .done (.ok ())

def Errand.job (db : Database β) : Errand → Work β (Except Error Unit)
  | call c => (c.run db.session).bind fun result => .done (result.map fun _ => ())
  | transaction v => (db.transaction fun t => .runs (v.run t)).bind fun _ => .done (.ok ())
  | unwinding payload =>
    (db.transaction fun _ => (.unwinds payload : Task β Unit)).bind fun _ => .done (.ok ())
  | explicit v => Session.andThen db.beginTransaction fun t => (v.run t).bind t.part
  | refresh => Selector.refresh

end

/-! ## Work that asks for one kind of request -/

namespace Journal

variable {P : Request → Prop} {A : Journal → Prop}

/-- Work that asks for nothing adds nothing to the log. -/
theorem Closed.still (hA : Closed P A) (lines : List Entry) :
    Closed (fun _ => False) fun j => A j ∧ j.lines = lines := by
  rintro j es list ⟨hj, hlines⟩ hes
  obtain rfl := List.eq_nil_iff_forall_not_mem.2 hes
  exact ⟨hA j [] list hj nofun, (List.append_nil _).trans hlines⟩

/-- From its first step on a request has been asked, so it may be given up after any. -/
theorem keeps_logged {q : Request} (hq : P q) {answer : α → Answer} (x : Job β α) (hA : Closed P A)
    {j : Journal} (hj : A j) :
    Keeps (rules fun k => A k ∧ ∃ es, k.lines = j.lines ++ es ∧ q.LoggedAs es)
      (fun k a => A k ∧ k.lines = j.lines ++ q.answeredBy (answer a))
      (Site.ofDriver (Recorder.forward q answer x)) j := by
  refine keeps_ask (A := fun k => A k ∧ k.lines = j.lines ++ [.asked q]) x (hA.still _)
    (fun k hk => ⟨hk.1, _, hk.2, .inl rfl⟩) (fun list => ⟨hA j _ list hj fun e he => ?_, rfl⟩)
    fun k a list hk => ?_
  · exact List.mem_singleton.1 he ▸ hq
  · have hanswered := hA k [.answered q (answer a)] list hk.1 fun e he => List.mem_singleton.1 he ▸ hq
    have hlines : (k.asked [.answered q (answer a)] list).lines = j.lines ++ q.answeredBy (answer a) :=
      (congrArg (· ++ _) hk.2).trans (List.append_assoc _ _ _)
    exact ⟨⟨hanswered, _, hlines, .inr ⟨_, rfl⟩⟩, hanswered, hlines⟩

/-- Work keeps each condition that requests of a kind cannot break, and `L` holds of the lines that it
puts into the log and of its result. -/
structure Abides (P : Request → Prop) (L : List Entry → α → Prop) (x : Work (Recorder β) α) : Prop where
  isWrite : x.isWrite = false
  keeps : ∀ {A I : Journal → Prop} {j : Journal}, Closed P A → (∀ j, A j → I j) → A j →
    Keeps (rules I) (fun k a => A k ∧ ∃ es, k.lines = j.lines ++ es ∧ L es a) x j

namespace Abides

variable {L M : List Entry → α → Prop} {N : List Entry → γ → Prop} {x : Work (Recorder β) α}

theorem mono (hx : Abides P L x) (hL : ∀ es a, L es a → M es a) : Abides P M x := by
  refine ⟨hx.isWrite, fun hA hI hj => (hx.keeps hA hI hj).mono ?_⟩
  rintro k a ⟨hk, es, hlines, ha⟩
  exact ⟨hk, es, hlines, hL es a ha⟩

theorem silent {Q : α → Prop} (hw : x.isWrite = false) (hx : Steps Sound Site.Silent Q x) :
    Abides P (fun es a => es = [] ∧ Q a) x := by
  refine ⟨hw, fun {A I j} hA hI hj => ?_⟩
  refine (keeps_plain hx ⟨hj, rfl⟩ (hA.still j.lines) fun k hk => hI k hk.1).mono ?_
  rintro k a ⟨⟨hk, hlines⟩, ha⟩
  exact ⟨hk, [], hlines.trans (List.append_nil _).symm, rfl, ha⟩

theorem done (a : α) : Abides P (fun es b => es = [] ∧ b = a) (.done a : Work (Recorder β) α) :=
  silent rfl (.done rfl)

theorem bind {f : α → Work (Recorder β) γ} {M : α → List Entry → γ → Prop} (hx : Abides P L x)
    (hf : ∀ a, Abides P (M a) (f a))
    (hN : ∀ es₁ a es₂ b, L es₁ a → M a es₂ b → N (es₁ ++ es₂) b) : Abides P N (x.bind f) := by
  refine ⟨Job.isWrite_bind hx.isWrite fun a => (hf a).isWrite, fun hA hI hj => ?_⟩
  refine (hx.keeps hA hI hj).bind (fun a => (hf a).isWrite) ?_
  rintro k a ⟨hk, es₁, hlines₁, ha⟩
  refine ((hf a).keeps hA hI hk).mono ?_
  rintro l b ⟨hl, es₂, hlines₂, hb⟩
  refine ⟨hl, es₁ ++ es₂, ?_, hN es₁ a es₂ b ha hb⟩
  rw [hlines₂, hlines₁, List.append_assoc]

theorem map {f : α → γ} (hx : Abides P L x) (hN : ∀ es a, L es a → N es (f a)) :
    Abides P N (x.bind fun a => .done (f a)) := by
  refine hx.bind (fun a => done (f a)) ?_
  rintro es a _ _ ha ⟨rfl, rfl⟩
  rw [List.append_nil]
  exact hN es a ha

/-- What is behind work that asks for nothing. -/
theorem after {Q : α → Prop} {f : α → Work (Recorder β) γ} (hx : Abides P (fun es a => es = [] ∧ Q a) x)
    (hf : ∀ a, Abides P N (f a)) : Abides P N (x.bind f) := by
  refine hx.bind hf ?_
  rintro _ a es b ⟨rfl, -⟩ hb
  exact hb

theorem forward {q : Request} (hq : P q) (answer : α → Answer) (x : Job β α) :
    Abides P (fun es a => es = q.answeredBy (answer a))
      (Site.ofDriver (Recorder.forward q answer x)) := by
  refine ⟨Job.isWrite_zoom _, fun hA hI hj => ?_⟩
  refine (keeps_weaken (keeps_logged hq x hA hj) fun k hk => hI k hk.1).mono ?_
  rintro k a ⟨hk, hlines⟩
  exact ⟨hk, _, hlines, rfl⟩

/-- A request under a deadline. -/
theorem send {q : Request} (hq : P q) (answer : α → Answer) (x : Job β α)
    (f : α → Except Error γ) (limit : Option Duration) :
    Abides P (fun es _ => q.LoggedAs es)
      (withDeadline limit
        ((Site.ofDriver (Recorder.forward q answer x)).bind fun a => .done (f a))) := by
  have hw : ((Site.ofDriver (Recorder.forward q answer x)).bind fun a => .done (f a)).isWrite = false :=
    Job.isWrite_bind (Job.isWrite_zoom _) fun _ => rfl
  refine ⟨Job.isWrite_withDeadline hw limit, fun hA hI hj => ?_⟩
  refine keeps_weaken (Keeps.withDeadline ((keeps_logged hq x hA hj).bind (fun _ => rfl) ?_) ?_ limit)
    fun k hk => hI k hk.1
  · rintro k a ⟨hk, hlines⟩
    exact .done ⟨hk, _, hlines, .inr ⟨_, rfl⟩⟩
  · exact fun k s t e h => h.2.2

theorem note [Driver β] (n : Note) :
    Abides P (fun es _ => es = [] ∧ True) (Site.note n : Work (Recorder β) Unit) :=
  silent rfl (Site.steps_note n)

end Abides

end Journal

open Journal (Abides)

namespace Session

variable {P : Request → Prop} {s : Session (Recorder β)} {c : Call}

/-- Without interceptors a statement goes to the connection at once. -/
theorem dispatch_eq (hcore : s.core.interceptors = []) (ctx : Context) :
    s.dispatch ctx = endpoint s.query s.exec
      { ctx with options := ctx.options.orDefaultTimeout s.core.defaultTimeout } := by
  rw [dispatch, dispatchTo, hcore, Interceptor.chain_nil]

/-- The log of a call that has ended: its statement has been sent with a request, or could not be
written. -/
def Call.LoggedAs (core : Core β) (c : Call) (request : Query → Request) (lines : List Entry)
    (result : Except Error γ) : Prop :=
  (∃ q, c.query core = .ok q ∧ (request q).LoggedAs lines) ∨
    lines = [] ∧ ∃ e, result = .error e ∧ c.query core = .error e

variable [Driver β]

/-- A call sends its statement to the connection of its session. -/
theorem Call.abides_run (hcore : s.core.interceptors = []) {request : Query → Request}
    (hwrite : ∀ ctx, (endpoint s.query s.exec ctx).isWrite = false)
    (hsend : ∀ ctx, ctx.options = c.options.orDefaultTimeout s.core.defaultTimeout →
      ctx.kind.isRead = c.isRead →
        Abides P (fun es _ => (request ctx.query).LoggedAs es) (endpoint s.query s.exec ctx)) :
    Abides P (c.LoggedAs s.core request) (c.run s) := by
  refine ⟨c.isWrite_run s, fun {A I j} hA hI hj => ?_⟩
  refine Call.keeps_run (hA.still j.lines) (fun k hk => hI k hk.1) ⟨hj, rfl⟩ (fun ctx => ?_) ?_ ?_
  · rw [dispatch_eq hcore]
    exact hwrite _
  · rintro k e ⟨hk, hlines⟩ he
    exact ⟨hk, [], hlines.trans (List.append_nil _).symm, .inr ⟨rfl, e, rfl, he⟩⟩
  · rintro k ctx ⟨hk, hlines⟩ hquery hoptions hread
    have hdefault : ctx.options.orDefaultTimeout s.core.defaultTimeout =
        c.options.orDefaultTimeout s.core.defaultTimeout := by rw [hoptions]
    rw [dispatch_eq hcore]
    refine ((hsend { ctx with options := _ } hdefault hread).keeps hA hI hk).mono ?_
    rintro l _ ⟨hl, es, hlines', hes⟩ result
    exact ⟨hl, es, hlines ▸ hlines', .inl ⟨ctx.query, hquery, hes⟩⟩

end Session

/-! ## Inside a transaction -/

/-- A statement in a transaction, or its end. -/
def Request.IsOn (t : TransactionId) : Request → Prop
  | queryIn u _ => u = t
  | execIn u _ => u = t
  | commit u => u = t
  | rollback u => u = t
  | release u => u = t
  | _ => False

/-- How a call in a transaction is asked for. -/
def Request.inside (t : TransactionId) (c : Call) (q : Query) : Request :=
  if c.isRead then .queryIn t q else .execIn t q

/-- The log of a visit that has ended with a result: that of its calls in order. -/
def Visit.LoggedAs (core : Core β) (t : TransactionId) : {ε : Type} → Visit ε → List Entry → ε → Prop
  | _, leave e, lines, result => lines = [] ∧ result = e
  | _, call c next, lines, result => ∃ es rest r, lines = es ++ rest ∧
      c.LoggedAs core (Request.inside t c) es r ∧ (next r).LoggedAs core t rest result
  | _, nested inner next, lines, result => ∃ es rest e, lines = es ++ rest ∧
      inner.LoggedAs core t es e ∧ (next e).LoggedAs core t rest result

/-- The log of parting with a transaction. -/
def Parting.ending (t : TransactionId) (r : Except Error Unit) : Parting → List Entry
  | commit => (Request.commit t).ending t r
  | rollback => (Request.rollback t).ending t r
  | drop => (Request.release t).answeredBy .done

section

variable [Driver β] {t : Transaction (Recorder β)} {ε : Type}

theorem Transaction.abides_endpoint (t : Transaction (Recorder β)) {c : Call} {ctx : Context}
    (hread : ctx.kind.isRead = c.isRead) :
    Abides (Request.IsOn t.driver) (fun es _ => (Request.inside t.driver c ctx.query).LoggedAs es)
      (Session.endpoint t.session.query t.session.exec ctx) := by
  rw [Session.endpoint, Request.inside, hread]
  cases c.isRead with
  | true => exact .send (P := Request.IsOn t.driver) (q := .queryIn t.driver ctx.query) rfl _ _ _ _
  | false => exact .send (P := Request.IsOn t.driver) (q := .execIn t.driver ctx.query) rfl _ _ _ _

/-- A visit asks for its statements in its transaction, and for nothing else. -/
theorem Visit.abides_run (hcore : t.core.interceptors = []) (v : Visit ε) :
    Abides (Request.IsOn t.driver) (v.LoggedAs t.core t.driver) (v.run t) := by
  induction v with
  | leave e => exact .done e
  | call c next ih =>
    refine Abides.bind (Session.Call.abides_run hcore (fun ctx => ?_) fun _ _ => t.abides_endpoint) ih ?_
    · exact Session.isWrite_endpoint (fun _ _ => Job.isWrite_zoom _) (fun _ _ => Job.isWrite_zoom _) ctx
    · exact fun es r rest _ hes hrest => ⟨es, rest, r, rfl, hes, hrest⟩
  | nested inner next ih ihnext =>
    exact ih.bind ihnext fun es e rest _ hes hrest => ⟨es, rest, e, rfl, hes, hrest⟩

namespace Transaction

theorem abides_release (t : Transaction (Recorder β)) :
    Abides (Request.IsOn t.driver) (fun es _ => es = (Request.release t.driver).answeredBy .done)
      (Site.ofDriver (Driver.release t.driver) : Work (Recorder β) Unit) :=
  .forward (P := Request.IsOn t.driver) (q := .release t.driver) rfl _ _

theorem abides_finished (r : Except Error Unit) (n : Note) :
    Abides (Request.IsOn t.driver)
      (fun es r' => es = (Request.release t.driver).answeredBy .done ∧ r' = r) (t.finished r n) := by
  have hrelease : Abides (Request.IsOn t.driver)
      (fun es r' => es = (Request.release t.driver).answeredBy .done ∧ r' = r)
      ((Site.ofDriver (Driver.release t.driver)).bind fun _ => .done r : Work (Recorder β) _) :=
    (abides_release t).map fun _ _ h => ⟨h, rfl⟩
  cases r with
  | ok _ => exact (Abides.note n).after fun _ => hrelease
  | error e => exact (Abides.done ()).after fun _ => hrelease

/-- A request that ends a transaction, and letting go. -/
theorem abides_ending {q : Request} (hq : q.IsOn t.driver) (x : Job β (Except Error Unit)) (n : Note) :
    Abides (Request.IsOn t.driver) (fun es r => es = q.ending t.driver r)
      ((Site.ofDriver (Recorder.forward q (Answer.ofExcept fun _ => .done) x)).bind fun r =>
        t.finished r n) := by
  refine (Abides.forward hq _ x).bind (fun r => abides_finished r n) ?_
  rintro _ r _ _ rfl ⟨rfl, rfl⟩
  rfl

theorem abides_commit : Abides (Request.IsOn t.driver)
    (fun es r => es = (Request.commit t.driver).ending t.driver r) t.commit :=
  abides_ending (q := .commit t.driver) rfl _ _

theorem abides_rollback : Abides (Request.IsOn t.driver)
    (fun es r => es = (Request.rollback t.driver).ending t.driver r) t.rollback :=
  abides_ending (q := .rollback t.driver) rfl _ _

theorem abides_drop : Abides (Request.IsOn t.driver)
    (fun es _ => es = (Request.release t.driver).answeredBy .done) t.drop :=
  (Abides.note _).after fun _ => abides_release t

theorem abides_part (p : Parting) :
    Abides (Request.IsOn t.driver) (fun es r => es = p.ending t.driver r) (t.part p) := by
  cases p with
  | commit => exact abides_commit
  | rollback => exact abides_rollback
  | drop => exact abides_drop.map fun _ _ h => h

theorem abides_rollbackAfter (cause : Error) : Abides (Request.IsOn t.driver)
    (fun es _ => ∃ r, es = (Request.rollback t.driver).ending t.driver r) (t.rollbackAfter cause) := by
  refine abides_rollback.bind (M := fun _ es _ => es = []) (fun r => ?_) ?_
  · cases r <;> exact (Abides.done _).mono fun _ _ h => h.1
  · rintro _ r _ _ rfl rfl
    exact ⟨r, List.append_nil _⟩

theorem abides_finish (e : Ending α) : Abides (Request.IsOn t.driver)
    (fun es _ => ∃ r, es = (e.request t.driver).ending t.driver r) (t.finish e) := by
  cases e with
  | returned r =>
    cases r with
    | ok a => exact abides_commit.map fun _ r h => ⟨r, h⟩
    | error cause => exact (abides_rollbackAfter cause).map fun _ _ h => h
  | panicked payload =>
    exact (Abides.note _).after fun _ => (abides_rollbackAfter _).map fun _ _ h => h

end Transaction

end

/-! ## On the primary -/

/-- What a caller may ask for without leaving the primary: writes and transactions on it, and what
belongs to a transaction that it has begun there itself. -/
def Request.StaysOn (primary : ConnectionId) (own : List Entry) : Request → Prop
  | exec c _ _ => c = primary
  | beginOn c => c = primary
  | queryIn t _ => .answered (.beginOn primary) (.transaction t) ∈ own
  | execIn t _ => .answered (.beginOn primary) (.transaction t) ∈ own
  | commit t => .answered (.beginOn primary) (.transaction t) ∈ own
  | rollback t => .answered (.beginOn primary) (.transaction t) ∈ own
  | release t => .answered (.beginOn primary) (.transaction t) ∈ own
  | _ => False

theorem Request.IsOn.staysOn {t : TransactionId} {q : Request} (hq : q.IsOn t) {primary : ConnectionId}
    {own : List Entry} (h : .answered (.beginOn primary) (.transaction t) ∈ own) :
    q.StaysOn primary own := by
  cases q <;> first | exact hq.elim | exact (show _ = t from hq) ▸ h

theorem Request.StaysOn.mono {primary : ConnectionId} {own own' : List Entry} {q : Request}
    (hq : q.StaysOn primary own) (h : own ⊆ own') : q.StaysOn primary own' := by
  cases q <;> first | exact hq | exact h hq

/-- The log of a transaction that is begun on a connection: it could not be begun, or `inside` holds of
what follows. -/
def Request.BegunAs (c : ConnectionId) (inside : TransactionId → List Entry → Prop)
    (lines : List Entry) : Prop :=
  (∃ e, lines = (Request.beginOn c).answeredBy (.failed e)) ∨
    ∃ t es, lines = (Request.beginOn c).answeredBy (.transaction t) ++ es ∧ inside t es

namespace Journal

/-- A caller that has not left the primary. -/
structure OnPrimary (primary : ConnectionId) (j : Journal) : Prop where
  turns : j.turns = []
  requests : ∀ e ∈ j.lines, e.request.StaysOn primary j.lines

/-- A caller in a transaction that it has begun on the primary. -/
structure InTransaction (primary : ConnectionId) (t : TransactionId) (j : Journal) : Prop
    extends OnPrimary primary j where
  begun : .answered (.beginOn primary) (.transaction t) ∈ j.lines

variable {primary : ConnectionId} {j : Journal}

theorem onPrimary_nil : OnPrimary primary {} := ⟨rfl, nofun⟩

theorem OnPrimary.asked (hj : j.OnPrimary primary) {es : List Entry} {list : List Replica}
    (hes : ∀ e ∈ es, e.request.StaysOn primary (j.lines ++ es)) :
    (j.asked es list).OnPrimary primary := by
  refine ⟨hj.turns, fun e he => ?_⟩
  rcases List.mem_append.1 he with he | he
  · exact (hj.requests e he).mono (List.subset_append_left _ _)
  · exact hes e he

theorem closed_onPrimary :
    Closed (fun q => ∀ own, q.StaysOn primary own) (OnPrimary primary) :=
  fun _ _ _ hj hes => hj.asked fun e he => hes e he _

theorem closed_inTransaction (t : TransactionId) :
    Closed (Request.IsOn t) (InTransaction primary t) := by
  intro j es list hj hes
  have hbegun := List.mem_append_left es hj.begun
  exact ⟨hj.toOnPrimary.asked fun e he => (hes e he).staysOn hbegun, hbegun⟩

end Journal

open Journal (OnPrimary InTransaction)

section

variable [Driver β] {db : Database (Recorder β)}

/-- A transaction is asked for on the primary. -/
theorem Database.abides_beginTransaction (db : Database (Recorder β)) :
    Abides (fun q => ∀ own, q.StaysOn db.connection.primary own)
      (fun es r => es = (Request.beginOn db.connection.primary).answeredBy
        (.ofExcept (fun t => .transaction t.driver) r) ∧ ∀ t, r = .ok t → t.core = db.core)
      db.beginTransaction := by
  refine Abides.bind (M := fun r es r' => es = [] ∧ r' = r.map fun t => ⟨db.core, t⟩)
    (.forward (q := .beginOn db.connection.primary) (fun _ => rfl) _ _) (fun r => ?_) ?_
  · cases r with
    | error e => exact .done _
    | ok t =>
      have hname : Abides (fun q => ∀ own, q.StaysOn db.connection.primary own)
          (fun es _ => es = [] ∧ True)
          (Site.connectionName db.connection.primary : Work (Recorder β) _) :=
        .silent rfl (Site.steps_connectionName _)
      exact hname.after fun _ => (Abides.note _).after fun _ => .done _
  · rintro _ r _ _ rfl ⟨rfl, rfl⟩
    cases r with
    | error e => exact ⟨rfl, nofun⟩
    | ok t =>
      refine ⟨rfl, ?_⟩
      rintro t' ⟨⟩
      rfl

/-- Whatever is done in a transaction that is begun on the primary stays there. -/
theorem Database.keeps_begun {f : Except Error (Transaction (Recorder β)) → Work (Recorder β) α}
    {inside : TransactionId → List Entry → Prop} (hw : ∀ result, (f result).isWrite = false)
    (herror : ∀ e, ∃ a, f (.error e) = .done a)
    (hok : ∀ t, t.core = db.core →
      Abides (Request.IsOn t.driver) (fun es _ => inside t.driver es) (f (.ok t))) :
    Keeps (rules (OnPrimary db.connection.primary))
      (fun j _ => Request.BegunAs db.connection.primary inside j.lines)
      (db.beginTransaction.bind f) {} := by
  refine (db.abides_beginTransaction.keeps Journal.closed_onPrimary (fun _ hj => hj)
    Journal.onPrimary_nil).bind hw ?_
  rintro j result ⟨hj, es, hlines, rfl, hcore⟩
  cases result with
  | error e =>
    obtain ⟨a, ha⟩ := herror e
    rw [ha]
    exact .done (.inl ⟨e, hlines⟩)
  | ok t =>
    have hbegun : Entry.answered (.beginOn db.connection.primary) (.transaction t.driver) ∈ j.lines := by
      rw [hlines]
      exact List.mem_cons_of_mem _ (List.mem_singleton_self _)
    refine ((hok t (hcore t rfl)).keeps (Journal.closed_inTransaction t.driver)
      (fun _ hj => hj.toOnPrimary) ⟨hj, hbegun⟩).mono ?_
    rintro k _ ⟨-, es, hlines', hes⟩
    exact .inr ⟨t.driver, es, hlines'.trans (congrArg (· ++ es) hlines), hes⟩

/-- A write is sent to the primary. -/
theorem Database.abides_endpoint (db : Database (Recorder β)) {ctx : Context}
    (hread : ctx.kind.isRead = false) :
    Abides (fun q => ∀ own, q.StaysOn db.connection.primary own)
      (fun es _ => (Request.exec db.connection.primary ctx.query ctx.options).LoggedAs es)
      (Session.endpoint db.session.query db.session.exec ctx) := by
  rw [Session.endpoint, hread, if_neg Bool.false_ne_true]
  exact .send (P := fun q => ∀ own, q.StaysOn db.connection.primary own)
    (q := .exec db.connection.primary ctx.query ctx.options) (fun _ => rfl) _ _ _ _

theorem Visit.isWrite_run {ε : Type} (t : Transaction β) (v : Visit ε) :
    (v.run t).isWrite = false := by
  induction v with
  | leave e => rfl
  | call c next ih => exact Job.isWrite_bind (c.isWrite_run _) ih
  | nested inner next ih ihnext => exact Job.isWrite_bind ih ihnext

namespace Errand

/-- The log of a transaction that has ended: its begin on the primary, the statements in it, and its
end. -/
def Transacted (primary : ConnectionId) (core : Core (Recorder β)) (lines : List Entry) : Errand → Prop
  | transaction v => Request.BegunAs primary (fun t es => ∃ statements e r,
      es = statements ++ (e.request t).ending t r ∧ v.LoggedAs core t statements e) lines
  | unwinding _ => Request.BegunAs primary (fun t es => es = (Request.release t).answeredBy .done) lines
  | explicit v => Request.BegunAs primary (fun t es => ∃ statements p r,
      es = statements ++ p.ending t r ∧ v.LoggedAs core t statements p) lines
  | _ => True

theorem keeps_transaction (hcore : db.core.interceptors = []) (v : Visit (Ending Unit)) :
    Keeps (rules (OnPrimary db.connection.primary))
      (fun j _ => (transaction v).Transacted db.connection.primary db.core j.lines)
      ((transaction v).job db) {} := by
  have htask : ∀ t : Transaction (Recorder β),
      ((v.run t).bind fun ending => .done ((), ending)).isWrite = false :=
    fun t => Job.isWrite_bind (v.isWrite_run t) fun _ => rfl
  have hrun : Keeps (rules (OnPrimary db.connection.primary))
      (fun j _ => (transaction v).Transacted db.connection.primary db.core j.lines)
      (db.transaction fun t => .runs (v.run t)) {} := by
    refine Database.keeps_begun (fun result => ?_) (fun e => ⟨_, rfl⟩) fun t ht => ?_
    · cases result with
      | error e => rfl
      | ok t =>
        refine Job.isWrite_bind (Job.isWrite_bind (htask t) fun (_, ending) => ?_) fun _ => rfl
        exact Job.isWrite_bind (Transaction.abides_finish ending).isWrite fun _ => rfl
    · have hv : Abides (Request.IsOn t.driver) (fun es a => v.LoggedAs db.core t.driver es a.2)
          ((v.run t).bind fun ending => .done ((), ending)) := by
        have hlogged := v.abides_run (ht ▸ hcore)
        rw [ht] at hlogged
        exact hlogged.map fun _ _ h => h
      have hfinish : ∀ a : Unit × Ending Unit, Abides (Request.IsOn t.driver)
          (fun es _ => ∃ r, es = (a.2.request t.driver).ending t.driver r)
          ((t.finish a.2).bind fun r => .done (a.1, r)) :=
        fun a => (Transaction.abides_finish a.2).map fun _ _ h => h
      refine (hv.bind hfinish ?_).map fun _ _ h => h
      rintro es a _ _ hes ⟨r, rfl⟩
      exact ⟨es, a.2, r, rfl, hes⟩
  exact hrun.bind (fun _ => rfl) fun _ _ h => .done h

theorem keeps_unwinding (payload : Option String) :
    Keeps (rules (OnPrimary db.connection.primary))
      (fun j _ => (unwinding payload).Transacted db.connection.primary db.core j.lines)
      ((unwinding payload).job db) {} := by
  have hrun : Keeps (rules (OnPrimary db.connection.primary))
      (fun j _ => (unwinding payload).Transacted db.connection.primary db.core j.lines)
      (db.transaction fun _ => (.unwinds payload : Task (Recorder β) Unit)) {} :=
    Database.keeps_begun (fun result => by cases result <;> rfl) (fun e => ⟨_, rfl⟩)
      fun t _ => Transaction.abides_drop.map fun _ _ h => h
  exact hrun.bind (fun _ => rfl) fun _ _ h => .done h

theorem keeps_explicit (hcore : db.core.interceptors = []) (v : Visit Parting) :
    Keeps (rules (OnPrimary db.connection.primary))
      (fun j _ => (explicit v).Transacted db.connection.primary db.core j.lines)
      ((explicit v).job db) {} := by
  refine Database.keeps_begun (fun result => ?_) (fun e => ⟨_, rfl⟩) fun t ht => ?_
  · cases result with
    | error e => rfl
    | ok t => exact Job.isWrite_bind (v.isWrite_run t) fun p => (Transaction.abides_part p).isWrite
  · have hlogged := v.abides_run (ht ▸ hcore)
    rw [ht] at hlogged
    refine hlogged.bind Transaction.abides_part ?_
    rintro es p _ r hes rfl
    exact ⟨es, p, r, rfl, hes⟩

/-- The log of a write that has ended with a result. -/
def Wrote (primary : ConnectionId) (core : Core (Recorder β)) (c : Call) (lines : List Entry)
    (result : Except Error Unit) : Prop :=
  c.LoggedAs core (fun q => .exec primary q (c.options.orDefaultTimeout core.defaultTimeout))
    lines result

theorem keeps_write (hcore : db.core.interceptors = []) {c : Call} (hc : c.isRead = false) :
    Keeps (rules (OnPrimary db.connection.primary))
      (fun j result => Wrote db.connection.primary db.core c j.lines result) ((call c).job db) {} := by
  have hrun : Abides (fun q => ∀ own, q.StaysOn db.connection.primary own)
      (c.LoggedAs db.core fun q =>
        .exec db.connection.primary q (c.options.orDefaultTimeout db.core.defaultTimeout))
      (c.run db.session) := by
    refine Session.Call.abides_run (s := db.session) hcore (fun ctx => ?_) fun ctx hoptions hread => ?_
    · exact Session.isWrite_endpoint db.connection.isWrite_query (fun _ _ => Job.isWrite_zoom _) ctx
    · rw [← show ctx.options = c.options.orDefaultTimeout db.core.defaultTimeout from hoptions]
      exact db.abides_endpoint (hread.trans hc)
  have hjob : Abides (fun q => ∀ own, q.StaysOn db.connection.primary own)
      (fun es result => Wrote db.connection.primary db.core c es result) ((call c).job db) := by
    refine hrun.map fun es result h => ?_
    rcases h with h | ⟨hnil, e, rfl, he⟩
    · exact .inl h
    · exact .inr ⟨hnil, e, rfl, he⟩
  refine (hjob.keeps Journal.closed_onPrimary (fun _ hj => hj) Journal.onPrimary_nil).mono ?_
  rintro j result ⟨-, es, hlines, hes⟩
  exact hlines ▸ hes

end Errand

end

/-! ## Refreshing -/

def Request.IsDiscovery : Request → Prop
  | connect _ _ => True
  | resolve _ _ => True
  | _ => False

/-- A caller that has only looked for replicas. -/
structure Journal.Discovers (j : Journal) : Prop where
  turns : j.turns = []
  requests : ∀ e ∈ j.lines, e.request.IsDiscovery

theorem Journal.closed_discovers : Closed Request.IsDiscovery Journal.Discovers := by
  refine fun j es list hj hes => ⟨hj.turns, fun e he => ?_⟩
  rcases List.mem_append.1 he with he | he
  · exact hj.requests e he
  · exact hes e he

namespace Selector

/-- The list is replaced in one step, and the counter stays. -/
theorem keeps_update {j : Journal} (hj : j.Discovers) {f : Selector → Selector}
    (hf : ∀ sel, (f sel).counter = sel.counter) :
    Keeps (rules Journal.Discovers) (fun j _ => j.Discovers) (update f : Work (Recorder β) Unit) j := by
  have hcounter : ∀ s : Site (Recorder β),
      Site.counter { s with selector := s.selector.map f } = s.counter := by
    intro s
    rw [Site.counter, Site.counter, Option.map_map]
    exact congrArg (Option.map · s.selector) (funext hf)
  have hadd : ∀ s : Site (Recorder β),
      (j.add s { s with selector := s.selector.map f }).Discovers := by
    intro s
    have hlog : Site.log { s with selector := s.selector.map f } = s.log ++ [] :=
      (List.append_nil _).symm
    rw [Journal.add_of_log hlog (hcounter s)]
    exact Journal.closed_discovers j [] _ hj fun _ he => absurd he List.not_mem_nil
  refine .step rfl (fun s hs => ⟨⟨?_, hs.registry⟩, .inl (hcounter s), hadd s⟩) fun s _ => .done (hadd s)
  exact (Option.isSome_map ..).trans hs.selector

variable [Driver β]

theorem steps_connectAll (known : List Replica) (i : Nat) (dsns : List Dsn) :
    (connectAll known i dsns : Job (Recorder β) _).isWrite = false ∧
      Steps (fun _ => True) (Recorder.Asks Request.IsDiscovery) (fun _ => True)
        (connectAll known i dsns : Job (Recorder β) _) := by
  induction dsns generalizing i with
  | nil => exact ⟨rfl, .done trivial⟩
  | cons d rest ih =>
    obtain ⟨hw, hrest⟩ := ih (i + 1)
    rw [connectAll]
    dsimp only
    split
    · exact ⟨Job.isWrite_bind hw fun _ => rfl, hrest.bind (fun _ => rfl) fun _ _ => .done trivial⟩
    · have hconnect := Recorder.steps_forward (P := Request.IsDiscovery)
        (q := .connect (replicaName i) d.text) trivial (Answer.ofExcept .connection)
        (Driver.connect (replicaName i) d.text : Job β _)
      refine ⟨rfl, hconnect.bind ?_ ?_⟩
      · rintro (e | c)
        · rfl
        · exact Job.isWrite_bind hw fun _ => rfl
      · rintro (e | c) -
        · exact .done trivial
        · exact hrest.bind (fun _ => rfl) fun _ _ => .done trivial

theorem steps_discoverAll (dsn : Dsn) (timeout : Duration) (known : List Replica) :
    Steps (fun _ => True) (Recorder.Asks Request.IsDiscovery) (fun _ => True)
      (discoverAll dsn timeout known : Job (Recorder β) _) := by
  have hdiscover : Steps (fun _ => True) (Recorder.Asks Request.IsDiscovery) (fun _ => True)
      (discover dsn timeout : Job (Recorder β) _) := by
    refine (Steps.withDeadline ?_ (some timeout)).bind (fun _ => rfl) fun _ _ => .done trivial
    exact Recorder.steps_forward (q := .resolve dsn.host dsn.port) trivial _ _
  refine hdiscover.bind ?_ ?_
  · rintro (e | dsns)
    · rfl
    · exact (steps_connectAll known 0 dsns).1
  · rintro (e | dsns) -
    · exact .done trivial
    · exact (steps_connectAll known 0 dsns).2

end Selector

theorem Errand.keeps_refresh [Driver β] {db : Database (Recorder β)} {j : Journal} (hj : j.Discovers) :
    Keeps (rules Journal.Discovers) (fun j _ => j.Discovers) (refresh.job db) j := by
  have hclosed := Journal.closed_discovers
  refine Journal.keeps_read (fun s => ?_) fun s _ => ?_
  · cases s.selector with
    | none => rfl
    | some sel => exact Job.isWrite_bind (Job.isWrite_zoom _) (by rintro (e | replicas) <;> rfl)
  · have hs := hclosed j [] s.replicas hj nofun
    refine ⟨hs, ?_⟩
    cases s.selector with
    | none => exact .done hs
    | some sel =>
      refine (Journal.keeps_plain (Site.steps_ofDriver (Selector.steps_discoverAll _ _ _)) hs hclosed
        fun _ h => h).bind (by rintro (e | replicas) <;> rfl) ?_
      rintro j (e | replicas) ⟨hj, -⟩
      · exact .done hj
      · refine (Journal.keeps_plain (Site.steps_note _) hj hclosed fun _ h => h).bind (fun _ => rfl)
          fun j _ hj => ?_
        have hupdate := Selector.keeps_update (β := β) hj.1 (f := fun s => { s with replicas })
          fun _ => rfl
        exact hupdate.bind (fun _ => rfl) fun _ _ hj => .done hj

end EntityStore
