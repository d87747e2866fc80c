import EntityStore.Proofs.Session.Journal
import EntityStore.Session.Database

/-!
# Calls of a session

A `Session.Call` is a statement that is run on a session. Up to the connection all calls run alike: the
model is looked up, the statement is written, and if that fails nothing is sent (`Call.keeps_run`). At
its end a read finds the connection that it goes to before its deadline begins to count
(`Connection.endpoint_of_isRead`).
-/

namespace EntityStore

open Job (Keeps Steps)
open Journal (Closed rules)

variable {α β γ : Type}

namespace Session

/-- A statement that is run on a session. -/
inductive Call : Type 1 where
  | select (ρ : Type) [Stored ρ] (c : Clauses)
  | selectRaw (ρ : Type) [Stored ρ] (r : RawStatement)
  | insert (ρ : Type) [Stored ρ] (i : Insert ρ)
  | delete (ρ : Type) [Stored ρ] (c : Clauses)
  | execRaw (ρ : Type) [Stored ρ] (r : RawStatement)

namespace Call

/-- What a call returns. -/
def Result : Call → Type
  | select ρ _ => List ρ
  | selectRaw ρ _ => List ρ
  | insert _ _ => ExecResult
  | delete _ _ => ExecResult
  | execRaw _ _ => ExecResult

def mapped : Call → MappedType
  | select ρ _ => Stored.mapped ρ
  | selectRaw ρ _ => Stored.mapped ρ
  | insert ρ _ => Stored.mapped ρ
  | delete ρ _ => Stored.mapped ρ
  | execRaw ρ _ => Stored.mapped ρ

def options : Call → CallOptions
  | select _ c => c.options
  | selectRaw _ r => r.options
  | insert _ i => i.options
  | delete _ c => c.options
  | execRaw _ r => r.options

/-- Whether a call returns rows. -/
def isRead : Call → Bool
  | select _ _ => true
  | selectRaw _ _ => true
  | _ => false

/-- The statement of a call, written for a model. -/
def build (core : Core β) : Call → TableModel → Except Error Query
  | select _ c, m => c.select m
  | selectRaw _ r, _ => .ok r.query
  | insert _ i, m =>
    if i.rows.isEmpty then .error (.query .zeroRows) else i.query core.dialect core.materializer m
  | delete _ c, m => c.delete m
  | execRaw _ r, _ => .ok r.query

/-- The statement of a call, if it can be written. -/
def query (core : Core β) (c : Call) : Except Error Query := c.mapped.model.bind (c.build core)

theorem query_of_error {core : Core β} {c : Call} {e : Error} (h : c.mapped.model = .error e) :
    c.query core = .error e := by
  rw [query, h]
  rfl

theorem query_of_ok {core : Core β} {c : Call} {m : TableModel} (h : c.mapped.model = .ok m) :
    c.query core = c.build core m := by
  rw [query, h]
  rfl

variable [Driver β]

def run (s : Session β) : (c : Call) → Work β (Except Error c.Result)
  | select ρ c => s.select ρ c
  | selectRaw ρ r => s.selectRaw ρ r
  | insert ρ i => s.insert ρ i
  | delete ρ c => s.delete ρ c
  | execRaw ρ r => s.execRaw ρ r

theorem isWrite_run (s : Session β) (c : Call) : (c.run s).isWrite = false := by cases c <;> rfl

end Call

theorem isWrite_andThen {x : Work β (Except Error α)} {f : α → Work β (Except Error γ)}
    (hx : x.isWrite = false) (hf : ∀ a, (f a).isWrite = false) : (andThen x f).isWrite = false := by
  refine Job.isWrite_bind hx fun result => ?_
  cases result with
  | ok a => exact hf a
  | error e => rfl

theorem keeps_andThen {J : Type} {r : Job.Rules (Site β) J} {Q : J → Except Error γ → Prop} {j : J}
    {x : Work β (Except Error α)} {f : α → Work β (Except Error γ)}
    (hx : Keeps r (fun j result => (∀ e, result = .error e → Q j (.error e)) ∧
      ∀ a, result = .ok a → Keeps r Q (f a) j) x j)
    (hf : ∀ a, (f a).isWrite = false) : Keeps r Q (andThen x f) j := by
  refine hx.bind (fun result => ?_) fun j result h => ?_
  · cases result with
    | ok a => exact hf a
    | error e => rfl
  · cases result with
    | ok a => exact h.2 a rfl
    | error e => exact .done (h.1 e rfl)

variable [Driver β] {A I : Journal → Prop} {j : Journal} {s : Session (Recorder β)} {c : Call}
  {Q : Journal → Except Error α → Prop}

/-- What follows the look-up of a model. -/
theorem keeps_lookUp (hA : Closed (fun _ => False) A) (hI : ∀ j, A j → I j) (hj : A j) {ty : MappedType}
    {f : TableModel → Work (Recorder β) (Except Error α)} (hf : ∀ m, (f m).isWrite = false)
    (hrefused : ∀ j e, A j → ty.model = .error e → Q j (.error e))
    (hfound : ∀ j m, A j → ty.model = .ok m → Keeps (rules I) Q (f m) j) :
    Keeps (rules I) Q (andThen (Site.modelOf ty) f) j := by
  refine keeps_andThen ?_ hf
  have hsteps : Steps Site.Sound Site.Silent (· = ty.model) (Site.modelOf ty : Work (Recorder β) _) :=
    Site.steps_modelOf (fun _ hs => hs.registry) ty
  refine (Journal.keeps_plain hsteps hj hA hI).mono fun j result h => ?_
  obtain ⟨hj, hresult⟩ := h
  exact ⟨fun e he => hrefused j e hj (hresult.symm.trans he),
    fun m hm => hfound j m hj (hresult.symm.trans hm)⟩

/-- A statement that is written once its model has been found: it cannot be written, or it is sent. -/
theorem keeps_written (hA : Closed (fun _ => False) A) (hI : ∀ j, A j → I j) (hj : A j)
    {ty : MappedType} {write : TableModel → Except Error Query}
    {send : TableModel → Query → Work (Recorder β) (Except Error α)}
    (hsend : ∀ m q, (send m q).isWrite = false)
    (hmodel : ∀ j e, A j → ty.model = .error e → Q j (.error e))
    (hfailed : ∀ j m e, A j → ty.model = .ok m → write m = .error e → Q j (.error e))
    (hsent : ∀ j m q, A j → ty.model = .ok m → write m = .ok q → Keeps (rules I) Q (send m q) j) :
    Keeps (rules I) Q (andThen (Site.modelOf ty) fun m =>
      match write m with
      | .error e => .done (.error e)
      | .ok q => send m q) j := by
  refine keeps_lookUp hA hI hj (fun m => ?_) hmodel fun j m hj hm => ?_
  · cases write m with
    | error e => rfl
    | ok q => exact hsend m q
  · cases hq : write m with
    | error e => exact .done (hfailed j m e hj hm hq)
    | ok q => exact hsent j m q hj hm hq

namespace Call

theorem isWrite_buildInsert {ρ : Type} [Stored ρ] (s : Session β) (i : Insert ρ) :
    (s.buildInsert ρ i).isWrite = false := by
  rw [buildInsert]
  split <;> rfl

/-- The builder of an insert looks the model up again, and finds the same. -/
theorem keeps_buildInsert (hA : Closed (fun _ => False) A) (hI : ∀ j, A j → I j) (hj : A j) {ρ : Type}
    [Stored ρ] {i : Insert ρ} {m : TableModel} (hm : (Stored.mapped ρ).model = .ok m) :
    Keeps (rules I) (fun j result => A j ∧ result = (insert ρ i).build s.core m)
      (s.buildInsert ρ i) j := by
  rw [buildInsert, build]
  split
  · exact .done ⟨hj, rfl⟩
  · refine keeps_lookUp hA hI hj (fun _ => rfl) (fun _ e _ he => ?_) fun j m' hj hm' => .done ⟨hj, ?_⟩
    · exact absurd (hm.symm.trans he) nofun
    · rw [Except.ok.inj (hm.symm.trans hm')]

/-- A call is refused, or a statement is sent to the connection of the session. -/
theorem keeps_run (hA : Closed (fun _ => False) A) (hI : ∀ j, A j → I j) (hj : A j)
    {Q : Journal → Except Error c.Result → Prop} (hdispatch : ∀ ctx, (s.dispatch ctx).isWrite = false)
    (hrefused : ∀ j e, A j → c.query s.core = .error e → Q j (.error e))
    (hsent : ∀ j ctx, A j → c.query s.core = .ok ctx.query → ctx.options = c.options →
      ctx.kind.isRead = c.isRead → Keeps (rules I) (fun j _ => ∀ result, Q j result) (s.dispatch ctx) j) :
    Keeps (rules I) Q (c.run s) j := by
  -- behind the connection the result is only read
  have hsend : ∀ (f : Output → Except Error c.Result) j ctx, A j → c.query s.core = .ok ctx.query →
      ctx.options = c.options → ctx.kind.isRead = c.isRead →
        Keeps (rules I) Q (andThen (s.dispatch ctx) fun output => .done (f output)) j := by
    intro f j ctx hj hquery hoptions hread
    refine keeps_andThen ((hsent j ctx hj hquery hoptions hread).mono fun j _ hq => ?_) fun _ => rfl
    exact ⟨fun _ _ => hq _, fun _ _ => .done (hq _)⟩
  have hmodel : ∀ j e, A j → c.mapped.model = .error e → Q j (.error e) :=
    fun j e hj he => hrefused j e hj (query_of_error he)
  have hbuild : ∀ m, c.mapped.model = .ok m → c.query s.core = c.build s.core m :=
    fun _ => query_of_ok
  have hfailed : ∀ j m e, A j → c.mapped.model = .ok m → c.build s.core m = .error e →
      Q j (.error e) := fun j m e hj hm he => hrefused j e hj ((hbuild m hm).trans he)
  have hwrite : ∀ (f : Output → Except Error c.Result) ctx,
      (andThen (s.dispatch ctx) fun output => .done (f output)).isWrite = false :=
    fun _ ctx => isWrite_andThen (hdispatch ctx) fun _ => rfl
  cases c with
  | selectRaw ρ r =>
    exact keeps_lookUp hA hI hj (fun _ => hwrite _ _) hmodel
      fun j m hj hm => hsend _ j _ hj (hbuild m hm) rfl rfl
  | execRaw ρ r =>
    exact keeps_lookUp hA hI hj (fun _ => hwrite _ _) hmodel
      fun j m hj hm => hsend _ j _ hj (hbuild m hm) rfl rfl
  | select ρ c =>
    exact keeps_written hA hI hj (fun _ _ => hwrite _ _) hmodel hfailed
      fun j m q hj hm hq => hsend _ j _ hj ((hbuild m hm).trans hq) rfl rfl
  | delete ρ c =>
    exact keeps_written hA hI hj (fun _ _ => hwrite _ _) hmodel hfailed
      fun j m q hj hm hq => hsend _ j _ hj ((hbuild m hm).trans hq) rfl rfl
  | insert ρ i =>
    have hinsert := isWrite_buildInsert s i
    refine keeps_lookUp hA hI hj (fun m => isWrite_andThen hinsert fun _ => hwrite _ _) hmodel
      fun j m hj hm => ?_
    refine keeps_andThen ((keeps_buildInsert hA hI hj hm).mono fun j result h => ?_) fun _ => hwrite _ _
    obtain ⟨hj, rfl⟩ := h
    exact ⟨fun e he => hfailed j m e hj hm he,
      fun q hq => hsend _ j _ hj ((hbuild m hm).trans hq) rfl rfl⟩

end Call

end Session

/-! ## Where a statement is sent -/

namespace Session

theorem isWrite_endpoint {query : Query → CallOptions → Work β (Except Error Rows)}
    {exec : Query → CallOptions → Work β (Except Error ExecResult)}
    (hquery : ∀ q o, (query q o).isWrite = false) (hexec : ∀ q o, (exec q o).isWrite = false)
    (ctx : Context) : (endpoint query exec ctx).isWrite = false := by
  refine Job.isWrite_withDeadline ?_ _
  split
  · exact Job.isWrite_bind (hquery _ _) fun _ => rfl
  · exact Job.isWrite_bind (hexec _ _) fun _ => rfl

end Session

namespace Connection

variable [Driver β]

theorem isWrite_query (c : Connection) (q : Query) (o : CallOptions) :
    (c.query q o : Work β (Except Error Rows)).isWrite = false := by
  cases c with
  | single p => exact Job.isWrite_zoom _
  | spread p =>
    rw [query, reader, Selector.pick]
    split <;> rfl

/-- Finding the connection of a read does not take time. -/
theorem prompt_reader (c : Connection) (usePrimary : Bool) :
    (c.reader usePrimary : Work β ConnectionId).Prompt := by
  have hpick : (Selector.pick usePrimary : Work β _).Prompt := by
    rw [Selector.pick]
    split
    · trivial
    · intro s
      dsimp only
      split
      · trivial
      · split
        · trivial
        · refine Job.Prompt.bind (fun s => ?_) fun _ => trivial
          dsimp only
          split <;> trivial
  cases c with
  | single p => trivial
  | spread p => exact hpick.bind fun _ _ _ => trivial

/-- A read finds its connection, and the deadline is for the statement that it sends there. -/
theorem endpoint_of_isRead {c : Connection}
    {exec : Query → CallOptions → Work β (Except Error ExecResult)} {ctx : Context}
    (hread : ctx.kind.isRead = true) :
    Session.endpoint c.query exec ctx =
      (c.reader ctx.options.usePrimary).bind fun target =>
        withDeadline ctx.options.timeout
          ((Site.ofDriver (Driver.query target ctx.query ctx.options)).bind fun r =>
            .done (r.map .rows)) := by
  rw [Session.endpoint, if_pos hread, query, Job.bind_assoc, (c.prompt_reader _).withDeadline_bind]

end Connection

end EntityStore
