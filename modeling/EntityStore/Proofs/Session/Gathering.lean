import EntityStore.Proofs.Session.Beside
import EntityStore.Proofs.Session.Calls

/-!
# Sharded reads

A sharded read runs the statements of its targets at a time. Each of them finds its connection and
asks it once, whatever the interceptors do that pass it on (`Interceptor.PassesOn`), and may be cut
short by its deadline while it waits for the answer (`Database.TargetRun`). So the read puts the lines
of all its targets into the log, mixed in some order, and returns their records in the order of the
targets; or it returns the error of one of them (`Database.selectSharded_asks_each_target`).
-/

namespace EntityStore

open Job (Keeps Steps)
open TableModel (ofDescriptor)

variable {α β γ : Type}

/-! ## Lines of a caller -/

namespace Site

/-- A step that leaves the log and the lists of replicas alone, and the registry in order. -/
structure Still (s t : Site (Recorder β)) : Prop where
  log : SameLog s t
  replicas : t.replicas = s.replicas
  valid : s.registry.Valid → t.registry.Valid

/-- The registry is in order, and the replicas are known. -/
structure Known (known : ConnectionId → Prop) (s : Site β) : Prop where
  registry : s.registry.Valid
  replicas : ∀ r ∈ s.replicas, known r.connection

/-- The lines of a caller, with those that a step puts into the log. -/
def told (lines : List Entry) (s t : Site (Recorder β)) : List Entry :=
  lines ++ t.log.drop s.log.length

/-- A caller whose lines satisfy `I` all the time. -/
def telling (known : ConnectionId → Prop) (I : List Entry → Prop) :
    Job.Rules (Site (Recorder β)) (List Entry) where
  holds := Known known
  allows lines s t := t.Known known ∧ I (told lines s t)
  note := told

variable {known : ConnectionId → Prop} {I : List Entry → Prop} {s t : Site (Recorder β)}
  {lines : List Entry}

theorem Still.refl (s : Site (Recorder β)) : Still s s := ⟨rfl, rfl, id⟩

theorem Plain.still (h : Silent s t) : Still s t := by
  obtain ⟨es, hlog, hes⟩ := h.asks
  obtain rfl : es = [] := List.eq_nil_iff_forall_not_mem.2 hes
  exact ⟨hlog.trans (List.append_nil _), by rw [Site.replicas, h.selector]; rfl, h.valid⟩

theorem still_of_silent {holds : Site (Recorder β) → Prop} {Q : α → Prop} {x : Work (Recorder β) α}
    (hx : Steps holds Silent Q x) : Steps holds Still Q x :=
  hx.mono (fun _ _ => Plain.still) fun _ h => h

theorem Still.keeps_known (h : Still s t) (hs : s.Known known) : t.Known known :=
  ⟨h.valid hs.registry, h.replicas ▸ hs.replicas⟩

theorem Still.told_eq (h : Still s t) : told lines s t = lines := by
  rw [told, show t.log = s.log from h.log, List.drop_length, List.append_nil]

/-- Still steps put no lines into the log. -/
theorem keeps_still {Q : α → Prop} {x : Work (Recorder β) α} (hx : Steps (Known known) Still Q x)
    (hI : I lines) : Keeps (telling known I) (fun es a => es = lines ∧ Q a) x lines := by
  refine Steps.keeps (r := telling known I) (P := (· = lines)) hx rfl fun es s t hs h hes => ?_
  subst hes
  have htold : told es s t = es := h.told_eq
  exact ⟨⟨h.keeps_known hs, htold.symm ▸ hI⟩, htold⟩

theorem keeps_note [Driver β] (n : Note) (hI : I lines) :
    Keeps (telling known I) (fun es _ => es = lines) (note n : Work (Recorder β) Unit) lines :=
  (keeps_still (still_of_silent (steps_note n)) hI).mono fun _ _ h => h.1

theorem keeps_modelOf [Driver β] (ty : MappedType) (hI : I lines) :
    Keeps (telling known I) (fun es result => es = lines ∧ result = ty.model)
      (modelOf ty : Work (Recorder β) _) lines :=
  keeps_still (still_of_silent (steps_modelOf (fun _ hs => hs.registry) ty)) hI

theorem keeps_said {e : Entry} {lines' : List Entry} (hlines : lines' = lines ++ [e])
    (hI : I lines') : Keeps (telling known I) (fun es _ => es = lines')
      (Job.modify (said e) : Work (Recorder β) Unit) lines := by
  have htold : ∀ s : Site (Recorder β), told lines s (said e s) = lines' := fun s =>
    (congrArg (lines ++ ·) List.drop_left).trans hlines.symm
  refine .step rfl (fun s hs => ⟨⟨hs.registry, hs.replicas⟩, ?_⟩) fun s _ => .done (htold s)
  exact (htold s).symm ▸ hI

theorem keeps_weaken {I' : List Entry → Prop} {Q : List Entry → α → Prop} {x : Work (Recorder β) α}
    (hx : Keeps (telling known I) Q x lines) (hI : ∀ es, I es → I' es) :
    Keeps (telling known I') Q x lines :=
  hx.weaken (fun _ => id) fun _ _ _ ⟨hknown, hlines⟩ => ⟨hknown, hI _ hlines⟩

/-- The lines of jobs at a time are mixed in any order. -/
theorem merges_telling (P : Request → Prop) :
    Job.Merges (telling (β := β) known fun lines => ∀ e ∈ lines, P e.request) fun lines left right =>
      lines.Perm (left ++ right) ∧ ∀ e ∈ lines, P e.request := by
  have hall : ∀ {own lines : List Entry} {s t : Site (Recorder β)}, (∀ e ∈ lines, P e.request) →
      (∀ e ∈ told own s t, P e.request) → ∀ e ∈ told lines s t, P e.request := by
    intro own lines s t hlines hown e he
    rcases List.mem_append.1 he with he | he
    · exact hlines e he
    · exact hown e (List.mem_append_right _ he)
  constructor
  · intro lines left right s t hlines hleft
    have htold := hall hlines.2 hleft.2
    have hmixed : (told lines s t).Perm (told left s t ++ right) := by
      refine (hlines.1.append_right _).trans ?_
      simpa [told] using List.perm_append_comm.append_left left
    exact ⟨⟨hleft.1, htold⟩, hmixed, htold⟩
  · intro lines left right s t hlines hright
    have htold := hall hlines.2 hright.2
    have hmixed : (told lines s t).Perm (left ++ told right s t) :=
      (hlines.1.append_right _).trans (.of_eq (List.append_assoc ..))
    exact ⟨⟨hright.1, htold⟩, hmixed, htold⟩

end Site

/-! ## Requests -/

/-- What comes of a request: something that is made of its answer, or a timeout before that. -/
inductive Request.Replied (q : Request) (answer : α → Answer) (f : α → Except Error γ)
    (limit : Option Duration) : List Entry → Except Error γ → Prop where
  | answered (a : α) : Replied q answer f limit (q.answeredBy (answer a)) (f a)
  | late {d : Duration} : limit = some d →
      Replied q answer f limit [.asked q] (.error (.connectivity (.timeout d.millis)))

namespace Site

variable {known : ConnectionId → Prop} {I : List Entry → Prop}

/-- A request is asked and answered, unless its deadline comes first. -/
theorem keeps_ask {q : Request} {answer : α → Answer} (x : Job β α) (f : α → Except Error γ)
    (limit : Option Duration) (hasked : I [.asked q]) (hanswered : ∀ a, I (q.answeredBy (answer a))) :
    Keeps (telling known I) (q.Replied answer f limit)
      (withDeadline limit ((ofDriver (Recorder.forward q answer x)).bind fun a => .done (f a))) [] := by
  have hI : ∀ lines, lines = [.asked q] → I lines := fun _ h => h ▸ hasked
  have hbehind : Keeps (telling known (· = [.asked q])) (fun lines _ => lines = [.asked q])
      (ofDriver (Recorder.behind x) : Work (Recorder β) _) [.asked q] :=
    (keeps_still (I := (· = [.asked q])) (still_of_silent (steps_behind x)) rfl).mono fun _ _ h => h.1
  have hask : Keeps (telling known I) (fun lines _ => lines = [.asked q])
      (Job.modify (said (.asked q)) : Work (Recorder β) _) [] := keeps_said rfl hasked
  have hfinish : ∀ a, Keeps (telling known I) (q.Replied answer f limit)
      ((Job.modify (said (.answered q (answer a))) : Work (Recorder β) _).bind fun _ => .done (f a))
      [.asked q] := fun a =>
    (keeps_said rfl (hanswered a)).bind (fun _ => rfl) fun _ _ h => .done (h ▸ .answered a)
  have hprompt : ∀ a, ((Job.modify (said (.answered q (answer a))) : Work (Recorder β) _).bind
      fun _ => .done (f a)).Prompt := fun _ _ => trivial
  rw [ofDriver_forward]
  simp only [Job.bind_assoc, Job.done_bind]
  rw [(Job.prompt_modify _).withDeadline_bind]
  refine hask.bind (fun _ => ?_) fun lines _ hlines => ?_
  · exact Job.isWrite_withDeadline (Job.isWrite_bind (Job.isWrite_zoom _) fun _ => rfl) limit
  · obtain rfl : lines = [.asked q] := hlines
    cases limit with
    | none =>
      exact (keeps_weaken hbehind hI).bind (fun _ => rfl) fun lines a hlines => hlines ▸ hfinish a
    | some d =>
      rw [Job.withDeadline_bind_of_prompt hprompt]
      -- only the wait for the answer can be cut short
      have hcut : Keeps (telling known (· = [.asked q])) (fun lines _ => lines = [.asked q])
          ((ofDriver (Recorder.behind x) : Work (Recorder β) _).deadline d.millisUp) [.asked q] :=
        hbehind.deadline (fun _ _ h => h) (fun _ _ _ h => h.2) _
      refine (keeps_weaken hcut hI).bind (fun a => by cases a <;> rfl) fun lines a hlines => ?_
      subst hlines
      cases a with
      | none => exact .done (.late rfl)
      | some a => exact hfinish a

end Site

/-! ## Connections -/

namespace Selector

variable {holds : Site (Recorder β) → Prop} {known : ConnectionId → Prop}

theorem steps_takeTurn : Steps holds Site.Still (fun _ => True) (takeTurn : Work (Recorder β) _) := by
  have hstep : ∀ s : Site (Recorder β),
      Site.Still s (takeTurn.step s).2 ∧ ∃ turn, (takeTurn.step s).1 = .done turn := by
    intro s
    rw [takeTurn, Job.step]
    cases hsel : s.selector with
    | none => exact ⟨.refl s, _, rfl⟩
    | some sel => exact ⟨⟨rfl, by rw [Site.replicas, Site.replicas, hsel]; rfl, id⟩, _, rfl⟩
  refine Keeps.step rfl (fun s _ => (hstep s).1) fun s _ => ?_
  obtain ⟨turn, hturn⟩ := (hstep s).2
  rw [hturn]
  exact .done trivial

/-- A read is given a replica of the list, if it need not go to the primary. -/
theorem steps_pick (usePrimary : Bool) :
    Steps (Site.Known known) Site.Still (fun picked => ∀ k ∈ picked, usePrimary = false ∧ known k)
      (pick usePrimary : Work (Recorder β) _) := by
  cases usePrimary with
  | true => exact .done nofun
  | false =>
    refine Steps.read (fun s => ?_) fun s hs => ⟨.refl s, ?_⟩
    · cases s.selector with
      | none => rfl
      | some sel =>
        dsimp only
        split <;> rfl
    · have hknown := hs.replicas
      cases hsel : s.selector with
      | none => exact .done nofun
      | some sel =>
        dsimp only
        split
        · exact .done nofun
        · refine steps_takeTurn.bind (fun _ => rfl) fun turn _ => .done fun k hk => ⟨rfl, ?_⟩
          obtain ⟨r, hr, rfl⟩ := Option.map_eq_some_iff.1 hk
          obtain ⟨turn, -, hat⟩ := Option.bind_eq_some_iff.1 hr
          refine hknown r ?_
          rw [Site.replicas, hsel]
          exact List.mem_of_getElem? hat

end Selector

namespace Connection

variable [Driver β] {known : ConnectionId → Prop}

/-- Where a read may go: to the primary, or to a replica that is known. -/
def Serves (known : ConnectionId → Prop) (usePrimary : Bool) : Connection → ConnectionId → Prop
  | single primary, k => k = primary
  | spread primary, k => k = primary ∨ usePrimary = false ∧ known k

theorem steps_reader (c : Connection) (usePrimary : Bool) :
    Steps (Site.Known known) Site.Still (c.Serves known usePrimary)
      (c.reader usePrimary : Work (Recorder β) _) := by
  cases c with
  | single primary => exact .done rfl
  | spread primary =>
    refine (Selector.steps_pick usePrimary).bind (fun _ => rfl) fun picked hpicked => ?_
    refine (Site.still_of_silent (Site.steps_connectionName _)).bind (fun _ => rfl) fun name _ => ?_
    refine (Site.still_of_silent (Site.steps_note _)).bind (fun _ => rfl) fun _ _ => .done ?_
    cases picked with
    | none => exact .inl rfl
    | some k => exact .inr (hpicked k rfl)

variable {I : List Entry → Prop}
  {exec : Query → CallOptions → Work (Recorder β) (Except Error ExecResult)}

/-- A read asks one connection, once. -/
theorem keeps_endpoint_of_isRead {c : Connection} (ctx : Context) (hread : ctx.kind.isRead = true)
    (hnil : I [])
    (hI : ∀ k, c.Serves known ctx.options.usePrimary k →
      I [.asked (.query k ctx.query ctx.options)] ∧
        ∀ a, I ((Request.query k ctx.query ctx.options).answeredBy a)) :
    Keeps (Site.telling known I)
      (fun lines result => ∃ k, c.Serves known ctx.options.usePrimary k ∧
        (Request.query k ctx.query ctx.options).Replied (Answer.ofExcept .rows) (·.map .rows)
          ctx.options.timeout lines result)
      (Session.endpoint c.query exec ctx) [] := by
  rw [endpoint_of_isRead hread]
  refine (Site.keeps_still (c.steps_reader _) hnil).bind (fun k => ?_) fun lines k h => ?_
  · exact Job.isWrite_withDeadline (Job.isWrite_bind (Job.isWrite_zoom _) fun _ => rfl) _
  · obtain ⟨rfl, hk⟩ := h
    exact (Site.keeps_ask _ _ _ (hI k hk).1 fun a => (hI k hk).2 _).mono fun _ _ h => ⟨k, hk, h⟩

end Connection

/-! ## Interceptors that pass statements on -/

/-- Work that neither asks the driver for anything nor touches what sessions share. -/
structure Site.Discreet (x : Work (Recorder β) α) : Prop where
  isWrite : x.isWrite = false
  steps : Steps (fun _ => True) Site.Still (fun _ => True) x

/-- An interceptor that hands each statement on as it is, once, and returns what comes of it. It may do
something discreet before and after. -/
def Interceptor.PassesOn (i : Interceptor (Recorder β)) : Prop :=
  ∀ c, ∃ (γ : Type) (before : Work (Recorder β) γ)
      (after : γ → Except Error Output → Work (Recorder β) Unit),
    Site.Discreet before ∧ (∀ g r, Site.Discreet (after g r)) ∧
      ∀ next, i.intercept c next =
        before.bind fun g => (next c).bind fun r => (after g r).bind fun _ => .done r

namespace Interceptor

theorem discreet_done (a : α) : Site.Discreet (.done a : Work (Recorder β) α) := ⟨rfl, .done trivial⟩

theorem passesOn_ofBuiltin [Driver β] (b : BuiltinInterceptor) :
    (ofBuiltin b : Interceptor (Recorder β)).PassesOn := by
  have hnote : ∀ n, Site.Discreet (Site.note n : Work (Recorder β) Unit) := fun n =>
    ⟨rfl, Site.still_of_silent (Site.steps_note n)⟩
  intro c
  cases b with
  | accessLog =>
    refine ⟨Unit, Site.note (accessNote c), fun _ _ => .done (), hnote _,
      fun _ _ => discreet_done (), ?_⟩
    exact fun next => congrArg (Job.bind · (Site.note (accessNote c)))
      (funext fun _ => (Job.bind_done (next c)).symm)
  | costTime =>
    exact ⟨Unit, .done (), fun _ r => Site.note (costNote c r), discreet_done (), fun _ _ => hnote _,
      fun _ => rfl⟩

variable {known : ConnectionId → Prop} {I : List Entry → Prop}

/-- A chain of such interceptors does what its endpoint does. -/
theorem keeps_chain {Q : List Entry → Except Error Output → Prop} (hnil : I [])
    (hQ : ∀ lines r, Q lines r → I lines) {handler : Handler (Recorder β)} {c : Context}
    (hwrite : (handler c).isWrite = false) (hhandler : Keeps (Site.telling known I) Q (handler c) [])
    (is : List (Interceptor (Recorder β))) (hpass : ∀ i ∈ is, i.PassesOn) :
    (chain is handler c).isWrite = false ∧ Keeps (Site.telling known I) Q (chain is handler c) [] := by
  have hdiscreet : ∀ {α : Type} {x : Work (Recorder β) α} {lines}, Site.Discreet x → I lines →
      Keeps (Site.telling known I) (fun es _ => es = lines) x lines := fun hx hlines =>
    (Site.keeps_still (hx.steps.narrow fun _ _ => trivial) hlines).mono fun _ _ h => h.1
  induction is with
  | nil => exact ⟨hwrite, hhandler⟩
  | cons i is ih =>
    obtain ⟨hchain, hkeeps⟩ := ih fun i hi => hpass i (List.mem_cons_of_mem _ hi)
    obtain ⟨γ, before, after, hbefore, hafter, heq⟩ := hpass i List.mem_cons_self c
    have hafterWrite : ∀ g r,
        ((after g r).bind fun _ => .done r : Work (Recorder β) _).isWrite = false :=
      fun g r => Job.isWrite_bind (hafter g r).isWrite fun _ => rfl
    have hrest : ∀ g, ((chain is handler c).bind fun r =>
        (after g r).bind fun _ => .done r).isWrite = false :=
      fun g => Job.isWrite_bind hchain (hafterWrite g)
    rw [chain_cons, heq]
    refine ⟨Job.isWrite_bind hbefore.isWrite hrest, ?_⟩
    refine (hdiscreet hbefore hnil).bind hrest fun lines g hlines => ?_
    subst hlines
    refine hkeeps.bind (hafterWrite g) fun lines r hr => ?_
    refine (hdiscreet (hafter g r) (hQ _ _ hr)).bind (fun _ => rfl) fun es _ hes => .done ?_
    exact hes ▸ hr

end Interceptor

/-- A read that is passed on asks one connection, once. -/
theorem Session.keeps_dispatchTo [Driver β] {known : ConnectionId → Prop} {I : List Entry → Prop}
    {core : Core (Recorder β)} (hpass : ∀ i ∈ core.interceptors, i.PassesOn) {c : Connection}
    {k : StatementKind} (hread : k.isRead = true) (table : String) (q : Query) {o o' : CallOptions}
    (ho : o' = o.orDefaultTimeout core.defaultTimeout) (hnil : I [])
    (hI : ∀ target, c.Serves known o'.usePrimary target →
      I [.asked (.query target q o')] ∧ ∀ a, I ((Request.query target q o').answeredBy a)) :
    (dispatchTo core (endpoint c.query c.exec) ⟨k, table, q, o⟩).isWrite = false ∧
      Keeps (Site.telling known I)
        (fun lines result => ∃ target, c.Serves known o'.usePrimary target ∧
          (Request.query target q o').Replied (Answer.ofExcept .rows) (·.map .rows) o'.timeout
            lines result)
        (dispatchTo core (endpoint c.query c.exec) ⟨k, table, q, o⟩) [] := by
  subst ho
  refine Interceptor.keeps_chain hnil (fun lines r h => ?_) ?_ ?_ core.interceptors hpass
  · obtain ⟨target, htarget, hr⟩ := h
    cases hr with
    | answered r => exact (hI target htarget).2 _
    | late => exact (hI target htarget).1
  · exact isWrite_endpoint c.isWrite_query (fun _ _ => Job.isWrite_zoom _) _
  · exact Connection.keeps_endpoint_of_isRead ⟨k, table, q, _⟩ hread hnil hI

/-! ## Sharded reads -/

namespace Database

variable {ρ : Type} [Stored ρ]

/-- How the statement of one target ends, and its lines: it is sent once to a connection of the target,
and its answer is read, or is not waited for any longer. -/
inductive TargetRun (db : Database (Recorder β)) (ρ : Type) [Stored ρ] (m : TableModel)
    (o : CallOptions) (known : ConnectionId → Prop) (p : Target × Query) :
    List Entry → Except Error (List ρ) → Prop where
  | read {k : ConnectionId} (r : Except Error Rows) :
      (db.connectionFor p.1).Serves known o.usePrimary k →
      TargetRun db ρ m o known p ((Request.query k p.2 o).answeredBy (.ofExcept .rows r))
        (r.bind fun rows => db.core.materializer.materializeAll ρ m rows)
  | late {k : ConnectionId} {d : Duration} : (db.connectionFor p.1).Serves known o.usePrimary k →
      o.timeout = some d →
      TargetRun db ρ m o known p [.asked (.query k p.2 o)] (.error (.connectivity (.timeout d.millis)))

/-- A statement of one of some targets, for a connection of that target. -/
def IsFor (db : Database (Recorder β)) (o : CallOptions) (known : ConnectionId → Prop)
    (qs : List (Target × Query)) (q : Request) : Prop :=
  ∃ p ∈ qs, ∃ k, (db.connectionFor p.1).Serves known o.usePrimary k ∧ q = .query k p.2 o

/-- A caller that asks for nothing else. -/
abbrev asking (db : Database (Recorder β)) (o : CallOptions) (known : ConnectionId → Prop)
    (qs : List (Target × Query)) : Job.Rules (Site (Recorder β)) (List Entry) :=
  Site.telling known fun lines => ∀ e ∈ lines, db.IsFor o known qs e.request

variable [Driver β] {db : Database (Recorder β)} {known : ConnectionId → Prop} {m : TableModel}
  {c : Clauses} {a : Placement} {qs : List (Target × Query)}

theorem keeps_runTarget (hpass : ∀ i ∈ db.core.interceptors, i.PassesOn) {p : Target × Query}
    (hp : p ∈ qs) {o o' : CallOptions} (ho : o' = o.orDefaultTimeout db.core.defaultTimeout) :
    (db.runTarget ρ m o p).isWrite = false ∧
      Keeps (db.asking o' known qs) (db.TargetRun ρ m o' known p) (db.runTarget ρ m o p) [] := by
  have hall : ∀ k, (db.connectionFor p.1).Serves known o'.usePrimary k →
      (∀ e ∈ [Entry.asked (.query k p.2 o')], db.IsFor o' known qs e.request) ∧
        ∀ r, ∀ e ∈ (Request.query k p.2 o').answeredBy r, db.IsFor o' known qs e.request := by
    intro k hk
    have hfor : db.IsFor o' known qs (.query k p.2 o') := ⟨p, hp, k, hk, rfl⟩
    simp [Request.answeredBy, Entry.request, hfor]
  obtain ⟨hwrite, hkeeps⟩ := Session.keeps_dispatchTo
    (I := fun lines => ∀ e ∈ lines, db.IsFor o' known qs e.request) (k := .select) hpass rfl
    p.1.text p.2 ho (fun _ he => absurd he List.not_mem_nil) hall
  refine ⟨Session.isWrite_andThen hwrite fun _ => rfl, ?_⟩
  refine Session.keeps_andThen (hkeeps.mono fun lines result h => ?_) fun _ => rfl
  obtain ⟨k, hk, hr⟩ := h
  cases hr with
  | answered r =>
    cases r with
    | error e =>
      refine ⟨fun e' he => ?_, nofun⟩
      cases he
      exact .read (.error e) hk
    | ok rows =>
      refine ⟨nofun, fun output houtput => .done ?_⟩
      cases houtput
      exact .read (.ok rows) hk
  | late hd =>
    refine ⟨fun e he => ?_, nofun⟩
    cases he
    exact .late hk hd

theorem keeps_buildSharded {I : List Entry → Prop} {t : MappedType} (ha : db.core.scheme = some a)
    (hm : t.model = .ok m) (hqs : c.selectSharded a m = .ok qs) {lines : List Entry} (hI : I lines) :
    Keeps (Site.telling known I) (fun es result => es = lines ∧ result = .ok qs)
      (db.buildSharded t c : Work (Recorder β) _) lines := by
  rw [buildSharded, ha]
  refine Session.keeps_andThen ((Site.keeps_modelOf t hI).mono fun es result h => ?_) fun _ => rfl
  obtain ⟨rfl, rfl⟩ := h
  rw [hm]
  exact ⟨nofun, fun m' hm' => .done ⟨rfl, Except.ok.inj hm' ▸ hqs⟩⟩

theorem isWrite_buildSharded (db : Database β) (t : MappedType) (c : Clauses) :
    (db.buildSharded t c).isWrite = false := by
  rw [buildSharded]
  split <;> rfl

/-- A sharded read runs the statements of its targets at a time. -/
theorem keeps_selectSharded (known : ConnectionId → Prop)
    (hpass : ∀ i ∈ db.core.interceptors, i.PassesOn) (ha : db.core.scheme = some a)
    (hm : (Stored.mapped ρ).model = .ok m) (hqs : c.selectSharded a m = .ok qs) {o : CallOptions}
    (ho : o = c.options.orDefaultTimeout db.core.defaultTimeout) :
    Keeps (db.asking o known qs)
      (fun lines result => (∀ e ∈ lines, db.IsFor o known qs e.request) ∧
        ∃ found, Job.Gathered (db.TargetRun ρ m o known) qs lines found ∧
          result = found.map List.flatten)
      (db.selectSharded ρ c) [] := by
  have hnil : ∀ e ∈ ([] : List Entry), db.IsFor o known qs e.request := nofun
  have hruns : ∀ p ∈ qs, (db.runTarget ρ m c.options p).isWrite = false ∧
      Keeps (db.asking o known qs) (db.TargetRun ρ m o known p) (db.runTarget ρ m c.options p) [] :=
    fun p hp => keeps_runTarget hpass hp ho
  have hwrite : (Job.together (qs.map (db.runTarget ρ m c.options))).isWrite = false := by
    refine Job.isWrite_together fun x hx => ?_
    obtain ⟨p, hp, rfl⟩ := List.mem_map.1 hx
    exact (hruns p hp).1
  refine Session.keeps_andThen ((Site.keeps_modelOf _ hnil).mono fun lines result h => ?_) fun _ => ?_
  · obtain ⟨rfl, rfl⟩ := h
    rw [hm]
    refine ⟨nofun, fun m' hm' => ?_⟩
    cases hm'
    refine Session.keeps_andThen ((keeps_buildSharded ha hm hqs hnil).mono fun lines result h => ?_)
      fun _ => rfl
    obtain ⟨rfl, rfl⟩ := h
    refine ⟨nofun, fun qs' hqs' => ?_⟩
    cases hqs'
    refine (Site.keeps_note _ hnil).bind (fun _ => ?_) fun lines _ hlines => ?_
    · exact Job.isWrite_bind hwrite fun _ => rfl
    · subst hlines
      refine (Job.Keeps.together (Site.merges_telling _) hnil qs hruns).bind (fun _ => rfl)
        fun lines found h => .done ?_
      exact ⟨h.1, found, h.2, rfl⟩
  · exact Session.isWrite_andThen (isWrite_buildSharded db _ c) fun _ => rfl

/-- A sharded read whose statements can be built comes to an end. However others change the state
between its steps and in whatever order its targets are answered: if it succeeds, the statement of each
target has been sent once to a connection of the target, nothing else is in the log, and the records
are those of the targets in ascending order; if it fails, it fails with the error of one of them. -/
theorem selectSharded_asks_each_target (known : ConnectionId → Prop) {s : Site (Recorder β)}
    (hpass : ∀ i ∈ db.core.interceptors, i.PassesOn) (ha : db.core.scheme = some a)
    (hs : s.registry.Valid) (hqs : ((db.buildSharded (Stored.mapped ρ) c).run s).1 = .ok qs) :
    let o := c.options.orDefaultTimeout db.core.defaultTimeout
    TargetSet.Ascending (qs.map (·.1)) ∧
    (∀ s : Site (Recorder β), s.Known known → ∃ lines, (db.selectSharded ρ c).Leads
      (Site.Known known) Site.told [] ((db.selectSharded ρ c).run s).1 lines) ∧
    ∃ m, ofDescriptor (Record.descriptor ρ) = .ok m ∧ a.route m c.condition = .ok (qs.map (·.1)) ∧
      ∀ result lines, (db.selectSharded ρ c).Leads (Site.Known known) Site.told [] result lines →
        (∀ e ∈ lines, db.IsFor o known qs e.request) ∧
        (∀ records, result = .ok records → ∃ ends : List (List Entry × List ρ),
          List.Forall₂ (fun p e => db.TargetRun ρ m o known p e.1 (.ok e.2)) qs ends ∧
            lines.Perm (ends.flatMap (·.1)) ∧ records = ends.flatMap (·.2)) ∧
        ∀ e, result = .error e → ∃ p ∈ qs, ∃ own rest,
          db.TargetRun ρ m o known p own (.error e) ∧ lines.Perm (own ++ rest) := by
  intro o
  rw [run_buildSharded ha hs] at hqs
  cases hm : (Stored.mapped ρ).model with
  | error e => simp [hm, Except.bind] at hqs
  | ok m =>
    rw [hm] at hqs
    obtain ⟨hroute, -⟩ := Clauses.selectSharded_eq_ok_iff_select.1 hqs
    have hkeeps := keeps_selectSharded known hpass ha hm hqs (o := o) rfl
    refine ⟨Placement.ascending_route hroute, fun s hs => ?_, m, Stored.ofDescriptor_of_model hm,
      hroute, fun result lines h => ?_⟩
    · exact hkeeps.exists_leads (fun _ _ _ h => h.1) hs
    · obtain ⟨hlines, found, hfound, rfl⟩ := hkeeps.of_leads h
      refine ⟨hlines, fun records hrecords => ?_, fun e he => ?_⟩
      · cases hfound with
        | @all ends hends hmixed =>
          exact ⟨ends, hends, hmixed, by simpa [Except.map, List.flatMap_def, eq_comm] using hrecords⟩
        | one => cases hrecords
      · cases hfound with
        | all => cases he
        | @one p own rest e' hp hown hmixed =>
          cases he
          exact ⟨p, hp, own, rest, hown, hmixed⟩

/-- Orders that are kept in two places: one registered for its database and slow to answer, and the
connection of everything else. -/
def slowOrders : Database (Recorder Simulation) where
  core := {
    interceptors := [.ofBuiltin .accessLog, .ofBuiltin .costTime]
    scheme := some HashScheme.orderScheme }
  connection := .single 0
  shards := [("order_db_1", 1)]

def slowSite : Site (Recorder Simulation) :=
  ⟨{}, none, { base := { connections := #[
    { name := "primary", behavior := { rows := ⟨["amount"], [[.int 7]]⟩ } },
    { name := "shard", behavior := { rows := ⟨["amount"], [[.int 5], [.int 6]]⟩, delay := 20 } }] } }⟩

/-- The target that is answered last comes first. -/
theorem selectSharded_asks_each_target_orders :
    (∀ i ∈ slowOrders.core.interceptors, i.PassesOn) ∧ slowSite.Known (fun _ => False) ∧
    ∃ qs, ((slowOrders.buildSharded orderType orderSearch).run slowSite).1 = .ok qs ∧
      qs.map (·.1) = [⟨"order_db_1", "order_tab_1"⟩, ⟨"order_db_2", "order_tab_0"⟩] ∧
      ∃ records lines, (slowOrders.selectSharded (Entity orderType) orderSearch).Leads
          (Site.Known fun _ => False) Site.told [] (.ok records) lines ∧
        records.map (·.values) =
          [[.int 0, .int 5, .null], [.int 0, .int 6, .null], [.int 0, .int 7, .null]] ∧
        ∃ ends : List (List Entry × List (Entity orderType)),
          List.Forall₂ (fun p e => slowOrders.TargetRun (Entity orderType) orderModel {}
            (fun _ => False) p e.1 (.ok e.2)) qs ends ∧
          lines.Perm (ends.flatMap (·.1)) ∧ records = ends.flatMap (·.2) := by
  have hpass : ∀ i ∈ slowOrders.core.interceptors, i.PassesOn := by
    intro i hi
    rcases List.mem_cons.1 hi with rfl | hi
    · exact Interceptor.passesOn_ofBuiltin .accessLog
    · rw [List.mem_singleton.1 hi]
      exact Interceptor.passesOn_ofBuiltin .costTime
  have hs : slowSite.Known (fun _ => False) := ⟨Registry.valid_empty, nofun⟩
  have hbuild : ∃ qs, ((slowOrders.buildSharded (Stored.mapped (Entity orderType)) orderSearch).run
      slowSite).1 = .ok qs := ⟨_, rfl⟩
  obtain ⟨qs, hqs⟩ := hbuild
  obtain ⟨-, hends, m, hm, hroute, hall⟩ :=
    selectSharded_asks_each_target (fun _ => False) hpass rfl hs.registry hqs
  obtain rfl : orderModel = m := Except.ok.inj (ofDescriptor_orderType.symm.trans hm)
  obtain ⟨lines, hlines⟩ := hends slowSite hs
  have hrun : ((slowOrders.selectSharded (Entity orderType) orderSearch).run slowSite).1.toOption.map
      (·.map (·.values)) =
        some [[.int 0, .int 5, .null], [.int 0, .int 6, .null], [.int 0, .int 7, .null]] := by
    decide +kernel
  cases hresult : ((slowOrders.selectSharded (Entity orderType) orderSearch).run slowSite).1 with
  | error e => simp [hresult, Except.toOption] at hrun
  | ok records =>
    rw [hresult] at hlines hrun
    exact ⟨hpass, hs, qs, hqs, (Except.ok.inj hroute).symm, records, lines, hlines,
      Option.some.inj hrun, (hall _ _ hlines).2.1 records rfl⟩

end Database

end EntityStore
