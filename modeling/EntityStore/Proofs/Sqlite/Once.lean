import EntityStore.Proofs.Sqlite.Workers

/-!
# A handle finishes once

What the holder of a transaction asks the store for are the actions of the errands that the handle
sends (`Engine.sent`), and the ROLLBACK with which a holder may let go (`Engine.letGo_eq`). An errand
that was sent is never taken back.

Everybody else may do whatever they like as long as they use another handle, and the statements may
turn out as they will: that changes neither the handle nor what it has sent (`Engine.Leaves`), be it
errands that go on, time that passes or calls on other handles (`Engine.absorbs_leaves`,
`Engine.only_leaves`). A call itself is over for the handle when its caller begins to wait
(`Engine.untilWait_call_of_live`); what is left of it only looks at the answer.

A course is any sequence of calls on one handle among all this (`Engine.Course`). `Course.sent_eq` says
what was sent in it, and `Course.finishes_once` that the transaction is finished once.
-/

namespace EntityStore.Sqlite

/-- The action of an errand on a transaction. -/
def Task.action? (t : TransactionId) (task : Task) : Option Action :=
  match task.errand with
  | .within u a => if u = t then some a else none
  | _ => none

namespace Call

/-- What comes back from a call. -/
def Result : Call → Type
  | query _ => Rows
  | exec _ => ExecResult
  | _ => Unit

/-- The result of a call, as it is told by the reply to its errand. -/
def answer : (c : Call) → Reply → c.Result
  | query _ => Reply.toRows
  | exec _ => Reply.toResult
  | commit => fun _ => ()
  | rollback => fun _ => ()
  | release => fun _ => ()

/-- A call on a transaction as it is made to the driver. -/
def job (t : TransactionId) : (c : Call) → Job Engine (Except Error c.Result)
  | query q => Driver.queryIn t q
  | exec q => Driver.execIn t q
  | commit => Driver.commit t
  | rollback => Driver.rollback t
  | release => (Driver.release t).bind fun _ => .done (.ok ())

theorem job_eq (t : TransactionId) {c : Call} (hc : c ≠ .release) :
    c.job t = Engine.call t c c.answer := by
  cases c with
  | release => exact absurd rfl hc
  | query q => rfl
  | exec q => rfl
  | commit => rfl
  | rollback => rfl

end Call

namespace Handle

/-! ## Handles -/

/-- What letting go does on the connection after some calls. -/
def last (calls : List Call) : Option Action :=
  if calls.all Call.isStatement then some .rollback else none

/-- After some calls a handle is live iff it was before and all of them are statements. -/
theorem actions_append (h : Handle) (calls later : List Call) :
    h.actions (calls ++ later) =
      h.actions calls ++ actions ⟨h.live && calls.all Call.isStatement⟩ later := by
  induction calls generalizing h with
  | nil => simp
  | cons c calls ih =>
    cases hl : h.live with
    | false => simp [actions_of_not_live hl, actions_of_not_live (h := ⟨false⟩) rfl]
    | true =>
      rw [List.cons_append, actions_cons_of_live hl, actions_cons_of_live hl, ih, List.all_cons,
        Bool.true_and, List.cons_append]

theorem actions_of_statements {calls : List Call} (h : ∀ c ∈ calls, c.isStatement = true) :
    actions {} calls = calls.map Call.action := by
  induction calls with
  | nil => rfl
  | cons c calls ih =>
    obtain ⟨hc, hrest⟩ := List.forall_mem_cons.1 h
    rw [actions_cons_of_live rfl, hc, List.map_cons]
    exact congrArg (c.action :: ·) (ih hrest)

/-- The actions of calls are those up to the first call that is no statement. -/
theorem actions_of_ending {before later : List Call} {c : Call}
    (hbefore : ∀ b ∈ before, b.isStatement = true) (hc : c.isStatement = false) :
    actions {} (before ++ c :: later) = before.map Call.action ++ [c.action] := by
  have hall : before.all Call.isStatement = true := List.all_eq_true.2 hbefore
  have hlive : (⟨({} : Handle).live && before.all Call.isStatement⟩ : Handle).live = true := hall
  rw [actions_append, actions_of_statements hbefore, actions_cons_of_live hlive, hc,
    actions_of_not_live rfl]

/-- Exactly one of the actions of calls, with that of letting go, ends the transaction. -/
theorem endings_eq_one (calls : List Call) :
    (actions {} calls ++ (last calls).toList).countP (fun a => !a.isStatement) = 1 := by
  induction calls with
  | nil => rfl
  | cons c calls ih =>
    rw [actions_cons_of_live rfl, last, List.all_cons, List.cons_append, List.countP_cons,
      Call.isStatement_action]
    cases hc : c.isStatement with
    | true => exact ih
    | false =>
      rw [actions_of_not_live rfl]
      rfl

end Handle

namespace Engine

/-- The actions that the store was asked for by the handle of a transaction, in this order. -/
def sent (e : Engine) (t : TransactionId) : List Action := e.tasks.toList.filterMap (Task.action? t)

/-- The transaction is there, and its handle and what that has sent are as they were. -/
def Leaves (t : TransactionId) (e e' : Engine) : Prop :=
  t < e.leases.size →
    t < e'.leases.size ∧ (e'.lease t).handle = (e.lease t).handle ∧ e'.sent t = e.sent t

variable {e e' e₀ : Engine} {t u : TransactionId} {c : Call} {calls : List Call}

/-! ## What others do -/

theorem absorbs_leaves (t : TransactionId) : Absorbs (Leaves t) where
  trans h h' ht := by
    obtain ⟨ht', hhandle, hsent⟩ := h ht
    obtain ⟨ht'', hhandle', hsent'⟩ := h' ht'
    exact ⟨ht'', hhandle'.trans hhandle, hsent'.trans hsent⟩
  keeps h ht := ⟨ht.trans_le h.grows, by rw [h.lease t ht], by rw [sent, h.tasks]; rfl⟩
  setStage hi _ stage ht := by
    refine ⟨ht, rfl, ?_⟩
    rw [sent, setStage, Array.toList_modify]
    exact filterMap_modify_of_eq fun _ _ => rfl

theorem sent_push (e : Engine) (x : Errand) (t : TransactionId) :
    ({ e with tasks := e.tasks.push { errand := x } } : Engine).sent t =
      e.sent t ++ (Task.action? t { errand := x }).toList := by
  unfold sent
  rw [Array.toList_push, List.filterMap_append]
  cases h : Task.action? t { errand := x } <;> simp [h]

/-- Somebody is sent elsewhere. -/
theorem leaves_push {x : Errand} (hx : Task.action? t { errand := x } = none) (e : Engine) :
    Leaves t e { e with tasks := e.tasks.push { errand := x } } := by
  intro ht
  refine ⟨ht, rfl, ?_⟩
  rw [sent_push, hx, Option.toList_none, List.append_nil]

theorem leaves_setLease (hne : u ≠ t) (e : Engine) (l : Lease) : Leaves t e (e.setLease u l) := by
  intro ht
  refine ⟨by rwa [setLease, Array.size_modify], ?_, rfl⟩
  rw [lease_setLease_of_ne hne]

/-- A call on another handle. -/
theorem only_leaves_call {α : Type} (hne : u ≠ t) (c : Call) (answer : Reply → α) (e : Engine) :
    (call u c answer).Only (Leaves t) e := by
  refine only_call_of_live (fun _ => ?_) answer
  have hx : Task.action? t { errand := .within u c.action } = none := if_neg hne
  exact (absorbs_leaves t).trans (leaves_setLease hne e _)
    ((absorbs_leaves t).trans (leaves_push hx _) ((absorbs_leaves t).settled _))

theorem leaves_letGo (hne : u ≠ t) (e : Engine) : Leaves t e (e.letGo u) := by
  have hR := absorbs_leaves t
  have hrest : ∀ (e : Engine) l, Leaves t e ((e.setLease u l).vacate u).settled := fun e l =>
    hR.trans (hR.trans (leaves_setLease hne e l) (hR.keeps (keeps_vacate _ u))) (hR.settled _)
  cases hl : (e.lease u).handle.live with
  | false =>
    rw [letGo_of_not_live hl]
    exact hrest e _
  | true =>
    rw [letGo_of_live hl]
    obtain ⟨htasks, hleases⟩ := tryOn_frame e (e.lease u).pool
      (·.perform (e.lease u).connection .rollback)
    exact hR.trans (hR.keeps (keeps_of_eq htasks hleases)) (hrest _ _)

/-- Whatever is asked of an engine on its connections or on another handle leaves the transaction. -/
theorem only_leaves (t : TransactionId) (e : Engine) :
    (∀ name dsn, (Driver.connect (β := Engine) name dsn).Only (Leaves t) e) ∧
      (∀ domain port, (Driver.resolve (β := Engine) domain port).Only (Leaves t) e) ∧
      (∀ c q o, (Driver.query (β := Engine) c q o).Only (Leaves t) e) ∧
      (∀ c q o, (Driver.exec (β := Engine) c q o).Only (Leaves t) e) ∧
      (∀ c, (Driver.beginOn (β := Engine) c).Only (Leaves t) e) ∧
      ∀ u ≠ t, ∀ c : Call, (c.job u).Only (Leaves t) e := by
  have hR := absorbs_leaves t
  refine ⟨fun name dsn => hR.only_connect name dsn e, fun _ _ => trivial, fun c q _ => ?_,
    fun c q _ => ?_, fun c => ?_, fun u hne c => ?_⟩
  · exact hR.only_send (leaves_push rfl e) _
  · exact hR.only_send (leaves_push rfl e) _
  · exact hR.only_send (leaves_push rfl e) _
  · by_cases hc : c = .release
    · subst hc
      exact (only_release (leaves_letGo hne) e).bind fun _ _ => trivial
    · rw [Call.job_eq u hc]
      exact only_leaves_call hne c _ e

/-! ## Calls on the handle -/

theorem untilWait_call_of_not_live {α : Type} (hl : (e.lease t).handle.live = false) (c : Call)
    (answer : Reply → α) :
    (call t c answer).untilWait e = (.inl (.error .invalidTransaction), e) := by
  simp only [call, Job.untilWait, Handle.start_of_not_live c hl]

/-- A call that is let through sends its errand at once. What is left of it changes nothing, so it is
all the same whether the caller waits for the answer. -/
theorem untilWait_call_of_live {α : Type} (hl : (e.lease t).handle.live = true) (c : Call)
    (answer : Reply → α) :
    ∃ rest, (call t c answer).untilWait e =
        (.inr rest, (e.setLease t { e.lease t with handle := ⟨c.isStatement⟩ }).sending
          (.within t c.action)) ∧
      ∀ e', rest.Only (fun _ _ => False) e' := by
  simp only [call, Job.untilWait, Handle.start_of_live c hl, sendFrom]
  exact ⟨_, rfl, fun _ => trivial⟩

/-- What the handle has sent after a call, and whether it is live still. -/
theorem after_call (ht : t < e.leases.size) (hc : c ≠ .release) :
    t < ((c.job t).untilWait e).2.leases.size ∧
      (((c.job t).untilWait e).2.lease t).handle = ((e.lease t).handle.start c).2 ∧
      ((c.job t).untilWait e).2.sent t = e.sent t ++ ((e.lease t).handle.start c).1.toList := by
  rw [Call.job_eq t hc]
  cases hl : (e.lease t).handle.live with
  | false =>
    rw [untilWait_call_of_not_live hl, Handle.start_of_not_live c hl]
    exact ⟨ht, rfl, (List.append_nil _).symm⟩
  | true =>
    obtain ⟨rest, hcall, -⟩ := untilWait_call_of_live hl c c.answer
    rw [hcall, Handle.start_of_live c hl]
    have ht' : t < (e.setLease t { e.lease t with handle := ⟨c.isStatement⟩ }).leases.size := by
      rwa [setLease, Array.size_modify]
    obtain ⟨hsize, hhandle, hsent⟩ := (absorbs_leaves t).settled { e.setLease t
      { e.lease t with handle := ⟨c.isStatement⟩ } with
        tasks := e.tasks.push { errand := .within t c.action } } ht'
    have hown : Task.action? t { errand := .within t c.action } = some c.action := if_pos rfl
    refine ⟨hsize, hhandle.trans ?_, hsent.trans ?_⟩
    · exact congrArg Lease.handle (lease_setLease_self ht _)
    · exact (sent_push e _ t).trans (by rw [hown])

/-- The engine after the holder of a transaction has let go, which takes an action on the connection
first if there is one. -/
def leftBy (e : Engine) (t : TransactionId) (a : Option Action) : Engine :=
  let l := e.lease t
  let acted := a.elim e fun a => (e.perform l.pool l.connection a).2
  ((acted.setLease t { l with handle := ⟨false⟩, held := false }).vacate t).settled

theorem letGo_eq (e : Engine) (t : TransactionId) :
    e.letGo t = e.leftBy t ((e.lease t).handle.start .release).1 := by
  cases hl : (e.lease t).handle.live with
  | false =>
    have hhandle : (e.lease t).handle = ⟨false⟩ := by
      rw [← hl]
    rw [letGo_of_not_live hl, Handle.start_of_not_live _ hl, leftBy, ← hhandle]
    rfl
  | true =>
    rw [letGo_of_live hl, Handle.start_of_live _ hl]
    rfl

/-- Who lets go does so in the engine that others leave behind while the connection is in use. -/
theorem ends_release (h : (Driver.release t).Ends (Leaves t) e () e') :
    ∃ e₁, Leaves t e e₁ ∧ e' = e₁.letGo t := by
  have hmodify : ∀ {e₁ : Engine},
      (Job.modify fun e : Engine => e.letGo t).Ends (Leaves t) e₁ () e' → e' = e₁.letGo t := by
    intro e₁ h
    rw [Job.modify, Job.ends_read_iff, Job.ends_write_iff, Job.ends_done_iff] at h
    exact h.2
  change (release t).Ends (Leaves t) e () e' at h
  rw [release, Job.ends_read_iff] at h
  dsimp only at h
  split at h
  · cases h with
    | wait hothers h => exact ⟨_, hothers, hmodify h⟩
  · exact ⟨e, (absorbs_leaves t).refl e, hmodify h⟩

/-! ## Courses -/

/-- A transaction that has begun and whose handle has not been used. -/
structure Begun (t : TransactionId) (e : Engine) : Prop where
  begun : t < e.leases.size
  handle : (e.lease t).handle = {}
  sent : e.sent t = []

/-- Calls on the handle of a transaction, in the order in which they start, and what has become of the
engine by then. The caller of a call may wait for the answer or not. -/
inductive Course (t : TransactionId) (e₀ : Engine) : List Call → Engine → Prop where
  | nil : Course t e₀ [] e₀
  | call {calls : List Call} {e : Engine} {c : Call} : Course t e₀ calls e → c ≠ .release →
    Course t e₀ (calls ++ [c]) ((c.job t).untilWait e).2
  | others {calls : List Call} {e e' : Engine} : Course t e₀ calls e → Leaves t e e' →
    Course t e₀ calls e'

namespace Course

/-- The handle is live as long as all calls are statements, and it has sent their actions up to the
first that is none. -/
theorem sent_eq (h : Course t e₀ calls e) (hbegun : Begun t e₀) :
    t < e.leases.size ∧ (e.lease t).handle = ⟨calls.all Call.isStatement⟩ ∧
      e.sent t = Handle.actions {} calls := by
  induction h with
  | nil => exact ⟨hbegun.begun, hbegun.handle, hbegun.sent⟩
  | others _ hothers ih =>
    obtain ⟨ht, hhandle, hsent⟩ := ih
    obtain ⟨ht', hhandle', hsent'⟩ := hothers ht
    exact ⟨ht', hhandle'.trans hhandle, hsent'.trans hsent⟩
  | @call calls e c _ hc ih =>
    obtain ⟨ht, hhandle, hsent⟩ := ih
    obtain ⟨ht', hhandle', hsent'⟩ := after_call ht hc
    refine ⟨ht', hhandle'.trans ?_, hsent'.trans ?_⟩
    · rw [hhandle, List.all_append]
      cases hl : calls.all Call.isStatement with
      | false => rw [Handle.start_of_not_live c rfl]; rfl
      | true => simp [Handle.start_of_live (h := ⟨true⟩) c rfl]
    · rw [hhandle, hsent, Handle.actions_append]
      simp [Handle.actions]

/-- In any course of calls on a handle of a transaction that has begun, and whoever then lets go of it:

* at most one of the actions that are sent ends the transaction, also if that of letting go counts;
* the first call that is no statement sends its action, and nothing is sent behind it;
* every call that starts later is refused and changes nothing;
* letting go, once it comes to its end, took a ROLLBACK on the connection iff all calls were
  statements, and else no action. -/
theorem finishes_once (h : Course t e₀ calls e) (hbegun : Begun t e₀) :
    (e.sent t ++ (Handle.last calls).toList).countP (fun a => !a.isStatement) ≤ 1 ∧
    (∀ before c later, calls = before ++ c :: later → (∀ b ∈ before, b.isStatement = true) →
      c.isStatement = false → e.sent t = before.map Call.action ++ [c.action]) ∧
    ((∃ c ∈ calls, c.isStatement = false) → ∀ c : Call, c ≠ .release →
      (c.job t).untilWait e = (.inl (.error .invalidTransaction), e)) ∧
    ∀ e', (Driver.release t).Ends (Leaves t) e () e' →
      ∃ e₁, Leaves t e e₁ ∧ e' = e₁.leftBy t (Handle.last calls) := by
  obtain ⟨ht, hhandle, hsent⟩ := h.sent_eq hbegun
  refine ⟨?_, ?_, ?_, ?_⟩
  · rw [hsent]
    exact (Handle.endings_eq_one calls).le
  · rintro before c later rfl hbefore hc
    rw [hsent, Handle.actions_of_ending hbefore hc]
  · rintro ⟨d, hd, hending⟩ c hc
    have hl : (e.lease t).handle.live = false := by
      rw [hhandle]
      exact List.all_eq_false.2 ⟨d, hd, by simp [hending]⟩
    rw [Call.job_eq t hc, untilWait_call_of_not_live hl]
  · intro e' hrelease
    obtain ⟨e₁, hothers, rfl⟩ := ends_release hrelease
    obtain ⟨-, hhandle₁, -⟩ := hothers ht
    have hlast : ((e₁.lease t).handle.start .release).1 = Handle.last calls := by
      rw [hhandle₁, hhandle, Handle.last]
      cases calls.all Call.isStatement <;> rfl
    exact ⟨e₁, hothers, by rw [letGo_eq, hlast]⟩

end Course

/-- The engine of `family` once a transaction has begun. -/
def opened : Engine := ((Driver.beginOn (β := Engine) 0).untilWait family).2

/-- A row was added in the transaction, and some time later it was committed by somebody who does not
wait for the answer. -/
def committed : Engine :=
  ((Call.commit.job 0).untilWait ((((Call.exec addParent).job 0).untilWait opened).2.elapse 5)).2

/-- A rollback behind the commit is refused. -/
theorem Course.finishes_once_family :
    Begun 0 opened ∧ Course 0 opened [.exec addParent, .commit] committed ∧
      committed.sent 0 = [.exec addParent, .commit] ∧
      (Call.rollback.job 0).untilWait committed =
        (.inl (.error .invalidTransaction), committed) := by
  have hbegun : Begun 0 opened := ⟨by decide +kernel, by decide +kernel, by decide +kernel⟩
  have hcourse : Course 0 opened [.exec addParent, .commit] committed := by
    have hexec : Course 0 opened [.exec addParent] (((Call.exec addParent).job 0).untilWait opened).2 :=
      .call .nil nofun
    exact .call (.others hexec ((absorbs_leaves 0).elapse 5 _)) nofun
  obtain ⟨-, hsent, hrefused, -⟩ := hcourse.finishes_once hbegun
  exact ⟨hbegun, hcourse, hsent [.exec addParent] .commit [] rfl (by decide) rfl,
    hrefused ⟨.commit, by simp, rfl⟩ .rollback nofun⟩

end Engine

end EntityStore.Sqlite
