import EntityStore.Proofs.Session.Running
import EntityStore.Proofs.Sqlite.InFlight

/-!
# What an engine does to its transactions

An exchange is what can be seen of one transaction in an engine: its handle, and the errands on their
way to its connection (`Engine.exchange`). Whatever an engine does, each of its transactions goes on as
an exchange does: an errand that comes to its end is an action that runs, a call is a start, and the
rest cannot be seen (`Moves`). So `late_eq_nil_iff` speaks of every transaction of every engine.

1. Going on with an errand changes how far this one has come, and no transaction
   (`advance?_cases`). To its own transaction that is an action that runs (`moves_setStage`).
2. A relation in which these changes cannot be told (`Absorbs`) tells neither all errands nor the
   passing of time, by induction on the steps (`Absorbs.settled`, `Absorbs.elapse`).
3. The changes that a driver call makes are moves, whatever happens while it waits (`only_send`,
   `only_call`, `only_release`).
-/

namespace EntityStore

section Lists

variable {α β : Type} {g : α → Option β} {f : α → α}

theorem filterMap_modify_of_eq {l : List α} {i : Nat} (h : ∀ a, l[i]? = some a → g (f a) = g a) :
    (l.modify i f).filterMap g = l.filterMap g := by
  induction l generalizing i with
  | nil => rw [List.modify_nil]
  | cons b l ih =>
    cases i with
    | zero => rw [List.modify_zero_cons, List.filterMap_cons, List.filterMap_cons, h b rfl]
    | succ i => rw [List.modify_succ_cons, List.filterMap_cons, List.filterMap_cons, ih h]

theorem filterMap_modify_of_none {l : List α} {i : Nat} {a : α} {p : β} (hi : l[i]? = some a)
    (ha : g a = some p) (hf : g (f a) = none) :
    ∃ k, (l.filterMap g)[k]? = some p ∧ (l.modify i f).filterMap g = (l.filterMap g).eraseIdx k := by
  induction l generalizing i with
  | nil => cases hi
  | cons b l ih =>
    cases i with
    | zero =>
      cases hi
      refine ⟨0, ?_, ?_⟩
      · rw [List.filterMap_cons, ha]
        rfl
      · rw [List.modify_zero_cons, List.filterMap_cons, List.filterMap_cons, ha, hf]
        rfl
    | succ i =>
      obtain ⟨k, hk, herase⟩ := ih hi
      rw [List.modify_succ_cons, List.filterMap_cons, List.filterMap_cons, herase]
      cases g b with
      | none => exact ⟨k, hk, rfl⟩
      | some q => exact ⟨k + 1, hk, rfl⟩

end Lists

namespace Sqlite

/-- An errand as an action in flight of a transaction. The errand does not know who waits for it. -/
def Task.pending? (t : TransactionId) (task : Task) : Option Pending :=
  match task.errand with
  | .within u a => if u = t ∧ task.stage.isOpen = true then some ⟨a, false⟩ else none
  | _ => none

theorem Task.pending?_setStage {task : Task} (h : task.stage.isOpen = true) (t : TransactionId)
    (stage : Stage) :
    Task.pending? t { task with stage } = if stage.isOpen then task.pending? t else none := by
  obtain ⟨x, old⟩ := task
  cases x with
  | statement c isRead q => simp [pending?]
  | beginOn c => simp [pending?]
  | within u a =>
    have hold : old.isOpen = true := h
    by_cases hu : u = t <;> cases hs : stage.isOpen <;> simp [pending?, hu, hs, hold]

/-- A call that starts and whose caller is forgotten. -/
theorem Exchange.start_abandon {x : Exchange} (hl : x.handle.live = true) {c : Call}
    (hc : c ≠ .release) :
    [.start c, .abandon x.inFlight.length].foldl step x =
      { x with handle := ⟨c.isStatement⟩, inFlight := x.inFlight ++ [⟨c.action, false⟩] } := by
  rw [List.foldl_cons, step_start_of_live hl hc, List.foldl_cons, List.foldl_nil]
  change ({ x with handle := _, inFlight := List.modify _ _ _ } : Exchange) = _
  rw [List.modify_eq_take_drop, List.take_left, List.drop_left]
  rfl

namespace Engine

/-- What can be seen of a transaction, of which some actions ran. -/
def exchange (e : Engine) (t : TransactionId) (ran : List Action) : Exchange where
  handle := (e.lease t).handle
  inFlight := e.tasks.toList.filterMap (Task.pending? t)
  ran := ran

theorem not_awaited (e : Engine) (t : TransactionId) (ran : List Action) :
    (e.exchange t ran).inFlight.any (·.awaited) = false := by
  rw [List.any_eq_false]
  intro p hp
  obtain ⟨⟨x, stage⟩, -, htask⟩ := List.mem_filterMap.mp hp
  cases x with
  | statement c isRead q => cases htask
  | beginOn c => cases htask
  | within u a =>
    unfold Task.pending? at htask
    dsimp only at htask
    split at htask
    · cases htask
      exact Bool.false_ne_true
    · cases htask

/-! ## One errand -/

/-- No errand goes on and no transaction changes, but one may be added. -/
structure Keeps (e e' : Engine) : Prop where
  tasks : e'.tasks = e.tasks
  grows : e.leases.size ≤ e'.leases.size
  lease : ∀ t < e.leases.size, e'.lease t = e.lease t

theorem Keeps.refl (e : Engine) : Keeps e e := ⟨rfl, Nat.le_refl _, fun _ _ => rfl⟩

theorem Keeps.trans {e e' e'' : Engine} (h : Keeps e e') (h' : Keeps e' e'') : Keeps e e'' where
  tasks := h'.tasks.trans h.tasks
  grows := h.grows.trans h'.grows
  lease t ht := (h'.lease t (ht.trans_le h.grows)).trans (h.lease t ht)

theorem keeps_of_eq {e e' : Engine} (htasks : e'.tasks = e.tasks) (hleases : e'.leases = e.leases) :
    Keeps e e' where
  tasks := htasks
  grows := hleases ▸ Nat.le_refl _
  lease t _ := by rw [lease, lease, hleases]

theorem Keeps.setStage {e e' : Engine} (h : Keeps e e') (i : Nat) (stage : Stage) :
    Keeps (e.setStage i stage) (e'.setStage i stage) where
  tasks := congrArg (·.modify i fun task => { task with stage }) h.tasks
  grows := h.grows
  lease := h.lease

/-- What is tried on a store leaves the errands and the transactions alone. -/
theorem tryOn_frame {α : Type} (e : Engine) (c : ConnectionId)
    (attempt : SharedStore → Attempt α × SharedStore) :
    (e.tryOn c attempt).2.tasks = e.tasks ∧ (e.tryOn c attempt).2.leases = e.leases := by
  unfold tryOn
  split <;> exact ⟨rfl, rfl⟩

theorem keeps_tryOn {α : Type} (e : Engine) (c : ConnectionId)
    (attempt : SharedStore → Attempt α × SharedStore) : Keeps e (e.tryOn c attempt).2 :=
  keeps_of_eq (tryOn_frame e c attempt).1 (tryOn_frame e c attempt).2

theorem keeps_begin (e : Engine) (c : ConnectionId) (n : Nat) : Keeps e (e.begin_ c n).2 := by
  have h := keeps_tryOn e c (·.begin_ n)
  unfold begin_
  split
  · next hb =>
    rw [hb] at h
    refine h.trans ⟨rfl, ?_, ?_⟩
    · rw [Array.size_push]
      exact Nat.le_succ _
    · intro t ht
      rw [lease, lease, Array.getElem?_push_lt ht, Array.getElem?_eq_getElem ht]
  · next hb =>
    rw [hb] at h
    exact h
  · next hb =>
    rw [hb] at h
    exact h

theorem keeps_attempt (e : Engine) (n : Nat) (x : Errand) : Keeps e (x.attempt e n).2 := by
  unfold Errand.attempt
  split
  · exact keeps_tryOn ..
  · exact keeps_tryOn ..
  · exact keeps_begin ..
  · exact keeps_tryOn ..

theorem keeps_giveBack (e : Engine) (c : ConnectionId) (n : Nat) : Keeps e (e.giveBack c n) :=
  keeps_of_eq rfl rfl

theorem keeps_vacate (e : Engine) (t : TransactionId) : Keeps e (e.vacate t) := by
  unfold vacate
  dsimp only
  split
  · exact Keeps.refl e
  · exact keeps_giveBack ..

theorem keeps_leave (e : Engine) (n : Nat) (x : Errand) (r : Except Error Reply) :
    Keeps e (e.leave n x r) := by
  unfold leave
  split
  · exact keeps_giveBack ..
  · exact keeps_giveBack ..
  · exact Keeps.refl e
  · exact keeps_vacate ..

theorem keeps_take {e e' : Engine} {c : ConnectionId} {n : Nat} (h : e.take? c = some (n, e')) :
    Keeps e e' := by
  unfold take? at h
  dsimp only at h
  split at h
  · cases h
    exact keeps_of_eq rfl rfl
  · split at h
    · cases h
      exact keeps_of_eq rfl rfl
    · cases h

/-- Who works on an errand ends it or stays blocked. -/
theorem work?_keeps {e e' : Engine} {i : Nat} {x : Errand} {n limit : Nat}
    (h : e.work? i x n limit = some e') : ∃ r, Keeps (e.setStage i (.ended r)) e' := by
  have hattempt := keeps_attempt e n x
  have hend : ∀ e₁ r, Keeps e e₁ → Keeps (e.setStage i (.ended r)) ((e₁.finish i r).leave n x r) := by
    intro e₁ r h₁
    have hfinish : Keeps (e₁.setStage i (.ended r)) (e₁.finish i r) := keeps_of_eq rfl rfl
    exact ((h₁.setStage i (.ended r)).trans hfinish).trans (keeps_leave ..)
  unfold work? at h
  split at h
  · next ha =>
    rw [ha] at hattempt
    cases h
    exact ⟨_, hend _ _ hattempt⟩
  · next ha =>
    rw [ha] at hattempt
    cases h
    exact ⟨_, hend _ _ hattempt⟩
  · next ha =>
    rw [ha] at hattempt
    split at h
    · cases h
      exact ⟨_, hend _ _ hattempt⟩
    · cases h

theorem enter_keeps (e : Engine) (i : Nat) (x : Errand) (n : Nat) :
    ∃ stage, Keeps (e.setStage i stage) (e.enter i x n) := by
  unfold enter
  dsimp only
  cases h : e.work? i x n (e.now + (e.pool (x.pool e)).config.busyTimeoutMs.toNat) with
  | none => exact ⟨_, Keeps.refl _⟩
  | some e' =>
    obtain ⟨r, hr⟩ := work?_keeps h
    exact ⟨_, hr⟩

/-- Going on with an errand changes how far this one has come, and no transaction. -/
theorem advance?_cases {e e' : Engine} {i : Nat} (h : e.advance? i = some e') :
    ∃ task stage, e.tasks[i]? = some task ∧ task.stage.isOpen = true ∧
      Keeps (e.setStage i stage) e' := by
  unfold advance? at h
  split at h
  · next x ht =>
    split at h
    · cases h
    · cases h
      exact ⟨_, _, ht, rfl, keeps_of_eq rfl rfl⟩
  · next x limit ht =>
    split at h
    · next n e₁ htake =>
      cases h
      obtain ⟨stage, hstage⟩ := enter_keeps e₁ i x n
      exact ⟨_, stage, ht, rfl, ((keeps_take htake).setStage i stage).trans hstage⟩
    · split at h
      · cases h
        exact ⟨_, _, ht, rfl, keeps_of_eq rfl rfl⟩
      · cases h
  · next t a ht =>
    split at h
    · cases h
    · cases h
      obtain ⟨stage, hstage⟩ := enter_keeps e i (.within t a) (e.lease t).connection
      exact ⟨_, stage, ht, rfl, hstage⟩
  · next x n limit ht =>
    obtain ⟨r, hr⟩ := work?_keeps h
    exact ⟨_, _, ht, rfl, hr⟩
  · cases h

/-! ## All errands -/

/-- A relation between an engine and what becomes of it, in which errands that go on cannot be told
from engines that stay as they are. -/
structure Absorbs (R : Engine → Engine → Prop) : Prop where
  trans : ∀ {e e' e'' : Engine}, R e e' → R e' e'' → R e e''
  keeps : ∀ {e e' : Engine}, Keeps e e' → R e e'
  setStage : ∀ {e : Engine} {i : Nat} {task : Task}, e.tasks[i]? = some task →
    task.stage.isOpen = true → ∀ stage, R e (e.setStage i stage)

namespace Absorbs

variable {R : Engine → Engine → Prop}

theorem refl (hR : Absorbs R) (e : Engine) : R e e := hR.keeps (Keeps.refl e)

theorem advance? (hR : Absorbs R) {e e' : Engine} {i : Nat} (h : e.advance? i = some e') :
    R e e' := by
  obtain ⟨task, stage, hi, hopen, hkeeps⟩ := advance?_cases h
  exact hR.trans (hR.setStage hi hopen stage) (hR.keeps hkeeps)

theorem settle (hR : Absorbs R) (fuel : Nat) (e : Engine) : R e (settle fuel e) := by
  induction fuel generalizing e with
  | zero => exact hR.refl e
  | succ fuel ih =>
    unfold Engine.settle
    split
    · next e' h =>
      obtain ⟨i, -, hi⟩ := List.exists_of_findSome?_eq_some h
      exact hR.trans (hR.advance? hi) (ih e')
    · exact hR.refl e

theorem settled (hR : Absorbs R) (e : Engine) : R e e.settled := hR.settle _ e

theorem elapseTo (hR : Absorbs R) (target fuel : Nat) (e : Engine) :
    R e (elapseTo target fuel e) := by
  have hnow : ∀ (e : Engine) now, R e { e with now := now } := fun _ _ =>
    hR.keeps (keeps_of_eq rfl rfl)
  induction fuel generalizing e with
  | zero => exact hnow e target
  | succ fuel ih =>
    unfold Engine.elapseTo
    split
    · split
      · exact hR.trans (hR.trans (hnow e _) (hR.settled _)) (ih _)
      · exact hnow e target
    · exact hnow e target

/-- Whatever goes on in an engine while time passes cannot be told either. -/
theorem elapse (hR : Absorbs R) (ms : Nat) (e : Engine) : R e (e.elapse ms) := hR.elapseTo _ _ e

end Absorbs

/-! ## Moves -/

/-- Every transaction goes on as an exchange does. -/
structure Moves (e e' : Engine) : Prop where
  grows : e.leases.size ≤ e'.leases.size
  follows : ∀ t < e.leases.size, ∀ ran, ∃ (events : List Exchange.Event) (ran' : List Action),
    e'.exchange t ran' = events.foldl Exchange.step (e.exchange t ran)

theorem Moves.trans {e e' e'' : Engine} (h : Moves e e') (h' : Moves e' e'') : Moves e e'' where
  grows := h.grows.trans h'.grows
  follows t ht ran := by
    obtain ⟨events, ran', hevents⟩ := h.follows t ht ran
    obtain ⟨events', ran'', hevents'⟩ := h'.follows t (ht.trans_le h.grows) ran'
    refine ⟨events ++ events', ran'', ?_⟩
    rw [List.foldl_append, hevents', hevents]

theorem Keeps.moves {e e' : Engine} (h : Keeps e e') : Moves e e' where
  grows := h.grows
  follows t ht ran := by
    refine ⟨[], ran, ?_⟩
    rw [exchange, h.tasks, h.lease t ht]
    rfl

theorem Moves.refl (e : Engine) : Moves e e := (Keeps.refl e).moves

/-- An errand that goes on is an action that runs if it comes to its end, and else cannot be seen. -/
theorem moves_setStage {e : Engine} {i : Nat} {task : Task} (hi : e.tasks[i]? = some task)
    (hopen : task.stage.isOpen = true) (stage : Stage) : Moves e (e.setStage i stage) where
  grows := Nat.le_refl _
  follows t ht ran := by
    have hstage := Task.pending?_setStage hopen t stage
    have hi' : e.tasks.toList[i]? = some task := by rw [Array.getElem?_toList, hi]
    have hview : ∀ r, (e.setStage i stage).exchange t r =
        ⟨(e.lease t).handle,
          (e.tasks.toList.modify i fun task => { task with stage }).filterMap (Task.pending? t), r⟩ := by
      intro r
      rw [← Array.toList_modify]
      rfl
    -- The errand is on its way still, or it was none of the transaction, or it runs.
    by_cases hsame : Task.pending? t { task with stage } = task.pending? t
    · refine ⟨[], ran, ?_⟩
      rw [hview, filterMap_modify_of_eq]
      · rfl
      · intro task' htask'
        rw [hi'] at htask'
        cases htask'
        exact hsame
    · cases hs : stage.isOpen with
      | true => exact absurd (by rw [hstage, hs, if_pos rfl]) hsame
      | false =>
        rw [hs, if_neg Bool.false_ne_true] at hstage
        cases hp : task.pending? t with
        | none => exact absurd (hstage.trans hp.symm) hsame
        | some p =>
          obtain ⟨k, hk, herase⟩ := filterMap_modify_of_none
            (f := fun task => { task with stage }) hi' hp hstage
          refine ⟨[.run k], ran ++ [p.action], ?_⟩
          change _ = (e.exchange t ran).step (.run k)
          rw [Exchange.step_run hk, hview, herase]
          rfl

theorem absorbs_moves : Absorbs Moves where
  trans h h' := h.trans h'
  keeps h := h.moves
  setStage hi hopen stage := moves_setStage hi hopen stage

/-! ## Driver calls -/

theorem lease_setLease_self {e : Engine} {t : TransactionId} (ht : t < e.leases.size) (l : Lease) :
    (e.setLease t l).lease t = l := by
  unfold lease setLease
  rw [Array.getElem?_modify, if_pos rfl, Array.getElem?_eq_getElem ht]
  rfl

theorem lease_setLease_of_ne {e : Engine} {t u : TransactionId} (h : u ≠ t) (l : Lease) :
    (e.setLease u l).lease t = e.lease t := by
  unfold lease setLease
  rw [Array.getElem?_modify, if_neg h]

/-- A transaction whose lease is changed, if the others go on as exchanges do. -/
theorem moves_setLease {e : Engine} {u : TransactionId} {l : Lease}
    (h : ∀ ran, ∃ events ran', (⟨l.handle, (e.exchange u ran).inFlight, ran'⟩ : Exchange) =
      List.foldl Exchange.step (e.exchange u ran) events) : Moves e (e.setLease u l) where
  grows := by
    rw [setLease, Array.size_modify]
  follows t ht ran := by
    by_cases htu : u = t
    · subst htu
      obtain ⟨events, ran', hevents⟩ := h ran
      refine ⟨events, ran', ?_⟩
      rw [← hevents, exchange, lease_setLease_self ht]
      rfl
    · refine ⟨[], ran, ?_⟩
      rw [exchange, lease_setLease_of_ne htu]
      rfl

theorem exchange_push (e : Engine) (x : Errand) (t : TransactionId) (ran : List Action) :
    ({ e with tasks := e.tasks.push { errand := x } } : Engine).exchange t ran =
      { e.exchange t ran with
        inFlight := (e.exchange t ran).inFlight ++ (Task.pending? t { errand := x }).toList } := by
  unfold exchange
  rw [Array.toList_push, List.filterMap_append]
  cases h : Task.pending? t { errand := x } <;> simp [h] <;> rfl

theorem Absorbs.only_send {R : Engine → Engine → Prop} (hR : Absorbs R) {α : Type} {x : Errand}
    {e : Engine} (hpush : R e { e with tasks := e.tasks.push { errand := x } })
    (answer : Reply → α) : (send x answer).Only R e :=
  ⟨hR.trans hpush (hR.settled _), fun _ => trivial⟩

theorem only_send {α : Type} {x : Errand} (hx : ∀ t, Task.pending? t { errand := x } = none)
    (answer : Reply → α) (e : Engine) : (send x answer).Only Moves e := by
  refine absorbs_moves.only_send ⟨Nat.le_refl _, fun t ht ran => ⟨[], ran, ?_⟩⟩ answer
  rw [exchange_push, hx t, Option.toList_none, List.append_nil]
  rfl

/-- A call that is let through starts in its own transaction, and nobody else sees it. -/
theorem moves_call {e : Engine} {u : TransactionId} (hl : (e.lease u).handle.live = true) {c : Call}
    (hc : c ≠ .release) {l : Lease} (hhandle : l.handle = ⟨c.isStatement⟩) :
    Moves e ((e.setLease u l).sending (.within u c.action)) := by
  refine Moves.trans ⟨?_, ?_⟩ (absorbs_moves.settled _)
  · exact (Array.size_modify ..).ge
  intro t ht ran
  by_cases htu : u = t
  · subst htu
    -- The errand stands last among those on their way.
    refine ⟨[.start c, .abandon (e.exchange u ran).inFlight.length], ran, ?_⟩
    rw [exchange_push, Exchange.start_abandon hl hc, exchange, lease_setLease_self ht, hhandle]
    simp [Task.pending?, Stage.isOpen, exchange, setLease]
  · refine ⟨[], ran, ?_⟩
    rw [exchange_push, exchange, lease_setLease_of_ne htu]
    simp [Task.pending?, htu, exchange, setLease]

/-- A call changes an engine if its handle lets it through. -/
theorem only_call_of_live {R : Engine → Engine → Prop} {α : Type} {t : TransactionId} {c : Call}
    {e : Engine} (h : (e.lease t).handle.live = true →
      R e ((e.setLease t { e.lease t with handle := ⟨c.isStatement⟩ }).sending (.within t c.action)))
    (answer : Reply → α) : (call t c answer).Only R e := by
  unfold call
  rw [Job.only_read_iff]
  dsimp only
  cases hl : (e.lease t).handle.live with
  | false =>
    rw [Handle.start_of_not_live c hl]
    trivial
  | true =>
    rw [Handle.start_of_live c hl]
    exact ⟨h hl, fun _ => trivial⟩

theorem only_call {α : Type} (t : TransactionId) {c : Call} (hc : c ≠ .release) (answer : Reply → α)
    (e : Engine) : (call t c answer).Only Moves e :=
  only_call_of_live (fun hl => moves_call hl hc rfl) answer

theorem letGo_of_not_live {e : Engine} {t : TransactionId} (hl : (e.lease t).handle.live = false) :
    e.letGo t = ((e.setLease t { e.lease t with held := false }).vacate t).settled := by
  simp only [letGo, Handle.start_of_not_live _ hl]

theorem letGo_of_live {e : Engine} {t : TransactionId} (hl : (e.lease t).handle.live = true) :
    e.letGo t = (((e.perform (e.lease t).pool (e.lease t).connection .rollback).2.setLease t
      { e.lease t with handle := ⟨false⟩, held := false }).vacate t).settled := by
  simp only [letGo, Handle.start_of_live _ hl]
  rfl

/-- The rollback of a holder who lets go runs at once. -/
theorem moves_letGo (e : Engine) (t : TransactionId) : Moves e (e.letGo t) := by
  cases hl : (e.lease t).handle.live with
  | false =>
    rw [letGo_of_not_live hl]
    have hmoves : Moves e (e.setLease t { e.lease t with held := false }) :=
      moves_setLease fun ran => ⟨[], ran, rfl⟩
    exact (hmoves.trans (keeps_vacate _ t).moves).trans (absorbs_moves.settled _)
  | true =>
    rw [letGo_of_live hl]
    obtain ⟨htasks, hleases⟩ := tryOn_frame e (e.lease t).pool
      (·.perform (e.lease t).connection .rollback)
    have hkeeps := keeps_of_eq htasks hleases
    have hmoves : Moves (e.perform (e.lease t).pool (e.lease t).connection .rollback).2
        ((e.perform (e.lease t).pool (e.lease t).connection .rollback).2.setLease t
          { e.lease t with handle := ⟨false⟩, held := false }) := by
      refine moves_setLease fun ran => ⟨[.start .release], ran ++ [.rollback], ?_⟩
      rw [List.foldl_cons, Exchange.step_release_of_live]
      · rfl
      · rw [exchange, lease, perform, hleases]
        exact hl
      · rw [not_awaited]
        exact Bool.false_ne_true
    exact ((hkeeps.moves.trans hmoves).trans (keeps_vacate _ t).moves).trans (absorbs_moves.settled _)

theorem only_release {R : Engine → Engine → Prop} {t : TransactionId} (h : ∀ e, R e (e.letGo t))
    (e : Engine) : (release t).Only R e := by
  unfold release
  rw [Job.only_read_iff]
  split
  · exact fun e' => Job.only_modify (h e')
  · exact Job.only_modify (h e)

theorem keeps_fileStore (e : Engine) (path : String) : Keeps e (e.fileStore path).2 := by
  unfold fileStore
  split
  · exact Keeps.refl e
  · exact keeps_of_eq rfl rfl

theorem Absorbs.only_openFile {R : Engine → Engine → Prop} (hR : Absorbs R) (name path : String)
    (config : PoolConfig) (e : Engine) : (openFile name path config).Only R e := by
  unfold openFile
  rw [Job.only_read_iff]
  split
  · have hkeeps : Keeps e ((e.fileStore path).2.addPool
        { name, store := (e.fileStore path).1, config, inMemory := false }).2 :=
      (keeps_fileStore e path).trans (keeps_of_eq rfl rfl)
    exact ⟨hR.keeps hkeeps, trivial⟩
  · exact fun _ => trivial

theorem Absorbs.only_connect {R : Engine → Engine → Prop} (hR : Absorbs R) (name dsn : String)
    (e : Engine) : (connect name dsn).Only R e := by
  unfold connect
  dsimp only
  generalize String.ofList _ = path
  split
  · trivial
  split
  · refine ⟨hR.keeps ?_, trivial⟩
    exact keeps_of_eq rfl rfl
  · exact hR.only_openFile ..

/-- Whatever is asked of an engine, each change is one with which its transactions go on as exchanges
do. -/
theorem only_driver (e : Engine) :
    (∀ name dsn, (Driver.connect (β := Engine) name dsn).Only Moves e) ∧
      (∀ domain port, (Driver.resolve (β := Engine) domain port).Only Moves e) ∧
      (∀ c q o, (Driver.query (β := Engine) c q o).Only Moves e) ∧
      (∀ c q o, (Driver.exec (β := Engine) c q o).Only Moves e) ∧
      (∀ c, (Driver.beginOn (β := Engine) c).Only Moves e) ∧
      (∀ t q, (Driver.queryIn (β := Engine) t q).Only Moves e) ∧
      (∀ t q, (Driver.execIn (β := Engine) t q).Only Moves e) ∧
      (∀ t, (Driver.commit (β := Engine) t).Only Moves e) ∧
      (∀ t, (Driver.rollback (β := Engine) t).Only Moves e) ∧
      ∀ t, (Driver.release (β := Engine) t).Only Moves e := by
  refine ⟨fun name dsn => absorbs_moves.only_connect name dsn e, fun _ _ => trivial, fun c q _ => ?_,
    fun c q _ => ?_, fun c => ?_, fun t q => ?_, fun t q => ?_, fun t => ?_, fun t => ?_,
    fun t => only_release (fun e => moves_letGo e t) e⟩
  · exact only_send (fun _ => rfl) _ e
  · exact only_send (fun _ => rfl) _ e
  · exact only_send (fun _ => rfl) _ e
  · exact only_call t (c := .query q) nofun _ e
  · exact only_call t (c := .exec q) nofun _ e
  · exact only_call t (c := .commit) nofun _ e
  · exact only_call t (c := .rollback) nofun _ e

/-- A transaction that begins is live, and nobody is on the way to it unless somebody was sent there
before. -/
theorem exchange_of_begun {e e' : Engine} {c : ConnectionId} {n : Nat} {t : TransactionId}
    (h : e.begin_ c n = (.done (.begun t), e'))
    (hnew : ∀ task ∈ e.tasks.toList, Task.pending? t task = none) : e'.exchange t [] = {} := by
  have htasks := (keeps_begin e c n).tasks
  rw [h] at htasks
  have hlease : e'.lease t = { pool := c, connection := n } := by
    unfold begin_ at h
    split at h
    · cases h
      rw [lease, Array.getElem?_push_size]
      rfl
    · cases h
    · cases h
  rw [exchange, htasks, hlease, List.filterMap_eq_nil_iff.mpr hnew]

/-- A transaction that has just begun and an engine that has moved on since: what can be seen of it is
an exchange after some events. -/
theorem exists_after {e e' : Engine} (h : Moves e e') {t : TransactionId}
    (ht : t < e.leases.size) (hbegun : e.exchange t [] = {}) :
    ∃ events, e'.exchange t (Exchange.after events).ran = Exchange.after events := by
  obtain ⟨events, ran, hevents⟩ := h.follows t ht []
  rw [hbegun] at hevents
  refine ⟨events, ?_⟩
  change _ = List.foldl Exchange.step {} events
  rw [← hevents]
  change e'.exchange t (List.foldl Exchange.step {} events).ran = _
  rw [← hevents]
  rfl

end Engine

end Sqlite

end EntityStore
