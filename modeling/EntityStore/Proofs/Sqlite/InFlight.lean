import EntityStore.Proofs.Sqlite.Handle
import Mathlib.Data.List.Induction
import Mathlib.Data.List.Perm.Basic
import Mathlib.Data.List.TakeWhile

/-!
# Statements in flight

A call on a transaction is checked by its handle when it starts; its action is carried out later, when
a worker gets the connection, and nobody who stops waiting for it calls it back. An `Exchange` is one
transaction seen this way: its handle, the actions in flight, and those that ran, in the order in which
they did. Actions in flight run in any order (`Event.run`), callers stop waiting at any time
(`Event.abandon`), and the ROLLBACK of a holder who lets go runs at once.

1. Every action comes from a call that the handle let through, so at most one of all the actions ends
   the transaction (`Exchange.Consistent`, kept by each step and so by every run).
2. Once that one has run the handle lets nothing through any more. What is in flight then runs late:
   `late_step` says that from then on no action becomes late and none ceases to be.
3. So all statements run in front of the end iff nothing is in flight when it runs
   (`late_eq_nil_iff`). Calls made one after the other leave nothing in flight
   (`ran_of_one_by_one`).
-/

namespace EntityStore.Sqlite

/-- An action that has not run yet. -/
structure Pending where
  /-- What is to be done. -/
  action : Action
  /-- Whether its caller still waits. -/
  awaited : Bool := true
deriving DecidableEq

/-- The calls on one transaction and what came of them. -/
structure Exchange where
  handle : Handle := {}
  /-- The actions in flight. -/
  inFlight : List Pending := []
  /-- The actions that ran, in this order. -/
  ran : List Action := []
deriving DecidableEq

namespace Exchange

/-- What happens in an exchange. -/
inductive Event where
  | start (c : Call)
  /-- The caller of an action in flight stops waiting. -/
  | abandon (place : Nat)
  /-- An action in flight runs. -/
  | run (place : Nat)
deriving DecidableEq

/-- What an event changes. A holder lets go only when no caller waits; of a handle that has not ended
the ROLLBACK runs at once. -/
def step (x : Exchange) : Event → Exchange
  | .start .release =>
    if x.inFlight.any (·.awaited) then x
    else
      { x with
        handle := (x.handle.start .release).2
        ran := x.ran ++ (x.handle.start .release).1.toList }
  | .start c =>
    { x with
      handle := (x.handle.start c).2
      inFlight := x.inFlight ++ (x.handle.start c).1.toList.map ({ action := · }) }
  | .abandon i => { x with inFlight := x.inFlight.modify i fun p => { p with awaited := false } }
  | .run i =>
    match x.inFlight[i]? with
    | some p => { x with inFlight := x.inFlight.eraseIdx i, ran := x.ran ++ [p.action] }
    | none => x

def after (events : List Event) : Exchange := events.foldl step {}

/-- Whether the transaction has ended. -/
def hasEnded (x : Exchange) : Bool := x.ran.any fun a => !a.isStatement

def actionsInFlight (x : Exchange) : List Action := x.inFlight.map (·.action)

/-- The statements that ran behind the end of the transaction or will do so. -/
def late (x : Exchange) : List Action :=
  if x.hasEnded then
    (x.ran.dropWhile Action.isStatement ++ x.actionsInFlight).filter Action.isStatement
  else []

@[simp] theorem after_nil : after [] = {} := rfl

theorem after_append (before rest : List Event) : after (before ++ rest) = rest.foldl step (after before) :=
  List.foldl_append ..

theorem after_concat (before : List Event) (e : Event) : after (before ++ [e]) = (after before).step e :=
  after_append before [e]

/-! ## What a step does -/

/-- All actions, those that ran and those in flight. -/
def actions (x : Exchange) : List Action := x.ran ++ x.actionsInFlight

theorem step_start_of_not_live {x : Exchange} (hl : x.handle.live = false) (c : Call) :
    x.step (.start c) = x := by
  cases c <;> simp [step, Handle.start_of_not_live _ hl]

theorem step_start_of_live {x : Exchange} (hl : x.handle.live = true) {c : Call}
    (hc : c ≠ .release) :
    x.step (.start c) =
      { x with handle := ⟨c.isStatement⟩, inFlight := x.inFlight ++ [{ action := c.action }] } := by
  cases c <;> first | exact absurd rfl hc | simp [step, Handle.start_of_live _ hl]

theorem step_release_of_live {x : Exchange} (hl : x.handle.live = true)
    (hw : ¬ x.inFlight.any (·.awaited) = true) :
    x.step (.start .release) = { x with handle := ⟨false⟩, ran := x.ran ++ [.rollback] } := by
  rw [step, if_neg hw, Handle.start_of_live _ hl]
  rfl

theorem actionsInFlight_abandon (x : Exchange) (i : Nat) :
    (x.step (.abandon i)).actionsInFlight = x.actionsInFlight := by
  apply List.ext_getElem?
  intro j
  simp only [step, actionsInFlight, List.getElem?_map, List.getElem?_modify]
  cases x.inFlight[j]? with
  | none => rfl
  | some p => by_cases h : i = j <;> simp [h]

theorem step_run {x : Exchange} {i : Nat} {p : Pending} (h : x.inFlight[i]? = some p) :
    x.step (.run i) =
      { x with inFlight := x.inFlight.eraseIdx i, ran := x.ran ++ [p.action] } := by
  simp only [step, h]

theorem step_run_of_none {x : Exchange} {i : Nat} (h : x.inFlight[i]? = none) :
    x.step (.run i) = x := by
  simp only [step, h]

theorem actionsInFlight_run {x : Exchange} {i : Nat} {p : Pending} (h : x.inFlight[i]? = some p) :
    (p.action :: (x.step (.run i)).actionsInFlight).Perm x.actionsInFlight := by
  rw [step_run h]
  obtain ⟨hi, rfl⟩ := List.getElem?_eq_some_iff.mp h
  exact (List.getElem_cons_eraseIdx_perm hi).map (·.action)

/-- A step adds at most the action of one call that the handle lets through. -/
theorem step_cases (x : Exchange) (e : Event) :
    (x.step e).handle = x.handle ∧ (x.step e).actions.Perm x.actions ∨
      ∃ c : Call, x.handle.live = true ∧ (x.step e).handle = ⟨c.isStatement⟩ ∧
        (x.step e).actions.Perm (c.action :: x.actions) := by
  cases e with
  | abandon i =>
    refine .inl ⟨rfl, ?_⟩
    rw [actions, actionsInFlight_abandon]
    exact List.Perm.refl _
  | run i =>
    left
    cases h : x.inFlight[i]? with
    | none => simp [step_run_of_none h]
    | some p =>
      have hp := actionsInFlight_run h
      rw [step_run h] at hp ⊢
      refine ⟨rfl, ?_⟩
      rw [actions, List.append_assoc]
      exact hp.append_left x.ran
  | start c =>
    cases hl : x.handle.live with
    | false => simp [step_start_of_not_live hl]
    | true =>
      by_cases hc : c = .release
      · subst hc
        by_cases hw : x.inFlight.any (·.awaited) = true
        · left
          simp [step, hw]
        · refine .inr ⟨.release, rfl, ?_⟩
          rw [step_release_of_live hl hw, actions, List.append_assoc]
          exact ⟨rfl, List.perm_middle⟩
      · refine .inr ⟨c, rfl, ?_⟩
        rw [step_start_of_live hl hc, actions, actionsInFlight, List.map_append, ← List.append_assoc]
        exact ⟨rfl, List.perm_append_singleton ..⟩

/-- The actions that end the transaction. -/
def endings (x : Exchange) : Nat := x.actions.countP fun a => !a.isStatement

/-- There is an action that ends the transaction iff the handle is not live, and then there is only
one. -/
def Consistent (x : Exchange) : Prop := x.endings = if x.handle.live then 0 else 1

theorem consistent_initial : Consistent {} := rfl

theorem consistent_step {x : Exchange} (hx : x.Consistent) (e : Event) : (x.step e).Consistent := by
  unfold Consistent endings at hx ⊢
  obtain ⟨hh, hp⟩ | ⟨c, hl, hh, hp⟩ := step_cases x e
  · rw [hp.countP_eq, hh, hx]
  · rw [hp.countP_eq, hh, List.countP_cons, hx, hl, Call.isStatement_action]
    cases c.isStatement <;> rfl

theorem consistent_foldl {x : Exchange} (hx : x.Consistent) (events : List Event) :
    (events.foldl step x).Consistent := by
  induction events generalizing x with
  | nil => exact hx
  | cons e rest ih => exact ih (consistent_step hx e)

/-- At most one action of a transaction ever ends it. -/
theorem consistent_after (events : List Event) : (after events).Consistent :=
  consistent_foldl consistent_initial events

/-! ## Behind the end -/

/-- Once the transaction has ended the handle lets nothing through, and all that is in flight are
statements. -/
theorem Consistent.ended {x : Exchange} (hx : x.Consistent) (he : x.hasEnded = true) :
    x.handle.live = false ∧ ∀ a ∈ x.actionsInFlight, a.isStatement = true := by
  obtain ⟨a, ha, hs⟩ := List.any_eq_true.mp he
  have hpos : 0 < x.ran.countP fun a => !a.isStatement := List.countP_pos_iff.mpr ⟨a, ha, hs⟩
  unfold Consistent endings actions at hx
  rw [List.countP_append] at hx
  constructor
  · cases hl : x.handle.live with
    | false => rfl
    | true =>
      rw [hl, if_pos rfl] at hx
      omega
  · have hz : (x.actionsInFlight.countP fun a => !a.isStatement) = 0 := by
      split at hx <;> omega
    intro b hb
    simpa using List.countP_eq_zero.mp hz b hb

theorem ran_step (x : Exchange) (e : Event) :
    (x.step e).ran = x.ran ∨ ∃ a, (x.step e).ran = x.ran ++ [a] := by
  cases e with
  | abandon i => exact .inl rfl
  | run i =>
    cases h : x.inFlight[i]? with
    | none => simp [step_run_of_none h]
    | some p => exact .inr ⟨p.action, by rw [step_run h]⟩
  | start c =>
    cases hl : x.handle.live with
    | false => simp [step_start_of_not_live hl]
    | true =>
      by_cases hc : c = .release
      · subst hc
        by_cases hw : x.inFlight.any (·.awaited) = true
        · simp [step, hw]
        · exact .inr ⟨.rollback, by rw [step_release_of_live hl hw]⟩
      · simp [step_start_of_live hl hc]

theorem hasEnded_step {x : Exchange} (he : x.hasEnded = true) (e : Event) :
    (x.step e).hasEnded = true := by
  unfold hasEnded at he ⊢
  obtain h | ⟨a, h⟩ := ran_step x e
  · rw [h, he]
  · rw [h, List.any_append, he, Bool.true_or]

/-- Behind the end no action becomes late, and none that is late ceases to be. -/
theorem late_step {x : Exchange} (hx : x.Consistent) (he : x.hasEnded = true) (e : Event) :
    (x.step e).late.Perm x.late := by
  obtain ⟨hl, hs⟩ := hx.ended he
  have he' := hasEnded_step he e
  unfold late
  rw [if_pos he, if_pos he']
  refine List.Perm.filter _ ?_
  cases e with
  | start c => rw [step_start_of_not_live hl]
  | abandon i => rw [actionsInFlight_abandon]; rfl
  | run i =>
    cases h : x.inFlight[i]? with
    | none => rw [step_run_of_none h]
    | some p =>
      -- The end is among what ran, so an action behind all of it is behind the end.
      have hd : (x.ran.dropWhile Action.isStatement).isEmpty = false := by
        obtain ⟨a, ha, hna⟩ := List.any_eq_true.mp he
        rw [Bool.eq_false_iff, ne_eq, List.isEmpty_iff, List.dropWhile_eq_nil_iff]
        intro hall
        rw [hall a ha] at hna
        cases hna
      have hp := actionsInFlight_run h
      have hran : (x.step (.run i)).ran = x.ran ++ [p.action] := by rw [step_run h]
      rw [hran, List.dropWhile_append, hd, if_neg Bool.false_ne_true, List.append_assoc]
      exact hp.append_left _

theorem late_foldl {x : Exchange} (hx : x.Consistent) (he : x.hasEnded = true)
    (events : List Event) :
    (events.foldl step x).hasEnded = true ∧ (events.foldl step x).late.Perm x.late := by
  induction events generalizing x with
  | nil => exact ⟨he, List.Perm.refl _⟩
  | cons e rest ih =>
    obtain ⟨hend, hp⟩ := ih (consistent_step hx e) (hasEnded_step he e)
    exact ⟨hend, hp.trans (late_step hx he e)⟩

/-- At the end, exactly what is in flight is late. -/
theorem late_of_end {x : Exchange} (hx : x.Consistent) {e : Event} (hn : x.hasEnded = false)
    (he : (x.step e).hasEnded = true) : (x.step e).late = (x.step e).actionsInFlight := by
  obtain ⟨-, hs⟩ := (consistent_step hx e).ended he
  have hran : ∀ a ∈ x.ran, a.isStatement = true := by simpa [hasEnded] using hn
  obtain h | ⟨a, h⟩ := ran_step x e
  · rw [hasEnded, h] at he
    rw [hasEnded, he] at hn
    cases hn
  · have ha : a.isStatement = false := by
      unfold hasEnded at he hn
      simpa [h, List.any_append, hn] using he
    unfold late
    rw [if_pos he, h, List.dropWhile_append_of_pos hran]
    simpa [List.dropWhile, List.filter, ha] using hs

/-- After any events, no statement ran or will run behind the end of the transaction iff nothing was in
flight at the end. -/
theorem late_eq_nil_iff (events : List Event) :
    (after events).late = [] ↔
      ∀ before e rest, events = before ++ e :: rest → (after before).hasEnded = false →
        (after (before ++ [e])).hasEnded = true → (after (before ++ [e])).inFlight = [] := by
  constructor
  · rintro h before e rest rfl hn he
    have hb := consistent_after before
    rw [after_concat] at he ⊢
    rw [after_append, List.foldl_cons] at h
    obtain ⟨-, hp⟩ := late_foldl (consistent_step hb e) he rest
    rw [h, late_of_end hb hn he] at hp
    exact List.map_eq_nil_iff.mp hp.nil_eq.symm
  · intro h
    -- The end, if there is one, is the first event after which the transaction has ended.
    induction events using List.reverseRecOn with
    | nil => rfl
    | append_singleton before e ih =>
      rw [after_concat]
      cases hn : (after before).hasEnded with
      | true =>
        have hl : (after before).late = [] := by
          refine ih fun b e' rest hb => h b e' (rest ++ [e]) ?_
          rw [hb, List.append_assoc, List.cons_append]
        have hp := late_step (consistent_after before) hn e
        rw [hl] at hp
        exact hp.eq_nil
      | false =>
        cases he : ((after before).step e).hasEnded with
        | false => rw [late, he]; rfl
        | true =>
          have hf := h before e [] rfl hn (by rw [after_concat, he])
          rw [late_of_end (consistent_after before) hn he, actionsInFlight, ← after_concat, hf]
          rfl

end Exchange

namespace Engine

/-- Adds a row of the first table. -/
def addParent : Query := ⟨"INSERT INTO parent(id) VALUES (?)", [.int 1]⟩

/-- Begins, and sends a read to the pool and a write to the transaction without waiting for either.
Then it lets go. -/
def hasty : Job Engine Unit :=
  (Driver.beginOn (β := Engine) 0).bind fun t =>
    let t := t.toOption.getD 0
    ((Driver.query 0 ⟨"SELECT id FROM parent", []⟩ {}).deadline 0).bind fun _ =>
      ((Driver.execIn t addParent).deadline 0).bind fun _ => Driver.release t

/-- The numbers of rows of the tables of a store, as they were committed last. -/
def rowCounts (e : Engine) (c : ConnectionId) : List Nat :=
  (e.store c).committed.tables.map (·.rows.length)

/-- A write that is in flight when its transaction is rolled back runs behind the ROLLBACK and is
committed on its own. With one worker for the read and the write, the write is in flight until the
read has given up waiting for the only connection. -/
theorem late_write_is_committed :
    let x := Exchange.after [.start (.exec addParent), .abandon 0, .start .release, .run 0]
    (x.ran = [.rollback, .exec addParent] ∧ x.late = [.exec addParent]) ∧
      let e := (hasty.run { family with workers := 1 }).2
      (e.store 0).isOpen 0 = false ∧ e.rowCounts 0 = [0, 0] ∧
        (e.elapse 30_000).rowCounts 0 = [1, 0] := by
  decide +kernel

end Engine

namespace Exchange

/-! ## One call after the other -/

/-- The events of calls of which each is awaited before the next one starts. -/
def oneByOne (calls : List Call) : List Event := calls.flatMap fun c => [.start c, .run 0]

/-- A call that starts while nothing is in flight, and then the run of what is in flight if there is
something. -/
theorem start_run {x : Exchange} (hx : x.inFlight = []) (c : Call) :
    (x.step (.start c)).step (.run 0) =
      { x with
        handle := (x.handle.start c).2
        ran := x.ran ++ (x.handle.start c).1.toList } := by
  obtain ⟨h, _, ran⟩ := x
  subst hx
  cases hl : h.live with
  | false => rw [step_start_of_not_live hl, step_run_of_none rfl, Handle.start_of_not_live c hl]; simp
  | true =>
    by_cases hc : c = .release
    · subst hc
      rw [step_release_of_live hl (by simp), step_run_of_none rfl, Handle.start_of_live _ hl]
      rfl
    · rw [step_start_of_live hl hc, step_run (p := { action := c.action }) rfl,
        Handle.start_of_live _ hl]
      rfl

theorem foldl_oneByOne {x : Exchange} (hx : x.inFlight = []) (calls : List Call) :
    ((oneByOne calls).foldl step x).ran = x.ran ++ x.handle.actions calls ∧
      ((oneByOne calls).foldl step x).inFlight = [] := by
  induction calls generalizing x with
  | nil => exact ⟨(List.append_nil _).symm, hx⟩
  | cons c rest ih =>
    have hstep : (oneByOne (c :: rest)).foldl step x =
        (oneByOne rest).foldl step ((x.step (.start c)).step (.run 0)) := rfl
    rw [hstep, start_run hx c, Handle.actions, ← List.append_assoc]
    exact ih hx

/-- The actions of calls made one after the other run in the order of the calls. -/
theorem ran_of_one_by_one (calls : List Call) :
    (after (oneByOne calls)).ran = Handle.actions {} calls :=
  (foldl_oneByOne rfl calls).1

end Exchange

end EntityStore.Sqlite
