import EntityStore.Sqlite.Engine

/-!
# What a transaction leaves on its connection

A handle turns calls into actions on its connection (`Handle.actions`): the statements in front of the
first call that ends the transaction, the action of that call, and nothing more, since the handle is
marked as ended before the action is carried out.

What a connection makes of an action is left open (`Behaviour`): statements may do anything, a COMMIT
that fails leaves an open transaction open, and a ROLLBACK ends it. `SharedStore.behaviour` is the one
of the stores here. The connection then comes back inside a transaction in one case only, namely when
the transaction was to end with a COMMIT and that failed (`inside_after_release_iff`): the handle takes
the transaction for ended, and letting go does not roll it back.
-/

namespace EntityStore.Sqlite

/-! ## Calls and actions -/

/-- Whether a call runs a statement of the caller; the others end the transaction. -/
def Call.isStatement : Call → Bool
  | query _ => true
  | exec _ => true
  | _ => false

/-- What a call asks for while the handle is live. -/
def Call.action : Call → Action
  | query q => .query q
  | exec q => .exec q
  | commit => .commit
  | rollback => .rollback
  | release => .rollback

/-- Whether an action runs a statement of the caller. -/
def Action.isStatement : Action → Bool
  | query _ => true
  | exec _ => true
  | _ => false

@[simp] theorem Call.isStatement_action (c : Call) : c.action.isStatement = c.isStatement := by
  cases c <;> rfl

namespace Handle

theorem start_of_live {h : Handle} (c : Call) (hl : h.live = true) :
    h.start c = (some c.action, ⟨c.isStatement⟩) := by
  obtain ⟨live⟩ := h
  cases hl
  cases c <;> rfl

/-- The actions that follow from calls, one after the other. -/
def actions (h : Handle) : List Call → List Action
  | [] => []
  | c :: rest => (h.start c).1.toList ++ (h.start c).2.actions rest

@[simp] theorem actions_nil (h : Handle) : h.actions [] = [] := rfl

theorem actions_of_not_live {h : Handle} (hl : h.live = false) (calls : List Call) :
    h.actions calls = [] := by
  induction calls with
  | nil => rfl
  | cons c rest ih => rw [actions, start_of_not_live c hl, ih, Option.toList_none, List.nil_append]

theorem actions_cons_of_live {h : Handle} (hl : h.live = true) (c : Call) (rest : List Call) :
    h.actions (c :: rest) = c.action :: actions ⟨c.isStatement⟩ rest := by
  rw [actions, start_of_live c hl]
  rfl

end Handle

/-! ## Connections -/

/-- What may come of the actions on a connection in the state `κ`. -/
structure Behaviour (κ : Type) where
  /-- Carries out an action, successfully or not. -/
  perform : Action → κ → Bool × κ
  /-- Whether the connection is inside a transaction. -/
  inside : κ → Bool
  /-- A COMMIT that succeeds ends the transaction. -/
  commit_ok : ∀ k, (perform .commit k).1 = true → inside (perform .commit k).2 = false
  /-- A COMMIT that fails leaves the transaction as it is. -/
  commit_failed : ∀ k, (perform .commit k).1 = false → inside (perform .commit k).2 = inside k
  /-- A ROLLBACK ends the transaction. -/
  rollback_ends : ∀ k, inside (perform .rollback k).2 = false

namespace Behaviour

variable {κ : Type} (b : Behaviour κ)

/-- The connection after some actions. -/
def after (k : κ) (actions : List Action) : κ := actions.foldl (fun k a => (b.perform a k).2) k

@[simp] theorem after_nil (k : κ) : b.after k [] = k := rfl

@[simp] theorem after_cons (k : κ) (a : Action) (rest : List Action) :
    b.after k (a :: rest) = b.after (b.perform a k).2 rest := rfl

/-- Among the calls a COMMIT ends an open transaction, and it fails. -/
def CommitFails (k : κ) (calls : List Call) : Prop :=
  ∃ before later, calls = before ++ .commit :: later ∧ (∀ c ∈ before, c.isStatement = true) ∧
    b.inside (b.after k (before.map Call.action)) = true ∧
    (b.perform .commit (b.after k (before.map Call.action))).1 = false

variable {b}

theorem not_commitFails_nil {k : κ} : ¬ b.CommitFails k [] := by
  rintro ⟨before, later, h, -⟩
  simp at h

theorem commitFails_cons_of_statement {k : κ} {c : Call} (hc : c.isStatement = true)
    (rest : List Call) :
    b.CommitFails k (c :: rest) ↔ b.CommitFails (b.perform c.action k).2 rest := by
  constructor
  · rintro ⟨before, later, h, hb, hi, hf⟩
    cases before with
    | nil =>
      obtain ⟨rfl, -⟩ := List.cons.inj h
      cases hc
    | cons c' before =>
      obtain ⟨rfl, hrest⟩ := List.cons.inj h
      exact ⟨before, later, hrest, fun d hd => hb d (List.mem_cons_of_mem c hd), hi, hf⟩
  · rintro ⟨before, later, rfl, hb, hi, hf⟩
    refine ⟨c :: before, later, rfl, ?_, hi, hf⟩
    intro d hd
    rcases List.mem_cons.mp hd with rfl | hd
    · exact hc
    · exact hb d hd

theorem commitFails_cons_of_ending {k : κ} {c : Call} (hc : c.isStatement = false)
    (rest : List Call) :
    b.CommitFails k (c :: rest) ↔
      c = .commit ∧ b.inside k = true ∧ (b.perform .commit k).1 = false := by
  constructor
  · rintro ⟨before, later, h, hb, hi, hf⟩
    cases before with
    | nil => exact ⟨(List.cons.inj h).1, hi, hf⟩
    | cons c' before =>
      obtain ⟨rfl, -⟩ := List.cons.inj h
      rw [hb c (List.mem_cons_self ..)] at hc
      cases hc
  · rintro ⟨rfl, hi, hf⟩
    exact ⟨[], rest, rfl, fun d hd => absurd hd List.not_mem_nil, hi, hf⟩

/-- The action of an ending call leaves the transaction open iff it is a COMMIT that fails. -/
theorem inside_perform_of_ending {k : κ} {c : Call} (hc : c.isStatement = false) :
    b.inside (b.perform c.action k).2 = true ↔
      c = .commit ∧ b.inside k = true ∧ (b.perform .commit k).1 = false := by
  cases c with
  | query q => cases hc
  | exec q => cases hc
  | commit =>
    change b.inside (b.perform .commit k).2 = true ↔ _
    cases h : (b.perform .commit k).1 with
    | true => simp [b.commit_ok k h]
    | false => simp [b.commit_failed k h]
  | rollback => simp [Call.action, b.rollback_ends k]
  | release => simp [Call.action, b.rollback_ends k]

/-- Once the holder of a live handle has let go, after any calls and whatever came of them, the
connection is inside a transaction iff the transaction was to end with a COMMIT that failed. -/
theorem inside_after_release_iff (b : Behaviour κ) (k : κ) (calls : List Call) :
    b.inside (b.after k (Handle.actions {} (calls ++ [.release]))) = true ↔
      b.CommitFails k calls := by
  -- As long as the calls are statements the handle stays live; the first other call is the last to
  -- have an action.
  induction calls generalizing k with
  | nil =>
    rw [List.nil_append, Handle.actions_cons_of_live rfl, Handle.actions_nil]
    exact iff_of_false (by simp [Call.action, b.rollback_ends k]) not_commitFails_nil
  | cons c rest ih =>
    rw [List.cons_append, Handle.actions_cons_of_live rfl, after_cons]
    cases hc : c.isStatement with
    | true =>
      rw [commitFails_cons_of_statement hc]
      exact ih (b.perform c.action k).2
    | false =>
      rw [Handle.actions_of_not_live rfl, after_nil, commitFails_cons_of_ending hc]
      exact inside_perform_of_ending hc

end Behaviour

/-! ## The stores -/

/-- Whether an attempt succeeded. -/
def Attempt.isDone {α : Type} : Attempt α → Bool
  | done _ => true
  | _ => false

namespace SharedStore

/-- A COMMIT succeeds and ends the transaction, or it is refused and changes nothing. -/
theorem perform_commit_cases (s : SharedStore) (n : Nat) :
    (∃ s', s.perform n .commit = (.done .ended, s') ∧ s'.isOpen n = false) ∨
      ∃ r, s.perform n .commit = (.refused r, s) := by
  unfold perform commit
  cases s.owned? n with
  | none => exact .inr ⟨_, rfl⟩
  | some w =>
    dsimp only
    by_cases hw : w.working.isConsistent = true
    · rw [if_pos hw]
      exact .inl ⟨_, rfl, rfl⟩
    · rw [if_neg hw]
      exact .inr ⟨_, rfl⟩

/-- What comes of actions on a connection to a store. -/
def behaviour (n : Nat) : Behaviour SharedStore where
  perform a s := ((s.perform n a).1.isDone, (s.perform n a).2)
  inside s := s.isOpen n
  commit_ok s h := by
    obtain ⟨s', hs, ho⟩ | ⟨r, hs⟩ := s.perform_commit_cases n <;> rw [hs] at h ⊢
    · exact ho
    · cases h
  commit_failed s h := by
    obtain ⟨s', hs, ho⟩ | ⟨r, hs⟩ := s.perform_commit_cases n <;> rw [hs] at h ⊢
    cases h
  rollback_ends s := rollback_not_isOpen s n

end SharedStore

namespace Engine

/-- An engine with one connection to a file of two tables. Every row of the second refers to one of the
first. -/
def family : Engine :=
  let key : Column := { name := "id", type := .integer, isKey := true }
  let parent : Column := { name := "parent_id", type := .integer, references := some "parent" }
  let tables : List Table := [⟨"parent", [key], []⟩, ⟨"child", [key, parent], []⟩]
  { stores := #[{ committed := ⟨tables⟩, inMemory := false }]
    pools := #[{ name := "primary", store := 0, config := { maxConnections := 1 }, inMemory := false }] }

/-- Adds a row of the second table that refers to none of the first. -/
def addOrphan : Query := ⟨"INSERT INTO child(id, parent_id) VALUES (?, ?)", [.int 1, .int 99]⟩

/-- Begins, adds the row, commits and lets go; whether the commit succeeded. -/
def orphanage : Job Engine Bool :=
  (Driver.beginOn (β := Engine) 0).bind fun t =>
    let t := t.toOption.getD 0
    (Driver.execIn t addOrphan).bind fun _ => (Driver.commit t).bind fun r =>
      (Driver.release t).bind fun _ => .done r.toBool

/-- The commit of a row that refers to none fails, and then the connection is free again and still
inside the transaction. -/
theorem open_after_failed_commit :
    (orphanage.run family).1 = false ∧
      ((orphanage.run family).2.pool 0).idle = [0] ∧
      ((orphanage.run family).2.store 0).isOpen 0 = true := by
  decide +kernel

end Engine

end EntityStore.Sqlite
