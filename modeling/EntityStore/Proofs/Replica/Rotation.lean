import EntityStore.Proofs.Model.Entity
import EntityStore.Proofs.Replica.Reads
import EntityStore.Session.Simulation

/-!
# Reads rotate over the replicas

A `Crowd` is a database with replicas at work: callers on their errands, each of which takes its steps
whenever it likes. The turns that reads have taken are kept in order.

1. A step of a caller keeps what its errand keeps to, moves the counter on by one for each turn, and
   leaves the turns of others alone (`Fits.advance`). So it is whatever happens (`Fits.run`).
2. The `k`-th turn has the counter `k` behind its beginning, and is that of a read that has found
   replicas and need not go to the primary. All else stays on the primary, and has been sent there when
   it has ended.
3. Turns in a row are spread evenly over an unchanged list (`Fits.fair`).
-/

namespace EntityStore

open Job (Keeps)
open Journal (rules)
open Session (Call)

variable {β : Type}

/-! ## Callers of a database -/

/-- A caller of a database. -/
structure Caller (β : Type) where
  errand : Errand
  /-- What is left to do. -/
  rest : Work (Recorder β) (Except Error Unit)
  journal : Journal := {}

/-- A caller after a step. -/
def Caller.stepped (caller : Caller β) (site : Site (Recorder β)) : Caller β :=
  let (rest, after) := caller.rest.step site
  { caller with rest, journal := caller.journal.add site after }

/-- Callers of one database. -/
structure Crowd (β : Type) where
  site : Site (Recorder β)
  callers : List (Caller β)
  /-- The turns taken so far, each with its caller, the oldest first. -/
  turns : List (Nat × Turn) := []

namespace Crowd

/-- What can happen next. -/
inductive Event (β : Type) where
  | steps (i : Nat)
  /-- The driver behind the log does something by itself, or time goes on. -/
  | stirs (base : β)

/-- A caller takes a step. -/
def advance (c : Crowd β) (i : Nat) (caller : Caller β) : Crowd β where
  site := (caller.rest.step c.site).2
  callers := c.callers.set i (caller.stepped c.site)
  turns := c.turns ++
    ((caller.stepped c.site).journal.turns.drop caller.journal.turns.length).map (i, ·)

def step (c : Crowd β) : Event β → Crowd β
  | .steps i =>
    match c.callers[i]? with
    | none => c
    | some caller => if caller.rest.isDone then c else c.advance i caller
  | .stirs base => { c with site := { c.site with driver := { c.site.driver with base } } }

def run (c : Crowd β) (events : List (Event β)) : Crowd β := events.foldl step c

def start [Driver β] (db : Database (Recorder β)) (site : Site (Recorder β)) (errands : List Errand) :
    Crowd β :=
  { site, callers := errands.map fun e => ⟨e, e.job db, {}⟩ }

/-- The turns of a caller. -/
def turnsOf (c : Crowd β) (i : Nat) : List Turn := (c.turns.filter (·.1 = i)).map (·.2)

end Crowd

/-! ## What an errand keeps to -/

namespace Errand

/-- Whether an errand is a read outside of transactions. -/
def isRead : Errand → Bool
  | call c => c.isRead
  | _ => false

/-- What holds of the journal of an errand all the time. -/
def Holds (primary : ConnectionId) (core : Core (Recorder β)) : Errand → Journal → Prop
  | call c, j =>
    if c.isRead then j.Underway primary c.options.usePrimary (c.query core) else j.OnPrimary primary
  | refresh, j => j.Discovers
  | _, j => j.OnPrimary primary

/-- What holds when an errand has ended. -/
def Concludes (primary : ConnectionId) (core : Core (Recorder β)) :
    Errand → Journal → Except Error Unit → Prop
  | call c, j, result =>
    if c.isRead then j.Reached primary c.options.usePrimary (c.query core) ∨
      j.Idle ∧ ∃ e, result = .error e ∧ c.query core = .error e
    else Wrote primary core c j.lines result
  | e, j, _ => e.Transacted primary core j.lines

variable {primary : ConnectionId} {core : Core (Recorder β)} {j : Journal} {result : Except Error Unit}

theorem underway_of_holds {c : Call} (hc : c.isRead = true) (h : (call c).Holds primary core j) :
    j.Underway primary c.options.usePrimary (c.query core) := by
  rwa [Holds, if_pos hc] at h

theorem reached_of_concludes {c : Call} (hc : c.isRead = true)
    (h : (call c).Concludes primary core j result) :
    j.Reached primary c.options.usePrimary (c.query core) ∨
      j.Idle ∧ ∃ e, result = .error e ∧ c.query core = .error e := by
  rwa [Concludes, if_pos hc] at h

theorem wrote_of_concludes {c : Call} (hc : c.isRead = false)
    (h : (call c).Concludes primary core j result) : Wrote primary core c j.lines result := by
  rwa [Concludes, if_neg (Bool.not_eq_true _ ▸ hc)] at h

theorem transacted_of_concludes {e : Errand} (h : e.Concludes primary core j result) :
    e.Transacted primary core j.lines := by
  cases e with
  | call c => trivial
  | _ => exact h

/-- Nobody but reads outside of transactions takes turns. -/
theorem turns_of_holds {e : Errand} (he : e.isRead = false) (h : e.Holds primary core j) :
    j.turns = [] := by
  cases e with
  | call c =>
    rw [Holds, if_neg (Bool.not_eq_true _ ▸ he)] at h
    exact h.turns
  | _ => exact h.turns

theorem requests_of_holds {e : Errand} (he : e.isRead = false) (hrefresh : e ≠ .refresh)
    (h : e.Holds primary core j) : ∀ line ∈ j.lines, line.request.StaysOn primary j.lines := by
  cases e with
  | call c =>
    rw [Holds, if_neg (Bool.not_eq_true _ ▸ he)] at h
    exact h.requests
  | refresh => exact absurd rfl hrefresh
  | _ => exact h.requests

variable [Driver β] {db : Database (Recorder β)}

theorem keeps_job (hdb : db.connection = .spread primary) (hcore : db.core.interceptors = [])
    (e : Errand) :
    e.Holds primary db.core {} ∧
      Keeps (rules (e.Holds primary db.core)) (e.Concludes primary db.core) (e.job db) {} := by
  have hprimary : db.connection.primary = primary := by rw [hdb]; rfl
  have hnil : ({} : Journal).OnPrimary db.connection.primary := Journal.onPrimary_nil
  subst hprimary
  cases e with
  | call c =>
    by_cases hc : c.isRead = true
    · have hholds : (call c).Holds db.connection.primary db.core =
          Journal.Underway db.connection.primary c.options.usePrimary (c.query db.core) :=
        funext fun j => if_pos hc
      have hidle : ({} : Journal).Idle := ⟨rfl, rfl⟩
      rw [hholds]
      refine ⟨.inl hidle, (keeps_read hdb hcore hc hidle).mono fun j result h => ?_⟩
      rwa [Concludes, if_pos hc]
    · have hholds : (call c).Holds db.connection.primary db.core =
          Journal.OnPrimary db.connection.primary := funext fun j => if_neg hc
      rw [hholds]
      refine ⟨hnil, (keeps_write hcore (Bool.not_eq_true _ ▸ hc)).mono fun j result h => ?_⟩
      rwa [Concludes, if_neg hc]
  | transaction v => exact ⟨hnil, keeps_transaction hcore v⟩
  | unwinding payload => exact ⟨hnil, keeps_unwinding payload⟩
  | explicit v => exact ⟨hnil, keeps_explicit hcore v⟩
  | refresh =>
    have hnil : ({} : Journal).Discovers := ⟨rfl, fun _ he => absurd he List.not_mem_nil⟩
    exact ⟨hnil, (keeps_refresh hnil).mono fun _ _ _ => trivial⟩

end Errand

/-! ## Whatever happens -/

namespace Crowd

/-- What holds of one caller of a crowd. -/
structure FitsAt (primary : ConnectionId) (core : Core (Recorder β)) (c : Crowd β) (i : Nat)
    (caller : Caller β) : Prop where
  holds : caller.errand.Holds primary core caller.journal
  keeps : Keeps (rules (caller.errand.Holds primary core)) (caller.errand.Concludes primary core)
    caller.rest caller.journal
  turns : c.turnsOf i = caller.journal.turns

/-- The counter has moved on by one for each turn, and each turn is that of a caller. -/
structure Fits (primary : ConnectionId) (core : Core (Recorder β)) (c₀ : UInt64) (c : Crowd β) :
    Prop where
  sound : c.site.Sound
  counter : c.site.counter = some (c₀ + UInt64.ofNat c.turns.length)
  value : ∀ k t, c.turns[k]? = some t → t.2.value = c₀ + UInt64.ofNat (k + 1)
  known : ∀ t ∈ c.turns, t.1 < c.callers.length
  caller : ∀ i caller, c.callers[i]? = some caller → c.FitsAt primary core i caller

variable {primary : ConnectionId} {core : Core (Recorder β)} {c₀ : UInt64} {c : Crowd β}

theorem fits_start [Driver β] {db : Database (Recorder β)} (hdb : db.connection = .spread primary)
    (hcore : db.core.interceptors = []) {site : Site (Recorder β)} (hsite : site.Sound)
    (hcounter : site.counter = some c₀) (errands : List Errand) :
    (start db site errands).Fits primary db.core c₀ where
  sound := hsite
  counter := by
    rw [start]
    simpa using hcounter
  value k t ht := by simp [start] at ht
  known t ht := by simp [start] at ht
  caller i caller h := by
    simp only [start, List.getElem?_map, Option.map_eq_some_iff] at h
    obtain ⟨e, -, rfl⟩ := h
    obtain ⟨hholds, hkeeps⟩ := Errand.keeps_job hdb hcore e
    exact ⟨hholds, hkeeps, rfl⟩

/-- A step of a caller moves the counter on by one for each turn that it takes. -/
theorem turns_of_ticks {j : Journal} {s t : Site (Recorder β)} (h : Journal.Ticks s t) {n : UInt64}
    (hs : s.counter = some n) :
    ∃ ts, (j.add s t).turns = j.turns ++ ts ∧ t.counter = some (n + UInt64.ofNat ts.length) ∧
      ∀ k u, ts[k]? = some u → u.value = n + UInt64.ofNat (k + 1) := by
  rcases h with h | h
  · exact ⟨[], (if_pos h).trans (List.append_nil _).symm, by simpa [hs] using h, nofun⟩
  · rw [hs] at h
    have hne : ¬ t.counter = s.counter := by
      rw [h, hs]
      simp
    refine ⟨[⟨j.lists.headD [], n + 1⟩], ?_, h, fun k u hu => ?_⟩
    · rw [Journal.add, if_neg hne, h]
      rfl
    · cases k with
      | zero => rw [← Option.some.inj hu]; rfl
      | succ k => cases hu

theorem turnsOf_append (c : Crowd β) (i j : Nat) (ts : List Turn) :
    ({ c with turns := c.turns ++ ts.map (i, ·) } : Crowd β).turnsOf j =
      if i = j then c.turnsOf j ++ ts else c.turnsOf j := by
  simp only [turnsOf, List.filter_append, List.map_append, List.filter_map]
  split <;> simp_all [Function.comp_def]

theorem callers_advance {i k : Nat} {caller other : Caller β} (hi : i < c.callers.length)
    (hk : (c.advance i caller).callers[k]? = some other) :
    i = k ∧ other = caller.stepped c.site ∨ i ≠ k ∧ c.callers[k]? = some other := by
  rw [advance, List.getElem?_set] at hk
  split at hk
  · next hik =>
    subst hik
    exact .inl ⟨rfl, (Option.some.inj hk).symm⟩
  · next hik => exact .inr ⟨hik, hk⟩

/-- A caller takes a step. -/
theorem Fits.advance (h : c.Fits primary core c₀) {i : Nat} {caller : Caller β}
    (hi : c.callers[i]? = some caller) (hrest : caller.rest.isDone = false) :
    (c.advance i caller).Fits primary core c₀ := by
  have hcaller := h.caller i caller hi
  have hlt := (List.getElem?_eq_some_iff.1 hi).1
  obtain ⟨⟨hsound, hticks, hholds⟩, hkeeps⟩ := hcaller.keeps.next hrest h.sound
  obtain ⟨ts, hturns, hcounter, hvalue⟩ := turns_of_ticks (j := caller.journal) hticks h.counter
  have hall : (c.advance i caller).turns = c.turns ++ ts.map (i, ·) := by
    simp only [Crowd.advance, Caller.stepped, hturns, List.drop_left]
  have hof : ∀ k, (c.advance i caller).turnsOf k =
      if i = k then c.turnsOf k ++ ts else c.turnsOf k := by
    intro k
    rw [← turnsOf_append, turnsOf, turnsOf, hall]
  have hvalues : ∀ k : Nat, c₀ + UInt64.ofNat c.turns.length + UInt64.ofNat k =
      c₀ + UInt64.ofNat (c.turns.length + k) := by
    intro k
    rw [UInt64.ofNat_add, UInt64.add_assoc]
  refine ⟨hsound, ?_, fun k t ht => ?_, fun t ht => ?_, fun k other hk => ?_⟩
  · rw [hall, List.length_append, List.length_map, ← hvalues]
    exact hcounter
  · rw [hall] at ht
    by_cases hk : k < c.turns.length
    · exact h.value k t ((List.getElem?_append_left hk).symm.trans ht)
    · rw [Nat.not_lt] at hk
      rw [List.getElem?_append_right hk, List.getElem?_map, Option.map_eq_some_iff] at ht
      obtain ⟨u, hu, rfl⟩ := ht
      rw [hvalue _ u hu, hvalues, ← Nat.add_assoc, Nat.add_sub_cancel' hk]
  · have hlength : (c.advance i caller).callers.length = c.callers.length := List.length_set
    rw [hlength]
    rw [hall] at ht
    rcases List.mem_append.1 ht with ht | ht
    · exact h.known t ht
    · obtain ⟨u, -, rfl⟩ := List.mem_map.1 ht
      exact hlt
  · obtain ⟨rfl, rfl⟩ | ⟨hik, hk⟩ := callers_advance hlt hk
    · refine ⟨hholds, hkeeps, ?_⟩
      rw [hof, if_pos rfl, hcaller.turns]
      exact hturns.symm
    · have hother := h.caller k other hk
      refine ⟨hother.holds, hother.keeps, ?_⟩
      rw [hof, if_neg hik]
      exact hother.turns

theorem Fits.step (h : c.Fits primary core c₀) (e : Event β) : (c.step e).Fits primary core c₀ := by
  cases e with
  | stirs base =>
    refine ⟨⟨h.sound.selector, h.sound.registry⟩, h.counter, h.value, h.known, fun i caller hi => ?_⟩
    obtain ⟨hholds, hkeeps, hturns⟩ := h.caller i caller hi
    exact ⟨hholds, hkeeps, hturns⟩
  | steps i =>
    rw [Crowd.step]
    split
    · exact h
    · next caller hi =>
      split
      · exact h
      · next hrest => exact h.advance hi (Bool.not_eq_true _ ▸ hrest)

theorem Fits.run (h : c.Fits primary core c₀) (events : List (Event β)) :
    (c.run events).Fits primary core c₀ := by
  induction events generalizing c with
  | nil => exact h
  | cons e events ih => exact ih (h.step e)

/-! ## Where the turns stand -/

theorem turns_of_mem {i k : Nat} {t : Turn} (h : c.turns[k]? = some (i, t)) : t ∈ c.turnsOf i := by
  simpa [turnsOf] using List.mem_of_getElem? h

/-- The only turn of a caller has a place among all turns. -/
theorem turnsOf_eq_singleton {i : Nat} {t : Turn} (h : c.turnsOf i = [t]) :
    ∃ k, ∀ (k' : Nat) t', c.turns[k']? = some (i, t') ↔ k' = k ∧ t' = t := by
  rw [turnsOf] at h
  generalize c.turns = turns at h ⊢
  induction turns with
  | nil => cases h
  | cons u us ih =>
    by_cases hu : u.1 = i
    · rw [List.filter_cons, if_pos (decide_eq_true hu), List.map_cons, List.cons.injEq] at h
      obtain ⟨rfl, hus⟩ := h
      refine ⟨0, fun k' t' => ?_⟩
      cases k' with
      | zero => simp [Prod.ext_iff, hu, eq_comm]
      | succ k' =>
        have hnone : us[k']? ≠ some (i, t') := by
          intro hk
          have hmem := List.filter_eq_nil_iff.1 (List.map_eq_nil_iff.1 hus) _ (List.mem_of_getElem? hk)
          exact hmem (by simp)
        simpa using hnone
    · rw [List.filter_cons_of_neg (by simpa using hu)] at h
      obtain ⟨k, hk⟩ := ih h
      refine ⟨k + 1, fun k' t' => ?_⟩
      cases k' with
      | zero => simp [Prod.ext_iff, hu]
      | succ k' => simpa using hk k' t'

/-- The counter of a turn is how many turns have been taken with it. -/
theorem Fits.toNat_value (h : c.Fits primary core c₀) {k : Nat} {t : Nat × Turn}
    (ht : c.turns[k]? = some t) : t.2.value.toNat = (c₀.toNat + (k + 1)) % UInt64.size := by
  rw [h.value k t ht, UInt64.toNat_add, UInt64.toNat_ofNat', Nat.add_mod_mod]

theorem Fits.place_eq (h : c.Fits primary core c₀) {k : Nat} {t : Nat × Turn}
    (ht : c.turns[k]? = some t) :
    t.2.place = (c₀.toNat + (k + 1)) % UInt64.size % t.2.list.length := by
  rw [Turn.place, h.toNat_value ht]

theorem countP_eq_count {α : Type} {P : α → Bool} {q : Nat → Prop} [DecidablePred q] {l : List α}
    (h : ∀ k a, l[k]? = some a → (P a ↔ q k)) : l.countP P = Nat.count q l.length := by
  induction l using List.reverseRecOn with
  | nil => rfl
  | append_singleton l a ih =>
    have hlast : P a ↔ q l.length := h l.length a List.getElem?_concat_length
    rw [List.countP_append, List.length_append, List.length_singleton, Nat.count_succ, ih fun k b hb => ?_]
    · simp [List.countP_singleton, hlast]
    · refine h k b ?_
      rw [List.getElem?_append_left (List.getElem?_eq_some_iff.1 hb).1, hb]

/-- Turns in a row are spread evenly over an unchanged list. -/
theorem Fits.fair (h : c.Fits primary core c₀) {front stretch back : List (Nat × Turn)}
    {list : List Replica} (hturns : c.turns = front ++ stretch ++ back)
    (hlist : ∀ t ∈ stretch, t.2.list = list) {p q : Nat} (hq : q < list.length) :
    stretch.countP (·.2.place = p) ≤ stretch.countP (·.2.place = q) + 1 +
      Rotation.breaks list.length (c₀.toNat + front.length) stretch.length := by
  have hcount : ∀ r, stretch.countP (·.2.place = r) =
      Nat.count (fun i => (c₀.toNat + front.length + 1 + i) % Rotation.limit % list.length = r)
        stretch.length := by
    refine fun r => countP_eq_count fun k t ht => ?_
    have hk : k < stretch.length := (List.getElem?_eq_some_iff.1 ht).1
    have hall : c.turns[front.length + k]? = some t := by
      rw [hturns, List.append_assoc, List.getElem?_append_right (Nat.le_add_right _ _),
        Nat.add_sub_cancel_left, List.getElem?_append_left hk, ht]
    have hplace := h.place_eq hall
    rw [hlist t (List.mem_of_getElem? ht)] at hplace
    have hindex : c₀.toNat + (front.length + k + 1) = c₀.toNat + front.length + 1 + k := by omega
    rw [decide_eq_true_iff, hplace, hindex]
    rfl
  rw [hcount, hcount]
  exact Rotation.count_stretch_le hq _ _

/-! ## Reads rotate -/

/-- The connection that the read of a caller goes to, which has looked at the list of replicas three
steps before it asks for anything, not counting its turn. -/
inductive Goes (primary : ConnectionId) (c₀ : UInt64) (c : Crowd β) (i : Nat) (caller : Caller β)
    (usePrimary : Bool) : ConnectionId → Prop where
  | forced : usePrimary = true → c.turnsOf i = [] → Goes primary c₀ c i caller usePrimary primary
  /-- It has found no replicas. -/
  | empty : usePrimary = false → c.turnsOf i = [] → caller.journal.lists[3]? = some [] →
      Goes primary c₀ c i caller usePrimary primary
  /-- It has one turn, which is number `k + 1` of all turns. -/
  | turn {k : Nat} {t : Turn} {r : Replica} : usePrimary = false →
      (∀ (k' : Nat) t', c.turns[k']? = some (i, t') ↔ k' = k ∧ t' = t) →
      caller.journal.lists[4]? = some t.list →
      t.list[(c₀.toNat + (k + 1)) % UInt64.size % t.list.length]? = some r →
      Goes primary c₀ c i caller usePrimary r.connection

/-- The statement of a read, if it can be written, has been sent to the connection that the read goes to,
and nothing else has been asked for. -/
def Sent (primary : ConnectionId) (core : Core (Recorder β)) (c₀ : UInt64) (c : Crowd β) (i : Nat)
    (caller : Caller β) (call : Call) : Prop :=
  ∃ target q o, c.Goes primary c₀ i caller call.options.usePrimary target ∧ call.query core = .ok q ∧
    o.usePrimary = call.options.usePrimary ∧ (Request.query target q o).LoggedAs caller.journal.lines

/-- Reads rotate over the replicas, and everything else stays on the primary. -/
structure Rotates (primary : ConnectionId) (core : Core (Recorder β)) (c₀ : UInt64) (c : Crowd β) :
    Prop where
  /-- Nothing but a turn moves the counter. -/
  counter : c.site.counter = some (c₀ + UInt64.ofNat c.turns.length)
  reads : ∀ (i : Nat) caller call, c.callers[i]? = some caller → caller.errand = .call call →
    call.isRead = true → caller.journal.lines = [] ∨ c.Sent primary core c₀ i caller call
  /-- A read that has ended has sent its statement, or could not write it. -/
  ended : ∀ (i : Nat) caller call result, c.callers[i]? = some caller → caller.errand = .call call →
    call.isRead = true → caller.rest = .done result → c.Sent primary core c₀ i caller call ∨
      caller.journal.lines = [] ∧ c.turnsOf i = [] ∧ ∃ e, result = .error e ∧ call.query core = .error e
  /-- Writes and transactions, with the statements in them, stay on the primary. -/
  others : ∀ (i : Nat) caller, c.callers[i]? = some caller → caller.errand.isRead = false →
    caller.errand ≠ .refresh → ∀ e ∈ caller.journal.lines, e.request.StaysOn primary caller.journal.lines
  /-- A write that has ended has sent its statement to the primary, or could not write it. -/
  written : ∀ (i : Nat) caller call result, c.callers[i]? = some caller → caller.errand = .call call →
    call.isRead = false → caller.rest = .done result →
      Errand.Wrote primary core call caller.journal.lines result
  /-- A transaction that has ended has been asked for on the primary. If it could be begun there, all
  statements in it that could be written have been sent in it, and it has been ended. -/
  transacted : ∀ (i : Nat) caller result, c.callers[i]? = some caller → caller.rest = .done result →
    caller.errand.Transacted primary core caller.journal.lines
  refreshes : ∀ (i : Nat) caller, c.callers[i]? = some caller → caller.errand = .refresh →
    ∀ e ∈ caller.journal.lines, e.request.IsDiscovery
  /-- A turn is taken by a read that need not go to the primary and has found replicas. -/
  turns : ∀ (k i : Nat) t, c.turns[k]? = some (i, t) → ∃ caller call, c.callers[i]? = some caller ∧
    caller.errand = .call call ∧ call.isRead = true ∧ call.options.usePrimary = false ∧
    t.list ∈ caller.journal.lists ∧ t.list ≠ [] ∧
    t.place = (c₀.toNat + (k + 1)) % UInt64.size % t.list.length ∧ t.place < t.list.length
  /-- Turns in a row are spread evenly over an unchanged list, up to one turn and one more for each time
  that the counter begins again while `2 ^ 64` is no multiple of the length of the list. -/
  fair : ∀ front stretch back list p q, c.turns = front ++ stretch ++ back →
    (∀ t ∈ stretch, t.2.list = list) → q < list.length → stretch.countP (·.2.place = p) ≤
      stretch.countP (·.2.place = q) + 1 +
        Rotation.breaks list.length (c₀.toNat + front.length) stretch.length

theorem FitsAt.goes {i : Nat} {caller : Caller β} (h : c.FitsAt primary core i caller)
    (hplace : ∀ k t, c.turns[k]? = some t →
      t.2.place = (c₀.toNat + (k + 1)) % UInt64.size % t.2.list.length)
    {usePrimary : Bool} {target : ConnectionId}
    (hrouted : caller.journal.Routed primary usePrimary 3 target) :
    c.Goes primary c₀ i caller usePrimary target := by
  cases hrouted with
  | forced hf ht => exact .forced hf (h.turns.trans ht)
  | empty hf ht hl => exact .empty hf (h.turns.trans ht) hl
  | @turn t r hf ht hl hr =>
    obtain ⟨k, hk⟩ := turnsOf_eq_singleton (h.turns.trans ht)
    refine .turn hf hk hl ?_
    rwa [← hplace k (i, t) ((hk k t).2 ⟨rfl, rfl⟩)]

theorem Fits.sent (h : c.Fits primary core c₀) {i : Nat} {caller : Caller β} {call : Call}
    (hi : c.callers[i]? = some caller)
    (hreached : caller.journal.Reached primary call.options.usePrimary (call.query core)) :
    c.Sent primary core c₀ i caller call := by
  obtain ⟨target, q, o, hrouted, hrest⟩ := hreached
  exact ⟨target, q, o, (h.caller i caller hi).goes (fun _ _ => h.place_eq) hrouted, hrest⟩

theorem Fits.rotates (h : c.Fits primary core c₀) : c.Rotates primary core c₀ where
  counter := h.counter
  reads i caller call hi he hread := by
    have hholds := he ▸ (h.caller i caller hi).holds
    rcases Errand.underway_of_holds hread hholds with hidle | ⟨_, _, hbound⟩ | hreached
    · exact .inl hidle.lines
    · exact .inl hbound.lines
    · exact .inr (h.sent hi hreached)
  ended i caller call result hi he hread hdone := by
    have hfits := h.caller i caller hi
    have hkeeps := hfits.keeps
    rw [hdone, he] at hkeeps
    rcases Errand.reached_of_concludes hread hkeeps.of_done with hreached | ⟨hidle, hrefused⟩
    · exact .inl (h.sent hi hreached)
    · exact .inr ⟨hidle.lines, hfits.turns.trans hidle.turns, hrefused⟩
  others i caller hi hread hrefresh :=
    Errand.requests_of_holds hread hrefresh (h.caller i caller hi).holds
  written i caller call result hi he hread hdone := by
    have hkeeps := (h.caller i caller hi).keeps
    rw [hdone, he] at hkeeps
    exact Errand.wrote_of_concludes hread hkeeps.of_done
  transacted i caller result hi hdone := by
    have hkeeps := (h.caller i caller hi).keeps
    rw [hdone] at hkeeps
    exact Errand.transacted_of_concludes hkeeps.of_done
  refreshes i caller hi he := by
    have hholds := (h.caller i caller hi).holds
    rw [he] at hholds
    exact hholds.requests
  turns k i t ht := by
    have hlt := h.known _ (List.mem_of_getElem? ht)
    obtain ⟨caller, hi⟩ : ∃ caller, c.callers[i]? = some caller := ⟨_, List.getElem?_eq_getElem hlt⟩
    obtain ⟨hholds, -, hturns⟩ := h.caller i caller hi
    have hmem := hturns ▸ turns_of_mem ht
    cases hread : caller.errand.isRead with
    | false => exact absurd (Errand.turns_of_holds hread hholds ▸ hmem) List.not_mem_nil
    | true =>
      cases he : caller.errand with
      | call call =>
        rw [he] at hholds hread
        obtain ⟨hf, hl, hlt⟩ := (Errand.underway_of_holds hread hholds).of_turn hmem
        have hne := List.ne_nil_of_length_pos (Nat.zero_lt_of_lt hlt)
        exact ⟨caller, call, hi, he, hread, hf, hl, hne, h.place_eq ht, hlt⟩
      | _ =>
        rw [he] at hread
        cases hread
  fair _ _ _ _ _ _ hturns hlist hq := h.fair hturns hlist hq

/-- Whatever the callers of a database do in between each other, their reads rotate over the replicas and
everything else stays on the primary. -/
theorem reads_rotate [Driver β] {db : Database (Recorder β)} (hdb : db.connection = .spread primary)
    (hcore : db.core.interceptors = []) {site : Site (Recorder β)} (hregistry : site.registry.Valid)
    (hcounter : site.counter = some c₀) (errands : List Errand) (events : List (Event β)) :
    ((start db site errands).run events).Rotates primary db.core c₀ := by
  have hselector : site.selector.isSome := by
    rw [← Option.isSome_map (f := (·.counter))]
    exact Option.isSome_of_eq_some hcounter
  exact ((fits_start hdb hcore ⟨hselector, hregistry⟩ hcounter errands).run events).rotates

/-- A read of all orders. -/
def orderRead (usePrimary : Bool) : Call :=
  .select (Entity orderType) { options := { usePrimary } }

def spreadOrders : Database (Recorder Simulation) where
  core := {}
  connection := .spread 0

/-- A session with three replicas whose counter is about to begin again. -/
def spreadSite : Site (Recorder Simulation) where
  registry := {}
  selector := some
    { dsn := ⟨"app@tcp(", "db", 3306, ")/app"⟩
      interval := .second
      timeout := .second
      replicas := [⟨"replica_0", "app@tcp(10.0.0.1:3306)/app", 1⟩,
        ⟨"replica_1", "app@tcp(10.0.0.2:3306)/app", 2⟩, ⟨"replica_2", "app@tcp(10.0.0.3:3306)/app", 3⟩]
      counter := 0xFFFFFFFFFFFFFFFE }
  driver := { base := {} }

/-- Four reads, a read that has to go to the primary, a delete, a read in a transaction, a refresh that
finds nobody, and another read. -/
def orderErrands : List Errand :=
  List.replicate 4 (.call (orderRead false)) ++
    [.call (orderRead true), .call (.delete (Entity orderType) {}),
      .transaction (.call (orderRead false) fun _ => .leave (.returned (.ok ()))), .refresh,
      .call (orderRead false)]

/-- All of these at once, but the last read behind the refresh. -/
def busy : Crowd Simulation :=
  (start spreadOrders spreadSite orderErrands).run
    ((List.range 24).flatMap (fun _ => (List.range 8).map .steps) ++ List.replicate 12 (.steps 8))

/-- The connections that a caller has asked for something. -/
def targets (caller : Caller β) : List ConnectionId :=
  caller.journal.lines.filterMap fun
    | .asked (.query target _ _) => some target
    | .asked (.exec target _ _) => some target
    | .asked (.beginOn target) => some target
    | _ => none

theorem reads_rotate_at_wrap :
    spreadOrders.connection = .spread 0 ∧ spreadOrders.core.interceptors = [] ∧
      spreadSite.registry.Valid ∧ spreadSite.counter = some 0xFFFFFFFFFFFFFFFE ∧
      busy.turns.map (fun t => (t.1, t.2.place)) = [(1, 0), (2, 0), (3, 1), (0, 2)] ∧
      busy.callers.map targets = [[3], [1], [1], [2], [0], [0], [0], [], [0]] ∧
      busy.callers.all (·.rest.isDone) ∧
      busy.Rotates 0 spreadOrders.core 0xFFFFFFFFFFFFFFFE :=
  ⟨rfl, rfl, Registry.valid_empty, rfl, by decide +kernel, by decide +kernel, by decide +kernel,
    reads_rotate rfl rfl Registry.valid_empty rfl orderErrands _⟩

end Crowd

end EntityStore
