import EntityStore.Proofs.Replica.Refreshing

/-!
# Refreshes at the same time

A `Race` is a session in which any number of refreshes are under way, called by the background or by
anyone else, and each takes its steps whenever it likes. The marks of their answers and of their lists
are kept in order.

1. A step of a refresh adds its answer when it receives one and its list when it ends well, and only
   then the list of the session changes (`FitsAt.step`). So it is whatever happens (`Fits.run`).
2. Hence a list stands behind the one answer that it was made of (`Fits.exists_answer`), and it is newer
   than those before it unless one of these came between its answer and itself (`Fits.newest`).
3. Nothing keeps another refresh from that: it takes no turn, and no list knows when its answer was
   received (`refreshes_overlap_overtaken`).
-/

namespace EntityStore

open Job (Keeps)

variable {α β : Type}

/-! ## Several refreshes -/

/-- What matters of a refresh to others. -/
inductive Mark where
  /-- The resolver has answered. -/
  | answered (addresses : List IpAddr)
  /-- The list has been put in place. -/
  | installed (replicas : List Replica)
deriving DecidableEq

/-- The addresses that a line of a log answers. -/
def Entry.addresses? : Entry → Option (List IpAddr)
  | .answered _ (.addresses found) => some found
  | _ => none

/-- The answers of the resolver among some lines. -/
def answers (lines : List Entry) : List Mark := (lines.filterMap Entry.addresses?).map .answered

/-- Whether work has ended well. -/
def Job.succeeded {σ ε : Type} : Job σ (Except ε α) → Bool
  | .done (.ok _) => true
  | _ => false

theorem Job.eq_of_succeeded {σ ε : Type} {x : Job σ (Except ε Unit)} (h : x.succeeded = true) :
    x = .done (.ok ()) := by
  cases x with
  | done result =>
    cases result with
    | ok => rfl
    | error e => cases h
  | _ => cases h

theorem Job.exists_error_of_isDone {σ ε : Type} {x : Job σ (Except ε α)} (hdone : x.isDone = true)
    (h : x.succeeded = false) : ∃ e, x = .done (.error e) := by
  cases x with
  | done result =>
    cases result with
    | ok => cases h
    | error e => exact ⟨e, rfl⟩
  | _ => cases hdone

/-- Refreshes of one session. -/
structure Race (β : Type) where
  site : Site (Recorder β)
  /-- What is left to do of each refresh, in the order in which they were called. -/
  calls : List (Work (Recorder β) (Except Error Unit)) := []
  /-- The marks so far, each with the place of its refresh. -/
  history : List (Nat × Mark) := []

namespace Race

/-- What can happen next. -/
inductive Event (β : Type) where
  | begins
  | steps (i : Nat)
  /-- Others do anything but change the list. -/
  | stirs (driver : Recorder β) (registry : Registry) (counter : UInt64) (closed : Bool)

/-- The marks of a step of a refresh from one state to another: what is left of it then. -/
def marks (s t : Site (Recorder β)) (rest : Work (Recorder β) (Except Error Unit)) : List Mark :=
  answers (t.log.drop s.log.length) ++ if rest.succeeded then [.installed t.replicas] else []

/-- A refresh takes a step. -/
def advance (r : Race β) (i : Nat) (call : Work (Recorder β) (Except Error Unit)) : Race β :=
  let (rest, site) := call.step r.site
  { site, calls := r.calls.set i rest, history := r.history ++ (marks r.site site rest).map (i, ·) }

def step [Driver β] (r : Race β) : Event β → Race β
  | .begins => { r with calls := r.calls ++ [Selector.refresh] }
  | .steps i =>
    match r.calls[i]? with
    | none => r
    | some call => if call.isDone then r else r.advance i call
  | .stirs driver registry counter closed =>
    let selector := r.site.selector.map fun s => { s with counter, closed }
    { r with site := { driver, registry, selector } }

def run [Driver β] (r : Race β) (events : List (Event β)) : Race β := events.foldl step r

/-- The marks of one refresh. -/
def marksOf (i : Nat) (history : List (Nat × Mark)) : List Mark :=
  (history.filter (·.1 = i)).map (·.2)

/-- The list that a mark puts in place. -/
def installed? : Nat × Mark → Option (List Replica)
  | (_, .installed replicas) => some replicas
  | _ => none

/-- The list put in place last, or the one that was there before. -/
def latest (initial : List Replica) (history : List (Nat × Mark)) : List Replica :=
  ((history.filterMap installed?).getLast?).getD initial

/-- A list has an entry for each address of an answer, in order. -/
def Lists (dsn : Dsn) (addresses : List IpAddr) (replicas : List Replica) : Prop :=
  (replicas.map fun r => (r.name, r.dsn)) =
    addresses.zipIdx.map fun a => (Selector.replicaName a.2, (dsn.withAddress a.1).text)

/-- What holds of one refresh: it has received what it has in its own lines, and has put a list in place
when it has ended well. -/
inductive FitsAt (dsn : Dsn) : Work (Recorder β) (Except Error Unit) → List Mark → Prop where
  | underway {call : Work (Recorder β) (Except Error Unit)} {p : Progress} :
      call.succeeded = false → Keeps (Progress.rules dsn) (Progress.Concludes dsn) call p →
      FitsAt dsn call (answers p.lines)
  | succeeded {addresses : List IpAddr} {replicas : List Replica} : Lists dsn addresses replicas →
      FitsAt dsn (.done (.ok ())) [.answered addresses, .installed replicas]

/-- The list is the one put in place last. -/
structure Fits (dsn : Dsn) (initial : List Replica) (r : Race β) : Prop where
  list : r.site.list = some (dsn, latest initial r.history)
  known : ∀ m ∈ r.history, m.1 < r.calls.length
  call : ∀ i call, r.calls[i]? = some call → FitsAt dsn call (marksOf i r.history)

variable {dsn : Dsn} {initial : List Replica} {r : Race β}

theorem answers_append (lines more : List Entry) :
    answers (lines ++ more) = answers lines ++ answers more := by
  simp [answers]

/-- The only answer of a discovery is that of the resolver. -/
theorem answers_of_from {known : List Replica} {d : Discovery} (h : d.From dsn known) :
    answers d.log = [.answered d.addresses] := by
  have hopening : ((Selector.fresh known d.replicas).flatMap Selector.opening).filterMap
      Entry.addresses? = [] := by
    rw [List.filterMap_eq_nil_iff]
    intro e he
    obtain ⟨q, -, he⟩ := List.mem_flatMap.1 he
    simp only [Selector.opening, Request.answeredBy, List.mem_cons, List.not_mem_nil, or_false] at he
    rcases he with rfl | rfl <;> rfl
  rw [h.log, answers, List.filterMap_append, hopening, List.append_nil]
  rfl

/-- A refresh that takes a step keeps to what holds of it, and the list changes only if the refresh ends
well with it. -/
theorem FitsAt.step {call rest : Work (Recorder β) (Except Error Unit)} {before : List Mark}
    (h : FitsAt dsn call before) (hrest : call.isDone = false) {s t : Site (Recorder β)}
    (hs : (Progress.rules dsn).holds s) (hstep : call.step s = (rest, t)) :
    FitsAt dsn rest (before ++ marks s t rest) ∧
      (rest.succeeded = false → t.list = s.list) ∧ t.list = some (dsn, t.replicas) := by
  cases h with
  | succeeded => cases hrest
  | @underway _ p _ hkeeps =>
    obtain ⟨⟨hp, ⟨list, ht⟩, lines, hlog⟩, hnext⟩ := hkeeps.next hrest hs
    rw [hstep] at ht hlog hnext
    replace hnext : Keeps (Progress.rules dsn) (Progress.Concludes dsn) rest (p.noted s t) := hnext
    have hlines : (p.noted s t).lines = p.lines ++ lines := Progress.lines_noted hlog
    have hmarks : answers p.lines ++ answers (t.log.drop s.log.length) =
        answers (p.noted s t).lines := by
      rw [hlines, answers_append, hlog, List.drop_left]
    have hlist : t.list = some (dsn, t.replicas) := by rw [Site.replicas_of_list ht, ht]
    refine ⟨?_, fun hfailed => ?_, hlist⟩
    · cases hsucceeded : rest.succeeded with
      | false =>
        rw [marks, hsucceeded, if_neg Bool.false_ne_true, List.append_nil, hmarks]
        exact .underway hsucceeded hnext
      | true =>
        obtain rfl := Job.eq_of_succeeded hsucceeded
        obtain ⟨known, hfrom⟩ := hnext.of_done
        have hanswers : answers (p.noted s t).lines = _ := answers_of_from hfrom
        rw [marks, hsucceeded, if_pos rfl, ← List.append_assoc, hmarks, hanswers]
        exact .succeeded hfrom.entries
    · -- a step that has changed the list is the last one, so the refresh would have ended well
      by_contra hchanged
      cases hdone : rest.isDone with
      | false => exact (hnext.next hdone ⟨_, hlist⟩).1.1 hchanged
      | true =>
        obtain ⟨e, rfl⟩ := Job.exists_error_of_isDone hdone hfailed
        exact hnext.of_done hchanged

theorem latest_append_answers (history : List (Nat × Mark)) (i : Nat) (lines : List Entry) :
    latest initial (history ++ (answers lines).map (i, ·)) = latest initial history := by
  have hnil : ((answers lines).map (i, ·)).filterMap installed? = [] := by
    rw [List.filterMap_eq_nil_iff]
    intro m hm
    simp only [answers, List.map_map, List.mem_map] at hm
    obtain ⟨addresses, -, rfl⟩ := hm
    rfl
  rw [latest, List.filterMap_append, hnil, List.append_nil, latest]

theorem latest_append_installed (history : List (Nat × Mark)) (i : Nat) (replicas : List Replica) :
    latest initial (history ++ [(i, .installed replicas)]) = replicas := by
  rw [latest, List.filterMap_append]
  simp [installed?]

theorem marksOf_append (i : Nat) (before after : List (Nat × Mark)) :
    marksOf i (before ++ after) = marksOf i before ++ marksOf i after := by
  simp [marksOf]

theorem marksOf_cons_self (i : Nat) (mark : Mark) (after : List (Nat × Mark)) :
    marksOf i ((i, mark) :: after) = mark :: marksOf i after := by
  simp [marksOf]

theorem marksOf_map (i j : Nat) (ms : List Mark) :
    marksOf j (ms.map (i, ·)) = if i = j then ms else [] := by
  simp only [marksOf, List.filter_map]
  split <;> simp_all [Function.comp_def]

theorem marksOf_eq_nil_iff {i : Nat} {history : List (Nat × Mark)} :
    marksOf i history = [] ↔ ∀ m ∈ history, m.1 ≠ i := by
  simp [marksOf, List.filter_eq_nil_iff]

theorem exists_split_of_marksOf {i : Nat} {mark : Mark} {history : List (Nat × Mark)}
    (h : marksOf i history = [mark]) :
    ∃ early late, history = early ++ (i, mark) :: late ∧ ∀ m ∈ early ++ late, m.1 ≠ i := by
  obtain ⟨⟨k, _⟩, hfilter, rfl⟩ := List.map_eq_singleton_iff.1 h
  obtain ⟨early, late, rfl, hearly, hk, hlate⟩ := List.filter_eq_cons_iff.1 hfilter
  obtain rfl : k = i := of_decide_eq_true hk
  refine ⟨early, late, rfl, fun m hm => ?_⟩
  rcases List.mem_append.1 hm with hm | hm
  · exact fun hmk => hearly m hm (decide_eq_true hmk)
  · exact fun hmk => List.filter_eq_nil_iff.1 hlate m hm (decide_eq_true hmk)

theorem not_mem_answers {lines : List Entry} {replicas : List Replica} :
    .installed replicas ∉ answers lines := by
  simp [answers]

/-- A refresh with a list has received one answer before. -/
theorem FitsAt.of_installed {call : Work (Recorder β) (Except Error Unit)} {before after : List Mark}
    {replicas : List Replica} (h : FitsAt dsn call (before ++ .installed replicas :: after)) :
    ∃ addresses, before = [.answered addresses] ∧ after = [] ∧ Lists dsn addresses replicas := by
  generalize hmarks : before ++ .installed replicas :: after = all at h
  cases h with
  | @underway _ p _ _ =>
    have hmem : .installed replicas ∈ answers p.lines := by
      rw [← hmarks]
      exact List.mem_append_right _ List.mem_cons_self
    exact absurd hmem not_mem_answers
  | @succeeded addresses found hlists =>
    rcases List.append_eq_cons_iff.1 hmarks with ⟨-, hcons⟩ | ⟨rest, rfl, hrest⟩
    · cases hcons
    · cases rest with
      | nil =>
        cases hrest
        exact ⟨addresses, rfl, rfl, hlists⟩
      | cons => simp at hrest

theorem latest_append_marks {s t : Site (Recorder β)} {rest : Work (Recorder β) (Except Error Unit)}
    {history : List (Nat × Mark)} (hs : s.list = some (dsn, latest initial history))
    (hquiet : rest.succeeded = false → t.list = s.list) (hlist : t.list = some (dsn, t.replicas))
    (i : Nat) :
    t.list = some (dsn, latest initial (history ++ (marks s t rest).map (i, ·))) := by
  unfold marks
  cases hsucceeded : rest.succeeded with
  | false =>
    rw [if_neg Bool.false_ne_true, List.append_nil, latest_append_answers, hquiet hsucceeded, hs]
  | true =>
    rw [if_pos rfl, List.map_append, ← List.append_assoc, List.map_singleton,
      latest_append_installed]
    exact hlist

/-- A refresh takes a step. -/
theorem Fits.advance (h : r.Fits dsn initial) {i : Nat}
    {call : Work (Recorder β) (Except Error Unit)} (hi : r.calls[i]? = some call)
    (hrest : call.isDone = false) : (r.advance i call).Fits dsn initial := by
  have hlt := (List.getElem?_eq_some_iff.1 hi).1
  cases hstep : call.step r.site with
  | mk rest t =>
    obtain ⟨hcall, hquiet, hlist⟩ := (h.call i call hi).step hrest ⟨_, h.list⟩ hstep
    simp only [Race.advance, hstep]
    refine ⟨latest_append_marks h.list hquiet hlist i, fun m hm => ?_, fun k other hk => ?_⟩
    · rw [List.length_set]
      rcases List.mem_append.1 hm with hm | hm
      · exact h.known m hm
      · obtain ⟨mark, -, rfl⟩ := List.mem_map.1 hm
        exact hlt
    · rw [marksOf_append, marksOf_map]
      by_cases hik : i = k
      · subst hik
        rw [List.getElem?_set_self hlt] at hk
        cases hk
        rw [if_pos rfl]
        exact hcall
      · rw [List.getElem?_set_ne hik] at hk
        rw [if_neg hik, List.append_nil]
        exact h.call k other hk

theorem Fits.marksOf_eq_nil (h : r.Fits dsn initial) {i : Nat} (hi : r.calls.length ≤ i) :
    marksOf i r.history = [] :=
  marksOf_eq_nil_iff.2 fun m hm => ((h.known m hm).trans_le hi).ne

/-- A refresh that has put a list in place has received one answer, before, and the list is that of the
answer. -/
theorem Fits.exists_answer (h : r.Fits dsn initial) {before after : List (Nat × Mark)} {i : Nat}
    {replicas : List Replica} (hr : r.history = before ++ (i, .installed replicas) :: after) :
    ∃ early addresses late, before = early ++ (i, .answered addresses) :: late ∧
      (∀ m ∈ early ++ late ++ after, m.1 ≠ i) ∧ Lists dsn addresses replicas := by
  have hknown : i < r.calls.length := h.known (i, .installed replicas) (by simp [hr])
  have hcall := h.call i _ (List.getElem?_eq_getElem hknown)
  rw [hr, marksOf_append, marksOf_cons_self] at hcall
  obtain ⟨addresses, hbefore, hafter, hlists⟩ := hcall.of_installed
  obtain ⟨early, late, rfl, hothers⟩ := exists_split_of_marksOf hbefore
  refine ⟨early, addresses, late, rfl, fun m hm => ?_, hlists⟩
  rcases List.mem_append.1 hm with hm | hm
  · exact hothers m hm
  · exact marksOf_eq_nil_iff.1 hafter m hm

/-- A list is newer than those put in place before it, if none of them was between its answer and
itself. -/
theorem Fits.newest (h : r.Fits dsn initial) {early late after : List (Nat × Mark)} {i : Nat}
    {addresses : List IpAddr} {replicas : List Replica}
    (hr : r.history = early ++ (i, .answered addresses) :: late ++ (i, .installed replicas) :: after)
    (hlate : ∀ m ∈ late, installed? m = none) {j : Nat} {others : List Replica}
    (hj : (j, .installed others) ∈ early ++ (i, .answered addresses) :: late) :
    ∃ found, (j, .answered found) ∈ early ∧ Lists dsn found others := by
  have hmem : (j, .installed others) ∈ early := by
    rcases List.mem_append.1 hj with hj | hj
    · exact hj
    · rcases List.mem_cons.1 hj with hj | hj
      · cases hj
      · cases hlate _ hj
  obtain ⟨before, between, rfl⟩ := List.append_of_mem hmem
  rw [List.append_assoc, List.append_assoc] at hr
  obtain ⟨first, found, rest, hbefore, -, hlists⟩ := h.exists_answer hr
  refine ⟨found, ?_, hlists⟩
  rw [hbefore]
  simp

variable [Driver β]

theorem Fits.step (h : r.Fits dsn initial) (e : Event β) : (r.step e).Fits dsn initial := by
  cases e with
  | begins =>
    refine ⟨h.list, fun m hm => ?_, fun i call hi => ?_⟩
    · exact (h.known m hm).trans_le (by simp [Race.step])
    · have hi' : (r.calls ++ [Selector.refresh])[i]? = some call := hi
      rw [List.getElem?_append] at hi'
      split at hi'
      · exact h.call i call hi'
      · next hge =>
        obtain rfl := List.mem_singleton.1 (List.mem_of_getElem? hi')
        change FitsAt dsn _ (marksOf i r.history)
        rw [h.marksOf_eq_nil (Nat.not_lt.1 hge)]
        exact .underway (p := {}) rfl Progress.keeps_refresh
  | steps i =>
    rw [Race.step]
    split
    · exact h
    · next call hi =>
      split
      · exact h
      · next hrest => exact h.advance hi (Bool.not_eq_true _ ▸ hrest)
  | stirs driver registry counter closed =>
    refine ⟨Eq.trans ?_ h.list, h.known, h.call⟩
    exact Option.map_map _ _ _

theorem Fits.run (h : r.Fits dsn initial) (events : List (Event β)) :
    (r.run events).Fits dsn initial := by
  induction events generalizing r with
  | nil => exact h
  | cons e events ih => exact ih (h.step e)

/-- However the steps of refreshes come after each other, with anything else in between:
* the list of the session is the one put in place last;
* a refresh that puts a list in place has received one answer, before, and the list is that of the
  answer;
* the list is newer than those put in place before it, if none of them was between its answer and
  itself. -/
theorem refreshes_overlap {site : Site (Recorder β)} (h : site.list = some (dsn, initial))
    (events : List (Event β)) :
    let r := run { site } events
    r.site.list = some (dsn, latest initial r.history) ∧
    (∀ before after i replicas, r.history = before ++ (i, .installed replicas) :: after →
      ∃ early addresses late, before = early ++ (i, .answered addresses) :: late ∧
        (∀ m ∈ early ++ late ++ after, m.1 ≠ i) ∧ Lists dsn addresses replicas) ∧
    ∀ early late after i addresses replicas,
      r.history = early ++ (i, .answered addresses) :: late ++ (i, .installed replicas) :: after →
      (∀ m ∈ late, installed? m = none) →
      ∀ j others, (j, .installed others) ∈ early ++ (i, .answered addresses) :: late →
        ∃ found, (j, .answered found) ∈ early ∧ Lists dsn found others := by
  have hstart : Fits dsn initial { site } := by
    refine ⟨h, fun m hm => absurd hm List.not_mem_nil, fun i call hi => ?_⟩
    cases hi
  have hr := hstart.run events
  exact ⟨hr.list, fun _ _ _ _ => hr.exists_answer, fun _ _ _ _ _ _ hsplit hlate _ _ =>
    hr.newest hsplit hlate⟩

/-- A session whose replicas are found at one host. -/
def settled : Race Simulation where
  site := ((Selector.start Watch.clusterName .second .second).run (Watch.hosts [.v4 10 0 0 1])).2

/-- A refresh has its answer, then the host is another one, a second refresh begins and ends, and the
first one goes on. -/
def overtaking : List (Event Simulation) :=
  let asking : List (Event Simulation) := .begins :: List.replicate 6 (.steps 0)
  let site := (settled.run asking).site
  let moved := { site.driver with base :=
    { site.driver.base with resolver := { addresses := [.v4 10 0 0 2] } } }
  asking ++ [.stirs moved site.registry 0 false, .begins] ++ List.replicate 12 (.steps 1) ++
    List.replicate 2 (.steps 0)

/-- The list of an older answer can be put in place after one of a newer answer, and then the session
keeps to a host that is gone. -/
theorem refreshes_overlap_overtaken :
    (settled.run overtaking).history =
      [(0, .answered [.v4 10 0 0 1]), (1, .answered [.v4 10 0 0 2]),
        (1, .installed [⟨"replica_0", "app@tcp(10.0.0.2:3306)/app", 1⟩]),
        (0, .installed [⟨"replica_0", "app@tcp(10.0.0.1:3306)/app", 0⟩])] ∧
      ∃ dsn, (settled.run overtaking).site.list =
        some (dsn, [⟨"replica_0", "app@tcp(10.0.0.1:3306)/app", 0⟩]) := by
  have hhistory : (settled.run overtaking).history =
      [(0, .answered [.v4 10 0 0 1]), (1, .answered [.v4 10 0 0 2]),
        (1, .installed [⟨"replica_0", "app@tcp(10.0.0.2:3306)/app", 1⟩]),
        (0, .installed [⟨"replica_0", "app@tcp(10.0.0.1:3306)/app", 0⟩])] := by decide +kernel
  have hsome : settled.site.list.isSome = true := by decide +kernel
  obtain ⟨⟨dsn, initial⟩, hlist⟩ := Option.isSome_iff_exists.1 hsome
  obtain ⟨hlatest, -⟩ := refreshes_overlap hlist overtaking
  refine ⟨hhistory, dsn, ?_⟩
  change (settled.run overtaking).site.list =
    some (dsn, latest initial (settled.run overtaking).history) at hlatest
  rw [hlatest, hhistory]
  rfl

end Race

end EntityStore
