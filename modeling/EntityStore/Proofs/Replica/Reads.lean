import EntityStore.Proofs.Replica.Fairness
import EntityStore.Proofs.Session.Errands

/-!
# Where reads go

A read outside of transactions looks at the list of replicas and takes a turn, if it need not go to the
primary and the list is not empty (`Selector.keeps_pick`). Then it sends its statement to one
connection: that of the replica whose turn it is, or the primary (`Connection.keeps_endpoint`). So it
is waiting, or it has reached one connection, and it ends without reaching one only if its statement
cannot be written (`Errand.keeps_read`). Others may take turns and replace the list between any two of
its steps.
-/

namespace EntityStore

open Job (Keeps Steps)
open Journal (Closed rules)
open Session (Call)
open Site (Plain Sound)

variable {α β : Type}

/-! ## Where a read goes -/

/-- The place in the list that comes up. -/
def Turn.place (t : Turn) : Nat := t.value.toNat % t.list.length

namespace Journal

variable {primary target : ConnectionId} {usePrimary : Bool} {query : Except Error Query} {n : Nat}
  {j : Journal}

/-- The connection that a read goes to which has looked at the list of replicas `n` steps ago, not
counting its turn. -/
inductive Routed (primary : ConnectionId) (usePrimary : Bool) (n : Nat) (j : Journal) :
    ConnectionId → Prop where
  | forced : usePrimary = true → j.turns = [] → Routed primary usePrimary n j primary
  | empty : usePrimary = false → j.turns = [] → j.lists[n]? = some [] →
      Routed primary usePrimary n j primary
  | turn {t : Turn} {r : Replica} : usePrimary = false → j.turns = [t] → j.lists[n + 1]? = some t.list →
      t.list[t.place]? = some r → Routed primary usePrimary n j r.connection

/-- A read that has not asked for anything, and has taken no turn. -/
structure Idle (j : Journal) : Prop where
  lines : j.lines = []
  turns : j.turns = []

/-- A read that is about to send its statement to a connection. -/
structure Bound (primary : ConnectionId) (usePrimary : Bool) (n : Nat) (target : ConnectionId)
    (j : Journal) : Prop where
  lines : j.lines = []
  routed : j.Routed primary usePrimary n target

/-- A read that has sent its statement to the connection that it goes to, and to no other. Between
looking at the list and sending it has looked up the name of the connection and left a note. -/
def Reached (primary : ConnectionId) (usePrimary : Bool) (query : Except Error Query) (j : Journal) :
    Prop :=
  ∃ target q o, j.Routed primary usePrimary 3 target ∧ query = .ok q ∧ o.usePrimary = usePrimary ∧
    (Request.query target q o).LoggedAs j.lines

/-- A read at work. -/
def Underway (primary : ConnectionId) (usePrimary : Bool) (query : Except Error Query)
    (j : Journal) : Prop :=
  j.Idle ∨ (∃ n target, j.Bound primary usePrimary n target) ∨ j.Reached primary usePrimary query

theorem Routed.asked_of_nil (hnil : j.lines = []) (h : j.Routed primary usePrimary n target)
    (es : List Entry) (list : List Replica) :
    (j.asked es list).Routed primary usePrimary (n + 1) target := by
  have hlists : (j.asked es list).lists = list :: j.lists := if_pos hnil
  cases h with
  | forced hf ht => exact .forced hf ht
  | empty hf ht hl => exact .empty hf ht (by rw [hlists, List.getElem?_cons_succ, hl])
  | turn hf ht hl hr => exact .turn hf ht (by rw [hlists, List.getElem?_cons_succ, hl]) hr

/-- What is found after the request does not count. -/
theorem Routed.asked_of_ne_nil (hne : j.lines ≠ []) (h : j.Routed primary usePrimary n target)
    (es : List Entry) (list : List Replica) : (j.asked es list).Routed primary usePrimary n target := by
  have hlists : (j.asked es list).lists = j.lists := if_neg hne
  cases h with
  | forced hf ht => exact .forced hf ht
  | empty hf ht hl => exact .empty hf ht (hlists ▸ hl)
  | turn hf ht hl hr => exact .turn hf ht (hlists ▸ hl) hr

theorem Bound.asked (h : j.Bound primary usePrimary n target) (list : List Replica) :
    (j.asked [] list).Bound primary usePrimary (n + 1) target :=
  ⟨(List.append_nil _).trans h.lines, h.routed.asked_of_nil h.lines [] list⟩

/-- A read that has just looked at a list takes its turn. -/
theorem Idle.turned (hj : j.Idle) (primary : ConnectionId) {list : List Replica}
    {rest : List (List Replica)} (hlists : j.lists = list :: rest) {value : UInt64} {r : Replica}
    (hr : Selector.replicaAt list value = some r) (seen : List Replica) :
    Bound primary false 0 r.connection
      { j.asked [] seen with turns := j.turns ++ [⟨list, value⟩] } := by
  have hseen : (j.asked [] seen).lists = seen :: j.lists := if_pos hj.lines
  refine ⟨(List.append_nil _).trans hj.lines, .turn (t := ⟨list, value⟩) rfl ?_ ?_ hr⟩
  · rw [hj.turns]
    rfl
  · change (j.asked [] seen).lists[1]? = some list
    rw [hseen, hlists]
    rfl

theorem Routed.of_turn (h : j.Routed primary usePrimary n target) {t : Turn} (ht : t ∈ j.turns) :
    usePrimary = false ∧ t.list ∈ j.lists ∧ t.place < t.list.length := by
  cases h with
  | forced _ hnil => exact absurd (hnil ▸ ht) List.not_mem_nil
  | empty _ hnil _ => exact absurd (hnil ▸ ht) List.not_mem_nil
  | turn hf hone hl hr =>
    rw [hone, List.mem_singleton] at ht
    subst ht
    exact ⟨hf, List.mem_of_getElem? hl, (List.getElem?_eq_some_iff.1 hr).1⟩

/-- Only a read that need not go to the primary takes a turn, with a list that it has found. -/
theorem Underway.of_turn (h : j.Underway primary usePrimary query) {t : Turn} (ht : t ∈ j.turns) :
    usePrimary = false ∧ t.list ∈ j.lists ∧ t.place < t.list.length := by
  rcases h with h | ⟨_, _, h⟩ | ⟨_, _, _, hrouted, _⟩
  · exact absurd (h.turns ▸ ht) List.not_mem_nil
  · exact h.routed.of_turn ht
  · exact hrouted.of_turn ht

theorem closed_idle : Closed (fun _ => False) Idle := by
  refine fun j es list hj hes => ⟨?_, hj.turns⟩
  rw [asked, List.eq_nil_iff_forall_not_mem.2 hes]
  exact (List.append_nil _).trans hj.lines

end Journal

open Journal (Idle Bound Reached Underway)

/-! ## Turns -/

/-- The state when the counter has moved on by one. -/
def Site.turned (s : Site β) : Site β :=
  { s with selector := s.selector.map fun sel => { sel with counter := sel.counter + 1 } }

namespace Selector

variable {s : Site (Recorder β)} {sel : Selector}

theorem counter_turned (s : Site (Recorder β)) : s.turned.counter = s.counter.map (· + 1) := by
  rw [Site.counter, Site.counter, Option.map_map, Site.turned, Option.map_map]
  rfl

theorem step_takeTurn (hsel : s.selector = some sel) :
    takeTurn.step s = (.done (some (sel.counter + 1)), s.turned) := by
  rw [takeTurn, Job.step]
  simp only [Site.turned, hsel]
  rfl

theorem add_turned {j : Journal} {list : List Replica} (hlist : j.lists.head? = some list)
    (hsel : s.selector = some sel) :
    j.add s s.turned =
      { j.asked [] s.replicas with turns := j.turns ++ [⟨list, sel.counter + 1⟩] } := by
  have hvalue : s.counter = some sel.counter := by rw [Site.counter, hsel]; rfl
  have hne : ¬ s.turned.counter = s.counter := by
    rw [counter_turned, hvalue]
    simp
  have hlog : s.turned.log.drop s.log.length = [] := List.drop_length
  rw [Journal.add, if_neg hne, hlog, counter_turned, hvalue, List.headD_eq_head?_getD, hlist]
  rfl

/-- Taking a turn is one step, which moves the counter on by one. -/
theorem keeps_takeTurn {I : Journal → Prop} {Q : Journal → Option UInt64 → Prop} {j : Journal}
    {list : List Replica} (hlist : j.lists.head? = some list)
    (h : ∀ value seen,
      I { j.asked [] seen with turns := j.turns ++ [⟨list, value⟩] } ∧
        Q { j.asked [] seen with turns := j.turns ++ [⟨list, value⟩] } (some value)) :
    Keeps (rules I) Q (takeTurn : Work (Recorder β) _) j := by
  have hsel : ∀ s : Site (Recorder β), s.Sound → ∃ sel, s.selector = some sel :=
    fun s hs => Option.isSome_iff_exists.1 hs.selector
  refine .step rfl (fun s hs => ?_) fun s hs => ?_
  · obtain ⟨sel, hsel⟩ := hsel s hs
    rw [step_takeTurn hsel]
    refine ⟨⟨(Option.isSome_map ..).trans hs.selector, hs.registry⟩, .inr (counter_turned s), ?_⟩
    rw [add_turned hlist hsel]
    exact (h _ _).1
  · obtain ⟨sel, hsel⟩ := hsel s hs
    rw [step_takeTurn hsel]
    refine .done ?_
    change Q (j.add s s.turned) _
    rw [add_turned hlist hsel]
    exact (h _ _).2

/-- A read takes a turn with the list that it has found before, or goes to the primary. -/
theorem keeps_pick {primary : ConnectionId} {usePrimary : Bool} {I : Journal → Prop}
    (hI : ∀ j, j.Idle ∨ (∃ n target, j.Bound primary usePrimary n target) → I j) {j : Journal}
    (hj : j.Idle) :
    Keeps (rules I) (fun j picked => j.Bound primary usePrimary 0 (picked.getD primary))
      (pick usePrimary : Work (Recorder β) _) j := by
  cases usePrimary with
  | true => exact .done ⟨hj.lines, .forced rfl hj.turns⟩
  | false =>
    refine Journal.keeps_read (fun s => ?_) fun s hs => ?_
    · cases s.selector with
      | none => rfl
      | some sel =>
        dsimp only
        split <;> rfl
    · obtain ⟨sel, hsel⟩ := Option.isSome_iff_exists.1 hs.selector
      have hlist : s.replicas = sel.replicas := by rw [Site.replicas, hsel]; rfl
      have hlists : (j.asked [] s.replicas).lists = sel.replicas :: j.lists :=
        (if_pos hj.lines).trans (congrArg (· :: j.lists) hlist)
      have hloaded := Journal.closed_idle j [] s.replicas hj fun _ he => absurd he List.not_mem_nil
      refine ⟨hI _ (.inl hloaded), ?_⟩
      rw [hsel]
      dsimp only
      by_cases hnil : sel.replicas = []
      · rw [if_pos (List.isEmpty_iff.2 hnil)]
        exact .done ⟨hloaded.lines, .empty rfl hloaded.turns (by rw [hlists, hnil]; rfl)⟩
      · rw [if_neg (mt List.isEmpty_iff.1 hnil)]
        refine (keeps_takeTurn (Q := fun j turn => j.Bound primary false 0
          (((turn.bind (replicaAt sel.replicas)).map (·.connection)).getD primary))
          (congrArg List.head? hlists) fun value seen => ?_).bind (fun _ => rfl) fun _ _ hj => .done hj
        obtain ⟨r, hr⟩ := Option.isSome_iff_exists.1 (replicaAt_isSome hnil value)
        have hbound := hloaded.turned primary hlists hr seen
        exact ⟨hI _ (.inr ⟨0, _, hbound⟩), by simpa [hr] using hbound⟩

end Selector

section

variable [Driver β] {primary : ConnectionId} {usePrimary : Bool} {query : Except Error Query}
  {j : Journal}

namespace Connection

theorem keeps_reader {I : Journal → Prop}
    (hI : ∀ j, j.Idle ∨ (∃ n target, j.Bound primary usePrimary n target) → I j) (hj : j.Idle) :
    Keeps (rules I) (fun j target => j.Bound primary usePrimary 2 target)
      ((spread primary).reader usePrimary : Work (Recorder β) _) j := by
  refine (Selector.keeps_pick hI hj).bind (fun _ => rfl) fun j picked hj => ?_
  have hbound : ∀ {n target j}, Bound primary usePrimary n target j → I j :=
    fun hj => hI _ (.inr ⟨_, _, hj⟩)
  have hname : Keeps (rules I) (fun j _ => j.Bound primary usePrimary 1 (picked.getD primary))
      (Site.connectionName (picked.getD primary) : Work (Recorder β) _) j :=
    Journal.keeps_read (fun _ => rfl) fun s _ => ⟨hbound (hj.asked _), .done (hj.asked _)⟩
  refine hname.bind (fun _ => rfl) fun j name hj => ?_
  have hnote : ∀ n, Keeps (rules I) (fun j _ => j.Bound primary usePrimary 2 (picked.getD primary))
      (Site.note n : Work (Recorder β) _) j := by
    refine fun n => Journal.keeps_modify [] (fun s => ⟨Site.plain_of_sameLog rfl, ?_⟩) fun list => ?_
    · exact (List.append_nil _).symm
    · exact ⟨hbound (hj.asked list), hj.asked list⟩
  exact (hnote _).bind (fun _ => rfl) fun j _ hj => .done hj

/-- A statement that is sent to the connection of a read reaches that connection, also if it is given up
there. -/
theorem keeps_sent {target : ConnectionId} {q : Query} {o : CallOptions} (limit : Option Duration)
    {f : Except Error Rows → Except Error Output} (hj : j.Bound primary usePrimary 2 target)
    (hq : query = .ok q) (ho : o.usePrimary = usePrimary) :
    Keeps (rules (Reached primary usePrimary query)) (fun j _ => j.Reached primary usePrimary query)
      (withDeadline limit ((Site.ofDriver (Driver.query target q o)).bind fun r => .done (f r)) :
        Work (Recorder β) _) j := by
  have hask : Keeps (rules (Reached primary usePrimary query))
      (fun j _ => j.Reached primary usePrimary query)
      (Site.ofDriver (Driver.query target q o) : Work (Recorder β) _) j := by
    refine Journal.keeps_ask (A := fun j => j.lines = [.asked (.query target q o)] ∧
      j.Routed primary usePrimary 3 target) _ ?_ ?_ ?_ ?_
    · intro j es list hj hes
      rw [List.eq_nil_iff_forall_not_mem.2 hes]
      have hne : j.lines ≠ [] := hj.1 ▸ List.cons_ne_nil _ _
      exact ⟨(List.append_nil _).trans hj.1, hj.2.asked_of_ne_nil hne [] list⟩
    · exact fun j hj => ⟨target, q, o, hj.2, hq, ho, .inl hj.1⟩
    · exact fun list => ⟨congrArg (· ++ _) hj.lines, hj.routed.asked_of_nil hj.lines _ list⟩
    · intro j a list hj
      have hne : j.lines ≠ [] := hj.1 ▸ List.cons_ne_nil _ _
      have hreached : (j.asked [.answered (.query target q o) (.ofExcept .rows a)] list).Reached
          primary usePrimary query :=
        ⟨target, q, o, hj.2.asked_of_ne_nil hne _ list, hq, ho, .inr ⟨_, congrArg (· ++ _) hj.1⟩⟩
      exact ⟨hreached, hreached⟩
  refine Keeps.withDeadline (hask.bind (fun _ => rfl) fun _ _ hj => .done hj) ?_ limit
  exact fun j s t e h => h.2.2

theorem keeps_endpoint {s : Session (Recorder β)} (hs : s.query = (spread primary).query)
    {I : Journal → Prop} (hI : ∀ j, j.Underway primary usePrimary query → I j) (hj : j.Idle)
    {ctx : Context} (hread : ctx.kind.isRead = true) (hq : query = .ok ctx.query)
    (ho : ctx.options.usePrimary = usePrimary) :
    Keeps (rules I) (fun j _ => j.Reached primary usePrimary query)
      (Session.endpoint s.query s.exec ctx) j := by
  rw [hs, endpoint_of_isRead hread, ho]
  have hreader : ∀ j, j.Idle ∨ (∃ n target, j.Bound primary usePrimary n target) → I j := by
    rintro j (hj | hj)
    · exact hI j (.inl hj)
    · exact hI j (.inr (.inl hj))
  refine (keeps_reader hreader hj).bind (fun target => ?_) fun j target hj => ?_
  · exact Job.isWrite_withDeadline (Job.isWrite_bind (Job.isWrite_zoom _) fun _ => rfl) _
  · exact Journal.keeps_weaken (keeps_sent _ hj hq ho) fun j hj => hI j (.inr (.inr hj))

end Connection

/-- A read reaches one connection, unless its statement cannot be written. -/
theorem Errand.keeps_read {db : Database (Recorder β)} (hdb : db.connection = .spread primary)
    (hcore : db.core.interceptors = []) {c : Call} (hc : c.isRead = true) (hj : j.Idle) :
    Keeps (rules (Underway primary c.options.usePrimary (c.query db.core)))
      (fun j result => j.Reached primary c.options.usePrimary (c.query db.core) ∨
        j.Idle ∧ ∃ e, result = .error e ∧ c.query db.core = .error e)
      ((call c).job db) j := by
  have hsession : db.session.query = (Connection.spread primary).query := by
    rw [← hdb]
    rfl
  have hcall : Keeps (rules (Underway primary c.options.usePrimary (c.query db.core)))
      (fun j result => j.Reached primary c.options.usePrimary (c.query db.core) ∨
        j.Idle ∧ ∃ e, result = .error e ∧ c.query db.core = .error e)
      (c.run db.session) j := by
    refine Call.keeps_run Journal.closed_idle (fun j hj => .inl hj) hj (fun ctx => ?_) ?_ ?_
    · rw [Session.dispatch_eq hcore]
      exact Session.isWrite_endpoint (fun q o => db.connection.isWrite_query q o)
        (fun q o => Job.isWrite_zoom _) _
    · exact fun j e hj he => .inr ⟨hj, e, rfl, he⟩
    · intro j ctx hj hquery hoptions hread
      rw [Session.dispatch_eq hcore]
      have husePrimary : ctx.options.usePrimary = c.options.usePrimary := by rw [hoptions]
      refine Keeps.mono ?_ fun j _ hj _ => .inl hj
      exact Connection.keeps_endpoint hsession (fun _ h => h) hj (hread.trans hc) hquery husePrimary
  refine hcall.bind (fun _ => rfl) fun j result hj => .done ?_
  rcases hj with hj | ⟨hj, e, rfl, he⟩
  · exact .inl hj
  · exact .inr ⟨hj, e, rfl, he⟩

end

end EntityStore
