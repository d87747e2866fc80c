import EntityStore.Proofs.Session.Journal
import EntityStore.Session.Timeline

/-!
# The work behind a selector

Behind a selector a loop waits for its timer and for the signal to stop, and refreshes the list at each
tick (`Upkeep`). The timer, the steps of its refresh, calls of shutdown, refreshes of callers and anything
else come in any order. If a tick and the signal are both there when the loop looks, either may win.

1. A refresh changes the list with its last step or not at all, and never whether the selector is closed
   (`Selector.keeps_refresh`, `Selector.keeps_refreshQuietly`).
2. So a change of the list ends the refresh of the loop, which changes the list at most once for the
   refresh under way and once for each tick that it takes (`Upkeep.Sound.total_alters_le`).
3. One signal is sent, for the first call of shutdown (`Upkeep.Sound`). A loop that has received it takes
   no tick any more (`Upkeep.total_takes_of_stopped`), and neither does one that heeds it whenever it is
   there (`Upkeep.Heedful.total_takes`).

So shutdown keeps the list as it is, but for a refresh under way and for ticks that win against the signal
(`Upkeep.shutdown_stops`).
-/

namespace EntityStore

open Job (Keeps Steps)
open Timeline (isClosed)

variable {α β : Type}

/-! ## What a refresh changes -/

namespace Selector

/-- Work that changes the list with its last step or not at all, and never whether the selector is closed.
The journal tells whether the latest step has changed the list. -/
def lastly : Job.Rules (Site β) Prop where
  holds _ := True
  allows changed s t := ¬ changed ∧ isClosed t = isClosed s
  note _ s t := t.replicas ≠ s.replicas

theorem isClosed_of_selector {s t : Site β} (h : t.selector = s.selector) : isClosed t = isClosed s := by
  rw [isClosed, h, isClosed]

theorem isClosed_of_map {s t : Site β} {f : Selector → Selector}
    (h : t.selector = s.selector.map f) (hf : ∀ sel, (f sel).closed = sel.closed) :
    isClosed t = isClosed s := by
  rw [isClosed, h, isClosed]
  cases s.selector with
  | none => rfl
  | some sel => exact hf sel

theorem replicas_of_map {s t : Site β} {f : Selector → Selector}
    (h : t.selector = s.selector.map f) (hf : ∀ sel, (f sel).replicas = sel.replicas) :
    t.replicas = s.replicas := by
  rw [Site.replicas, h, Site.replicas]
  cases s.selector with
  | none => rfl
  | some sel => exact hf sel

theorem isClosed_close (s : Site β) : isClosed ((close : Work β Unit).run s).2 = true := by
  change isClosed { s with selector := s.selector.map ({ · with closed := true }) } = true
  rw [isClosed]
  cases s.selector <;> rfl

/-- Work that leaves the selector alone. -/
theorem keeps_silent {x : Work β α} {changed : Prop} (hchanged : ¬ changed)
    (hx : Steps (fun _ => True) (fun s t : Site β => t.selector = s.selector) (fun _ => True) x) :
    Keeps lastly (fun changed _ => ¬ changed) x changed := by
  refine (hx.keeps (r := lastly) (P := (¬ ·)) hchanged ?_).mono fun _ _ h => h.1
  intro changed s t _ hst hnot
  have hreplicas : t.replicas = s.replicas := by rw [Site.replicas, hst, Site.replicas]
  exact ⟨⟨hnot, isClosed_of_selector hst⟩, not_not.2 hreplicas⟩

theorem keeps_read {Q : Prop → α → Prop} {changed : Prop} (hchanged : ¬ changed)
    {k : Site β → Work β α} (hw : ∀ s, (k s).isWrite = false)
    (h : ∀ s changed, ¬ changed → Keeps lastly Q (k s) changed) :
    Keeps lastly Q (.read k) changed :=
  .read hw fun s _ => ⟨⟨hchanged, rfl⟩, h s _ (not_not.2 rfl)⟩

theorem silent_ofDriver (x : Job β α) :
    Steps (fun _ => True) (fun s t : Site β => t.selector = s.selector) (fun _ => True)
      (Site.ofDriver x) :=
  (Steps.of_true x).zoom (fun _ => rfl) (fun _ _ => trivial) fun _ _ _ => rfl

variable [Driver β]

theorem silent_note (n : Note) :
    Steps (fun _ => True) (fun s t : Site β => t.selector = s.selector) (fun _ => True)
      (Site.note n) :=
  Steps.modify fun _ => rfl

/-- A refresh that fails has not changed the list. -/
theorem keeps_refresh :
    Keeps lastly (fun changed result => result ≠ .ok () → ¬ changed) (refresh : Work β _) False := by
  refine keeps_read id (fun s => ?_) fun s changed hchanged => ?_
  · cases s.selector with
    | none => rfl
    | some sel => exact Job.isWrite_bind (Job.isWrite_zoom _) (by rintro (e | replicas) <;> rfl)
  · cases s.selector with
    | none => exact .done fun _ => hchanged
    | some sel =>
      refine (keeps_silent hchanged (silent_ofDriver _)).bind (by rintro (e | replicas) <;> rfl) ?_
      rintro changed (e | replicas) hchanged
      · exact .done fun _ => hchanged
      · refine (keeps_silent hchanged (silent_note _)).bind (fun _ => rfl) fun changed _ hchanged => ?_
        refine .step rfl (fun s _ => ⟨hchanged, ?_⟩) fun s _ => .done fun h => absurd rfl h
        exact isClosed_of_map rfl fun _ => rfl

theorem keeps_refreshQuietly :
    Keeps lastly (fun _ _ => True) (refreshQuietly : Work β Unit) False := by
  refine keeps_refresh.bind (by rintro (e | _) <;> rfl) ?_
  rintro changed (e | _) hchanged
  · refine keeps_read (hchanged nofun) (fun _ => rfl) fun s changed hchanged => ?_
    exact (keeps_silent hchanged (silent_note _)).mono fun _ _ _ => trivial
  · exact .done trivial

/-- Work that changes the list with its last step or not at all. -/
def ChangesLast (x : Work β α) : Prop := ∃ changed, Keeps lastly (fun _ _ => True) x changed

theorem changesLast_refresh : ChangesLast (refresh : Work β _) :=
  ⟨False, keeps_refresh.mono fun _ _ _ => trivial⟩

theorem changesLast_refreshQuietly : ChangesLast (refreshQuietly : Work β Unit) :=
  ⟨False, keeps_refreshQuietly⟩

omit [Driver β] in
theorem ChangesLast.step {x : Work β α} (h : ChangesLast x) (s : Site β) :
    ChangesLast (x.step s).1 ∧ isClosed (x.step s).2 = isClosed s ∧
      ((x.step s).2.replicas ≠ s.replicas → (x.step s).1.isDone = true) := by
  obtain ⟨changed, hx⟩ := h
  cases hdone : x.isDone with
  | true =>
    cases x with
    | done a => exact ⟨⟨changed, hx⟩, rfl, fun h => absurd rfl h⟩
    | _ => cases hdone
  | false =>
    obtain ⟨⟨-, hclosed⟩, hnext⟩ := hx.next hdone (s := s) trivial
    refine ⟨⟨_, hnext⟩, hclosed, fun hchanged => ?_⟩
    -- one more step would not be allowed
    by_contra hrest
    exact (hnext.next (Bool.not_eq_true _ ▸ hrest) (s := s) trivial).1.1 hchanged

end Selector

/-! ## The loop and those around it -/

/-- The loop behind a selector. -/
inductive Loop (β : Type) where
  /-- It waits for its timer and for the signal to stop. -/
  | waiting
  /-- A refresh is under way. -/
  | refreshing (rest : Work β Unit)
  /-- It has received the signal. -/
  | stopped

namespace Loop

/-- The loop in a refresh. Behind the end of it, the loop waits again. -/
def within (x : Work β Unit) : Loop β := if x.isDone then .waiting else .refreshing x

def isWaiting : Loop β → Bool
  | waiting => true
  | _ => false

def isRefreshing : Loop β → Bool
  | refreshing _ => true
  | _ => false

theorem isRefreshing_within (x : Work β Unit) : (within x).isRefreshing = !x.isDone := by
  unfold within
  cases x.isDone <;> rfl

theorem isWaiting_iff {l : Loop β} : l.isWaiting = true ↔ l = .waiting := by
  cases l <;> simp [isWaiting]

end Loop

/-- A selector with its loop and with those who use it. -/
structure Upkeep (β : Type) where
  site : Site β
  loop : Loop β := .waiting
  /-- What is left to do of each refresh that a caller has called. -/
  calls : List (Work β (Except Error Unit)) := []
  /-- Whether someone has closed the selector and has yet to send the signal. -/
  sending : Bool := false
  /-- The number of signals sent. -/
  sent : Nat := 0

namespace Upkeep

/-- What can happen next. -/
inductive Event (β : Type) where
  /-- A tick is due, and the loop takes it if it waits. -/
  | ticks
  /-- The refresh in the loop takes a step. -/
  | works
  /-- The loop takes the signal, if it waits and there is one. -/
  | looks
  /-- Someone calls shutdown. -/
  | closes
  /-- Whoever has closed the selector sends the signal. -/
  | sends
  /-- A caller begins to refresh. -/
  | begins
  /-- The refresh of a caller takes a step. -/
  | steps (i : Nat)
  /-- Others do anything else but change the list. -/
  | stirs (driver : β) (registry : Registry) (counter : UInt64)

variable [Driver β]

def step (u : Upkeep β) : Event β → Upkeep β
  | .ticks => if u.loop.isWaiting then { u with loop := .within Selector.refreshQuietly } else u
  | .works =>
    match u.loop with
    | .refreshing x => { u with site := (x.step u.site).2, loop := .within (x.step u.site).1 }
    | _ => u
  | .looks =>
    if u.loop.isWaiting ∧ 0 < u.sent then
      { u with site := ((Site.note Timeline.stopNote).run u.site).2, loop := .stopped }
    else u
  | .closes =>
    if isClosed u.site then u
    else { u with site := (Selector.close.run u.site).2, sending := true }
  | .sends => if u.sending then { u with sending := false, sent := u.sent + 1 } else u
  | .begins => { u with calls := u.calls ++ [Selector.refresh] }
  | .steps i =>
    match u.calls[i]? with
    | none => u
    | some x => { u with site := (x.step u.site).2, calls := u.calls.set i (x.step u.site).1 }
  | .stirs driver registry counter =>
    { u with site := { driver, registry, selector := u.site.selector.map ({ · with counter }) } }

def run (u : Upkeep β) (events : List (Event β)) : Upkeep β := events.foldl step u

/-- Whether the loop changes the list. -/
def alters (u : Upkeep β) : Event β → Bool
  | .works => decide ((u.step .works).site.replicas ≠ u.site.replicas)
  | _ => false

/-- Whether the loop takes a tick. -/
def takes (u : Upkeep β) : Event β → Bool
  | .ticks => u.loop.isWaiting
  | _ => false

/-- How often something happens in a run. -/
def total (f : Upkeep β → Event β → Bool) (u : Upkeep β) : List (Event β) → Nat
  | [] => 0
  | e :: events => (f u e).toNat + total f (u.step e) events

variable {u : Upkeep β}

/-- What can become of the loop. -/
theorem loop_step (u : Upkeep β) (e : Event β) :
    (u.step e).loop = u.loop ∨
      (u.takes e = true ∧ (u.step e).loop = .within Selector.refreshQuietly) ∨
      (∃ x, u.loop = .refreshing x ∧ (u.step e).loop = .within (x.step u.site).1) ∨
      (u.loop = .waiting ∧ (u.step e).loop = .stopped) := by
  cases e with
  | ticks =>
    simp only [step]
    split
    · next hwaiting => exact .inr (.inl ⟨hwaiting, rfl⟩)
    · exact .inl rfl
  | works =>
    simp only [step]
    split
    · next x hx => exact .inr (.inr (.inl ⟨x, hx, rfl⟩))
    · exact .inl rfl
  | looks =>
    simp only [step]
    split
    · next hlooks => exact .inr (.inr (.inr ⟨Loop.isWaiting_iff.1 hlooks.1, rfl⟩))
    · exact .inl rfl
  | closes | sends | steps =>
    left
    simp only [step]
    split <;> rfl
  | begins | stirs => exact .inl rfl

/-- The list is changed by the loop or by the refreshes of callers. -/
theorem alters_or_steps {e : Event β} (h : (u.step e).site.replicas ≠ u.site.replicas) :
    u.alters e = true ∨ ∃ i, e = .steps i := by
  cases e with
  | works => exact .inl (decide_eq_true h)
  | steps i => exact .inr ⟨i, rfl⟩
  | begins => exact absurd rfl h
  | ticks | looks | sends =>
    refine absurd ?_ h
    simp only [step]
    split <;> rfl
  | closes =>
    refine absurd ?_ h
    simp only [step]
    split
    · rfl
    · exact Selector.replicas_of_map rfl fun _ => rfl
  | stirs driver registry counter =>
    refine absurd ?_ h
    exact Selector.replicas_of_map (f := ({ · with counter })) rfl fun _ => rfl

/-! ## What holds all the time -/

/-- A signal has been sent or is about to be if the selector is closed, and otherwise not; the refreshes
under way change the list with their last steps. -/
structure Sound (u : Upkeep β) : Prop where
  signal : u.sent + u.sending.toNat = (isClosed u.site).toNat
  loop : ∀ x, u.loop = .refreshing x → Selector.ChangesLast x
  calls : ∀ x ∈ u.calls, Selector.ChangesLast x

omit [Driver β] in
theorem sound_of_open {site : Site β} (h : isClosed site = false) : Sound { site } := by
  refine ⟨?_, nofun, nofun⟩
  rw [h]
  rfl

omit [Driver β] in
theorem changesLast_of_within {x y : Work β Unit} (hx : Selector.ChangesLast x)
    (h : Loop.within x = .refreshing y) : Selector.ChangesLast y := by
  unfold Loop.within at h
  split at h
  · cases h
  · cases h
    exact hx

theorem Sound.signal_step (h : u.Sound) (e : Event β) :
    (u.step e).sent + (u.step e).sending.toNat = (isClosed (u.step e).site).toNat := by
  have hsignal := h.signal
  cases e with
  | ticks | looks =>
    simp only [Upkeep.step]
    split <;> exact hsignal
  | begins => exact hsignal
  | works =>
    simp only [Upkeep.step]
    split
    · next x hx => rw [((h.loop x hx).step u.site).2.1, hsignal]
    · exact hsignal
  | steps i =>
    simp only [Upkeep.step]
    split
    · exact hsignal
    · next x hx => rw [((h.calls x (List.mem_of_getElem? hx)).step u.site).2.1, hsignal]
  | closes =>
    simp only [Upkeep.step]
    split
    · exact hsignal
    · next hopen =>
      -- the selector was open, so nobody else has sent the signal or is about to
      rw [Bool.not_eq_true] at hopen
      rw [hopen] at hsignal
      have hsent : u.sent = 0 := Nat.eq_zero_of_add_eq_zero_right hsignal
      rw [hsent, Selector.isClosed_close]
      rfl
  | sends =>
    simp only [Upkeep.step]
    split
    · next hsending =>
      rw [hsending] at hsignal
      exact hsignal
    · exact hsignal
  | stirs driver registry counter =>
    refine hsignal.trans (congrArg Bool.toNat ?_)
    exact (Selector.isClosed_of_map (f := ({ · with counter })) rfl fun _ => rfl).symm

theorem Sound.loop_step (h : u.Sound) (e : Event β) (x : Work β Unit)
    (hx : (u.step e).loop = .refreshing x) : Selector.ChangesLast x := by
  rcases Upkeep.loop_step u e with hloop | ⟨-, hloop⟩ | ⟨y, hy, hloop⟩ | ⟨-, hloop⟩
  all_goals rw [hloop] at hx
  · exact h.loop x hx
  · exact changesLast_of_within Selector.changesLast_refreshQuietly hx
  · exact changesLast_of_within ((h.loop y hy).step u.site).1 hx
  · cases hx

theorem Sound.calls_step (h : u.Sound) (e : Event β) (x : Work β (Except Error Unit))
    (hx : x ∈ (u.step e).calls) : Selector.ChangesLast x := by
  cases e with
  | begins =>
    rcases List.mem_append.1 hx with hx | hx
    · exact h.calls x hx
    · obtain rfl := List.mem_singleton.1 hx
      exact Selector.changesLast_refresh
  | steps i =>
    simp only [Upkeep.step] at hx
    split at hx
    · exact h.calls x hx
    · next y hy =>
      rcases List.mem_or_eq_of_mem_set hx with hx | rfl
      · exact h.calls x hx
      · exact ((h.calls y (List.mem_of_getElem? hy)).step u.site).1
  | stirs => exact h.calls x hx
  | ticks | works | looks | closes | sends =>
    simp only [Upkeep.step] at hx
    split at hx <;> exact h.calls x hx

theorem Sound.step (h : u.Sound) (e : Event β) : (u.step e).Sound :=
  ⟨h.signal_step e, h.loop_step e, h.calls_step e⟩

theorem Sound.run (h : u.Sound) (events : List (Event β)) : (u.run events).Sound := by
  induction events generalizing u with
  | nil => exact h
  | cons e events ih => exact ih (h.step e)

/-! ## Changes of the list -/

/-- A change of the list ends the refresh under way. -/
theorem Sound.isRefreshing_of_alters (h : u.Sound) {e : Event β} (halters : u.alters e = true) :
    u.loop.isRefreshing = true ∧ (u.step e).loop.isRefreshing = false := by
  cases e with
  | works =>
    cases hloop : u.loop with
    | refreshing x =>
      simp only [alters, Upkeep.step, hloop, decide_eq_true_eq] at halters ⊢
      refine ⟨rfl, ?_⟩
      rw [Loop.isRefreshing_within, ((h.loop x hloop).step u.site).2.2 halters]
      rfl
    | _ =>
      simp only [alters, Upkeep.step, hloop, decide_eq_true_eq] at halters
      exact absurd rfl halters
  | _ => cases halters

/-- A refresh gets under way with a tick. -/
theorem isRefreshing_of_step {e : Event β} (h : (u.step e).loop.isRefreshing = true) :
    u.loop.isRefreshing = true ∨ u.takes e = true := by
  rcases loop_step u e with hloop | ⟨htakes, -⟩ | ⟨x, hx, -⟩ | ⟨-, hloop⟩
  · left
    rwa [hloop] at h
  · exact .inr htakes
  · left
    rw [hx]
    rfl
  · rw [hloop] at h
    cases h

theorem Sound.alters_le (h : u.Sound) (e : Event β) :
    (u.alters e).toNat + (u.step e).loop.isRefreshing.toNat ≤
      u.loop.isRefreshing.toNat + (u.takes e).toNat := by
  cases halters : u.alters e with
  | true =>
    obtain ⟨hbefore, hafter⟩ := h.isRefreshing_of_alters halters
    rw [hbefore, hafter]
    exact Nat.le_add_right 1 _
  | false =>
    cases hafter : (u.step e).loop.isRefreshing with
    | false => exact Nat.zero_le _
    | true =>
      rcases isRefreshing_of_step hafter with h | h
      all_goals rw [h]
      · exact Nat.le_add_right 1 _
      · exact Nat.le_add_left 1 _

/-- The loop changes the list at most once for the refresh under way and once for each tick that it
takes. -/
theorem Sound.total_alters_le (h : u.Sound) (events : List (Event β)) :
    total alters u events + (u.run events).loop.isRefreshing.toNat ≤
      u.loop.isRefreshing.toNat + total takes u events := by
  induction events generalizing u with
  | nil =>
    rw [total, total, Nat.zero_add, Nat.add_zero]
    exact le_refl _
  | cons e events ih =>
    have hstep := h.alters_le e
    have hrest := ih (h.step e)
    have hrun : u.run (e :: events) = (u.step e).run events := rfl
    rw [total, total, hrun]
    omega

/-- Whether something goes on behind the callers. -/
def Event.isBehind : Event β → Bool
  | ticks | works | looks | stirs .. => true
  | _ => false

/-- Behind the callers, only the loop changes the list. -/
theorem replicas_run {events : List (Event β)} (hbehind : ∀ e ∈ events, e.isBehind = true)
    (h : total alters u events = 0) : (u.run events).site.replicas = u.site.replicas := by
  induction events generalizing u with
  | nil => rfl
  | cons e events ih =>
    rw [total, Nat.add_eq_zero_iff, Bool.toNat_eq_zero] at h
    have hrest := ih (fun e' he' => hbehind e' (List.mem_cons_of_mem e he')) h.2
    refine hrest.trans ?_
    by_contra hchanged
    rcases alters_or_steps hchanged with halters | ⟨i, rfl⟩
    · rw [h.1] at halters
      cases halters
    · cases hbehind _ List.mem_cons_self

/-! ## Behind the signal -/

/-- A loop that has received the signal stands still. -/
theorem step_of_stopped (h : u.loop = .stopped) (e : Event β) :
    u.takes e = false ∧ (u.step e).loop = .stopped := by
  have htakes : u.takes e = false := by
    cases e with
    | ticks =>
      rw [takes, h]
      rfl
    | _ => rfl
  refine ⟨htakes, ?_⟩
  rcases loop_step u e with hloop | ⟨htick, -⟩ | ⟨x, hx, -⟩ | ⟨hwaiting, -⟩
  · exact hloop.trans h
  · rw [htakes] at htick
    cases htick
  · rw [h] at hx
    cases hx
  · rw [h] at hwaiting
    cases hwaiting

theorem total_takes_of_stopped (h : u.loop = .stopped) (events : List (Event β)) :
    total takes u events = 0 := by
  induction events generalizing u with
  | nil => rfl
  | cons e events ih =>
    obtain ⟨htakes, hstep⟩ := step_of_stopped h e
    rw [total, htakes, ih hstep]
    rfl

/-- The loop takes no tick any more once the signal is there. -/
def Heedful (u : Upkeep β) : List (Event β) → Prop
  | [] => True
  | e :: events => (0 < u.sent → u.takes e = false) ∧ (u.step e).Heedful events

instance decidableHeedful : (u : Upkeep β) → (events : List (Event β)) → Decidable (u.Heedful events)
  | _, [] => .isTrue trivial
  | u, e :: events =>
    have := decidableHeedful (u.step e) events
    inferInstanceAs (Decidable (_ ∧ _))

theorem sent_le_step (u : Upkeep β) (e : Event β) : u.sent ≤ (u.step e).sent := by
  cases e with
  | begins | stirs => exact le_refl _
  | sends =>
    simp only [step]
    split
    · exact Nat.le_succ _
    · exact le_refl _
  | ticks | works | looks | closes | steps =>
    simp only [step]
    split <;> exact le_refl _

theorem Heedful.total_takes {events : List (Event β)} (h : u.Heedful events) (hsent : 0 < u.sent) :
    total takes u events = 0 := by
  induction events generalizing u with
  | nil => rfl
  | cons e events ih =>
    obtain ⟨htakes, hrest⟩ := h
    rw [total, htakes hsent, ih hrest (hsent.trans_le (sent_le_step u e))]
    rfl

/-! ## Shutdown -/

/-- However ticks, the steps of refreshes and calls of shutdown come:
* the signal has been sent once if the selector is closed, or is about to be, and otherwise not;
* the list is changed by refreshes of callers and by the loop;
* the loop changes it at most once for the refresh under way and once for each tick that it takes;
* it takes no tick any more if it heeds the signal and this has been sent, or if it has received it. -/
theorem shutdown_stops {site : Site β} (h : isClosed site = false) (before after : List (Event β)) :
    let u := run { site } before
    u.sent + u.sending.toNat = (isClosed u.site).toNat ∧
    (∀ e, (u.step e).site.replicas ≠ u.site.replicas → u.alters e = true ∨ ∃ i, e = .steps i) ∧
    total alters u after ≤ u.loop.isRefreshing.toNat + total takes u after ∧
    ((0 < u.sent ∧ u.Heedful after) ∨ u.loop = .stopped → total takes u after = 0) := by
  intro u
  have hsound : u.Sound := (sound_of_open h).run before
  refine ⟨hsound.signal, fun e => alters_or_steps, ?_, ?_⟩
  · exact (Nat.le_add_right _ _).trans (hsound.total_alters_le after)
  · rintro (⟨hsent, hheed⟩ | hstopped)
    · exact hheed.total_takes hsent
    · exact total_takes_of_stopped hstopped after

/-- A selector that has started on one host, which has moved since then, behind a resolver that takes
half a second. -/
def lagging : Site (Recorder Simulation) :=
  let site := ((Selector.start Watch.clusterName .second .second).run (Watch.hosts [.v4 10 0 0 1])).2
  { site with driver := { site.driver with base :=
    { site.driver.base with resolver := { addresses := [.v4 10 0 0 2], delay := 500 } } } }

/-- The selector is closed while a refresh is under way, by two calls. -/
def closing : List (Event (Recorder Simulation)) :=
  [.ticks, .works, .works, .closes, .closes, .sends, .sends]

/-- The refresh comes to its end, and the loop sees the signal. -/
def ending : List (Event (Recorder Simulation)) := List.replicate 16 .works ++ [.looks, .ticks]

theorem shutdown_stops_lagging :
    isClosed lagging = false ∧
      let u := run { site := lagging } closing
      u.sent = 1 ∧ u.Heedful ending ∧ total alters u ending = 1 ∧
        (u.run ending).site.replicas ≠ u.site.replicas := by
  have hopen : isClosed lagging = false := by decide +kernel
  obtain ⟨hsignal, -, halters, htakes⟩ := shutdown_stops hopen closing ending
  have hsent : (run { site := lagging } closing).sending = false ∧
      isClosed (run { site := lagging } closing).site = true := by decide +kernel
  rw [hsent.1, hsent.2] at hsignal
  replace hsignal : (run { site := lagging } closing).sent = 1 := hsignal
  have hheed : (run { site := lagging } closing).Heedful ending := by decide +kernel
  have hchanged : ((run { site := lagging } closing).run ending).site.replicas ≠
      (run { site := lagging } closing).site.replicas := by decide +kernel
  refine ⟨hopen, hsignal, hheed, ?_, hchanged⟩
  rw [htakes (.inl ⟨by rw [hsignal]; exact Nat.one_pos, hheed⟩), Nat.add_zero] at halters
  have hatMost : total alters (run { site := lagging } closing) ending ≤ 1 :=
    halters.trans (Bool.toNat_le _)
  have hatLeast : total alters (run { site := lagging } closing) ending ≠ 0 := by
    intro hzero
    exact hchanged (replicas_run (by decide) hzero)
  exact Nat.le_antisymm hatMost (Nat.one_le_iff_ne_zero.2 hatLeast)

end Upkeep

end EntityStore
