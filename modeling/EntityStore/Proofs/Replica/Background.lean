import EntityStore.Proofs.Replica.Upkeep

/-!
# The loop in time

In a session in time the loop behind the selector works while the job in front waits. What it does then,
step by step, is what a loop does that heeds the signal (`Upkeep.behind_elapse`): its work in the
background are steps of a refresh (`Upkeep.behind_advance`), and at each tick it looks for the signal
first (`Upkeep.behind_tickUntil`).

So time does not change the list of a closed selector (`Upkeep.replicas_elapse_of_closed`), unless a
refresh was under way (`Upkeep.list_changes_when_closed`).
-/

namespace EntityStore

open Timeline (isClosed)

variable {β : Type}

/-- The loop, as far as its work has come. -/
def Timeline.Progress.loop : Timeline.Progress β → Loop β
  | ended _ => .waiting
  | waits _ rest => .within rest

/-- The loop in the background. -/
def Background.loop : Background β → Loop β
  | off => .stopped
  | idle _ => .waiting
  | refreshing _ _ rest => .within rest

namespace Upkeep

variable [Driver β] {u : Upkeep β}

/-! ## Runs behind the callers -/

/-- From one state to another behind the callers, with a loop that heeds the signal. -/
def Behind (u v : Upkeep β) : Prop :=
  ∃ events, (∀ e ∈ events, e.isBehind = true) ∧ u.Heedful events ∧ u.run events = v

theorem Heedful.append {before after : List (Event β)} (hbefore : u.Heedful before)
    (hafter : (u.run before).Heedful after) : u.Heedful (before ++ after) := by
  induction before generalizing u with
  | nil => exact hafter
  | cons e before ih => exact ⟨hbefore.1, ih hbefore.2 hafter⟩

theorem Behind.refl (u : Upkeep β) : Behind u u := ⟨[], nofun, trivial, rfl⟩

theorem Behind.trans {v w : Upkeep β} (huv : Behind u v) (hvw : Behind v w) : Behind u w := by
  obtain ⟨before, hbefore, hheed, rfl⟩ := huv
  obtain ⟨after, hafter, hheed', rfl⟩ := hvw
  refine ⟨before ++ after, fun e he => ?_, hheed.append hheed', List.foldl_append⟩
  rcases List.mem_append.1 he with he | he
  · exact hbefore e he
  · exact hafter e he

theorem behind_step (u : Upkeep β) {e : Event β} (he : e.isBehind = true)
    (hheed : 0 < u.sent → u.takes e = false) : Behind u (u.step e) := by
  refine ⟨[e], fun e' he' => ?_, ⟨hheed, trivial⟩, rfl⟩
  rwa [List.mem_singleton.1 he']

theorem Behind.sound {v : Upkeep β} (h : u.Sound) (huv : Behind u v) : v.Sound := by
  obtain ⟨events, -, -, rfl⟩ := huv
  exact h.run events

/-- Once the signal is there, only a refresh under way can change the list behind the callers. -/
theorem Behind.replicas {v : Upkeep β} (huv : Behind u v) (h : u.Sound) (hsent : 0 < u.sent)
    (hloop : u.loop.isRefreshing = false) : v.site.replicas = u.site.replicas := by
  obtain ⟨events, hbehind, hheed, rfl⟩ := huv
  have halters := h.total_alters_le events
  rw [hheed.total_takes hsent, hloop] at halters
  exact replicas_run hbehind (Nat.eq_zero_of_add_eq_zero_right (Nat.le_zero.1 halters))

/-! ## The background -/

/-- The state with the loop and the session at some place. -/
def placed (u : Upkeep β) (loop : Loop β) (site : Site β) : Upkeep β := { u with site, loop }

theorem behind_works (u : Upkeep β) {x : Work β Unit} (hx : x.isDone = false) (s : Site β) :
    Behind (u.placed (.within x) s) (u.placed (.within (x.step s).1) (x.step s).2) := by
  have hstep : (u.placed (.within x) s).step .works =
      u.placed (.within (x.step s).1) (x.step s).2 := by
    simp only [step, placed, Loop.within, hx, Bool.false_eq_true, if_false]
  rw [← hstep]
  exact behind_step _ rfl fun _ => rfl

/-- Work in the background is steps of the loop. -/
theorem behind_advance (u : Upkeep β) (target at_ : Nat) (x : Work β Unit) (s : Site β) :
    Behind (u.placed (.within x) s)
      (u.placed (Timeline.advance target at_ x s).1.loop (Timeline.advance target at_ x s).2) := by
  -- a step that reads may also replace the state, and then goes on behind that
  suffices h : Behind (u.placed (.within x) s)
        (u.placed (Timeline.advance target at_ x s).1.loop (Timeline.advance target at_ x s).2) ∧
      Behind (u.placed (.within (x.settle s).1) (x.settle s).2)
        (u.placed (Timeline.advance target at_ x s).1.loop (Timeline.advance target at_ x s).2) from h.1
  induction x generalizing at_ s with
  | done a => exact ⟨.refl _, .refl _⟩
  | read k ih =>
    have hread := (u.behind_works (x := .read k) rfl s).trans (ih s at_ s).2
    exact ⟨hread, hread⟩
  | write t x ih => exact ⟨(u.behind_works (x := .write t x) rfl s).trans (ih at_ t).1, (ih at_ t).1⟩
  | wait ms x ih =>
    have hwait : Behind (u.placed (.within (.wait ms x)) s) (u.placed (.within x) s) :=
      u.behind_works (x := .wait ms x) rfl s
    unfold Timeline.advance
    split
    · exact ⟨hwait.trans (ih (at_ + ms) s).1, hwait.trans (ih (at_ + ms) s).1⟩
    · exact ⟨hwait, hwait⟩

/-- Ticks in the background are ticks of a loop that heeds the signal. -/
theorem behind_tickUntil (target fuel tick at_ : Nat) {s : Site β} (h : (u.placed .waiting s).Sound)
    (hsending : u.sending = false) :
    Behind (u.placed .waiting s) (u.placed (Timeline.tickUntil target fuel tick at_ s).1.loop
      (Timeline.tickUntil target fuel tick at_ s).2) := by
  induction fuel generalizing tick at_ s with
  | zero => exact .refl _
  | succ fuel ih =>
    have hsignal : u.sent = (isClosed s).toNat := by
      have hsignal : u.sent + u.sending.toNat = (isClosed s).toNat := h.signal
      rwa [hsending] at hsignal
    unfold Timeline.tickUntil
    by_cases hclosed : isClosed s = true
    · rw [if_pos hclosed]
      rw [hclosed] at hsignal
      have hlooks : (u.placed .waiting s).step .looks =
          u.placed .stopped ((Site.note Timeline.stopNote).run s).2 := by
        have hsent : 0 < u.sent := by rw [hsignal]; exact Nat.one_pos
        simp only [step, placed, Loop.isWaiting, hsent, and_self, if_true]
      change Behind _ (u.placed .stopped ((Site.note Timeline.stopNote).run s).2)
      rw [← hlooks]
      exact behind_step _ rfl fun _ => rfl
    · rw [if_neg hclosed]
      dsimp only
      split
      · rw [Bool.not_eq_true] at hclosed
        rw [hclosed] at hsignal
        have htick : Behind (u.placed .waiting s) (u.placed (.within Selector.refreshQuietly) s) := by
          refine behind_step (e := .ticks) _ rfl fun hsent => ?_
          exact absurd hsignal hsent.ne'
        have hwork := htick.trans
          (u.behind_advance target (max at_ (Timeline.millisOf tick)) Selector.refreshQuietly s)
        split
        · next at' s' hadvance =>
          rw [hadvance] at hwork
          exact hwork.trans (ih _ at' (hwork.sound h))
        · next wake rest s' hadvance =>
          rw [hadvance] at hwork
          exact hwork
      · exact .refl _

theorem behind_backgroundUntil (target now : Nat) {b : Background β} {s : Site β}
    (h : (u.placed b.loop s).Sound) (hsending : u.sending = false) :
    Behind (u.placed b.loop s) (u.placed (Timeline.backgroundUntil target now b s).1.loop
      (Timeline.backgroundUntil target now b s).2) := by
  cases b with
  | off => exact .refl _
  | idle tick => exact behind_tickUntil target _ tick now h hsending
  | refreshing tick wake rest =>
    unfold Timeline.backgroundUntil
    dsimp only
    split
    · have hwork : Behind (u.placed (.within rest) s) _ := u.behind_advance target wake rest s
      split
      · next at' s' hadvance =>
        rw [hadvance] at hwork
        exact hwork.trans (behind_tickUntil target _ tick at' (hwork.sound h) hsending)
      · next wake' rest' s' hadvance =>
        rw [hadvance] at hwork
        exact hwork
    · exact .refl _

/-- The driver may change by itself. -/
theorem behind_driver (u : Upkeep β) (driver : β) :
    Behind u { u with site := { u.site with driver } } := by
  obtain ⟨counter, hselector⟩ : ∃ counter : UInt64,
      u.site.selector.map ({ · with counter }) = u.site.selector := by
    cases u.site.selector with
    | none => exact ⟨0, rfl⟩
    | some sel => exact ⟨sel.counter, rfl⟩
  have hstirs : u.step (.stirs driver u.site.registry counter) =
      { u with site := { u.site with driver } } := by
    rw [step, hselector]
  rw [← hstirs]
  exact behind_step _ rfl fun _ => rfl

/-- What goes on while time passes is what a loop does that heeds the signal. -/
theorem behind_elapse (t : Timeline β) (ms : Nat) (h : (u.placed t.background.loop t.site).Sound)
    (hsending : u.sending = false) :
    Behind (u.placed t.background.loop t.site)
      (u.placed (t.elapse ms).background.loop (t.elapse ms).site) := by
  unfold Timeline.elapse
  split
  · exact .refl _
  · have hbackground := behind_backgroundUntil (t.now + ms) t.now h hsending
    exact hbackground.trans (behind_driver _ _)

/-- While time passes, nothing changes the list of a closed selector but a refresh that was under way. -/
theorem replicas_elapse_of_closed {t : Timeline β} (hclosed : isClosed t.site = true)
    (hloop : t.background.loop.isRefreshing = false) (ms : Nat) :
    (t.elapse ms).site.replicas = t.site.replicas := by
  have hsound : Sound { site := t.site, loop := t.background.loop, sent := 1 } := by
    refine ⟨?_, fun x hx => ?_, nofun⟩
    · change 1 = (isClosed t.site).toNat
      rw [hclosed]
      rfl
    · change t.background.loop = .refreshing x at hx
      rw [hx] at hloop
      cases hloop
  have hbehind := behind_elapse (u := { site := t.site, sent := 1 }) t ms hsound rfl
  exact hbehind.replicas hsound Nat.one_pos hloop

/-- The same selector in time, when a refresh waits for the resolver. -/
def asking : Timeline (Recorder Simulation) := (Timeline.watch { site := lagging }).elapse 1200

/-- The list of a closed selector changes once the resolver has answered. -/
theorem list_changes_when_closed :
    let closed := { asking with site := (Selector.close.run asking.site).2 }
    isClosed closed.site = true ∧
      closed.site.replicas = [⟨"replica_0", "app@tcp(10.0.0.1:3306)/app", 0⟩] ∧
      (closed.elapse 1000).site.replicas = [⟨"replica_0", "app@tcp(10.0.0.2:3306)/app", 1⟩] := by
  decide +kernel

end Upkeep

end EntityStore
