import EntityStore.Proofs.Replica.Discovery
import EntityStore.Session.Simulation

/-!
# The list follows discovery

A `Watch` is a selector at work: one refresh at most is under way, reads take turns at any time, also
while a refresh waits, and the driver answers what it likes (`Watch.Step`). It keeps the discoveries
that have succeeded so far.

1. `always_refresh`: a refresh leaves the list as it is until it ends, and then only a successful one
   puts the list of its discovery in place. `only_refresh`: it never touches the counter.
2. Each step of a watch keeps `Watch.Follows`: the list is that of the last discovery that succeeded,
   each discovery has started from the list of the one before, and the counter counts the turns of
   reads (`follows_step`).
3. So in every watch that can be reached (`follows_discovery`). An address that stays in consecutive
   answers keeps its connection, since different addresses have different data source names.
-/

namespace EntityStore

open Site (SameLog)

variable {β : Type}

/-! ## What a refresh does -/

namespace Site

/-- The data source name of the selector and its list. -/
def list (s : Site (Recorder β)) : Option (Dsn × List Replica) :=
  s.selector.map fun sel => (sel.dsn, sel.replicas)

def counter (s : Site (Recorder β)) : Option UInt64 := s.selector.map (·.counter)

def SameCounter (s t : Site (Recorder β)) : Prop := t.counter = s.counter

/-- The log and the list are as they were. -/
def Quiet (s t : Site (Recorder β)) : Prop := SameLog s t ∧ t.list = s.list

theorem Quiet.refl (s : Site (Recorder β)) : Quiet s s := ⟨rfl, rfl⟩

theorem Quiet.trans {s t u : Site (Recorder β)} (h₁ : Quiet s t) (h₂ : Quiet t u) : Quiet s u :=
  ⟨h₂.1.trans h₁.1, h₂.2.trans h₁.2⟩

end Site

open Site (Quiet SameCounter)

/-- What a refresh of a selector with the list `known`, begun with the log `since`, ends with. -/
def Refreshed (dsn : Dsn) (known : List Replica) (since : List Entry) (result : Except Error Unit)
    (s : Site (Recorder β)) : Prop :=
  match result with
  | .error e => s.list = some (dsn, known) ∧
      ∃ log, s.log = since ++ log ∧ Discovery.Broken dsn log e
  | .ok () => ∃ replicas log, s.list = some (dsn, replicas) ∧ s.log = since ++ log ∧
      Discovery.From dsn known ⟨log, replicas⟩

namespace Selector

/-- A read takes a turn if it is given a replica, and changes nothing else. -/
theorem pick_run {s t : Site (Recorder β)} {usePrimary : Bool} {r : Option ConnectionId} {n : Nat}
    (hs : s.counter = some (UInt64.ofNat n)) (h : (pick usePrimary).run s = (r, t)) :
    Quiet s t ∧ t.counter = some (UInt64.ofNat (if r.isSome then n + 1 else n)) := by
  unfold pick at h
  cases usePrimary with
  | true =>
    cases h
    exact ⟨Quiet.refl s, hs⟩
  | false =>
    obtain ⟨sel, hsel, hcounter⟩ := Option.map_eq_some_iff.mp hs
    simp only [Bool.false_eq_true, if_false, next, Job.run, hsel] at h
    by_cases hnil : sel.replicas = []
    · rw [if_pos (List.isEmpty_iff.mpr hnil)] at h
      cases h
      exact ⟨Quiet.refl s, hs⟩
    · obtain ⟨replica, hreplica⟩ :=
        Option.isSome_iff_exists.mp (replicaAt_isSome hnil (sel.counter + 1))
      rw [if_neg (mt List.isEmpty_iff.mp hnil)] at h
      simp only [takeTurn, Job.bind, Job.run, hsel, Option.bind_some, hreplica] at h
      cases h
      refine ⟨⟨rfl, ?_⟩, ?_⟩
      · rw [Site.list, Site.list, hsel]
        rfl
      · change some (sel.counter + 1) = some (UInt64.ofNat (n + 1))
        rw [hcounter, UInt64.ofNat_add]
        rfl

variable [Driver β]

theorem always_ofDriver_discoverAll {others : Site (Recorder β) → Site (Recorder β) → Prop}
    {K : Site (Recorder β) → Prop} (hK : ∀ d s, K s → K { s with driver := d })
    (ho : ∀ s t, others s t → SameLog s t ∧ (K s → K t)) (dsn : Dsn) (timeout : Duration)
    (known : List Replica) {s : Site (Recorder β)} (hs : K s) :
    (Site.ofDriver (discoverAll dsn timeout known)).Always others K
      (fun result t => K t ∧ Discovered dsn known s.log result t.driver) s := by
  have hzoom : (Site.ofDriver (discoverAll dsn timeout known)).Always others
      (fun t => True ∧ K t)
      (fun result t => Discovered dsn known s.log result t.driver ∧ K t) s := by
    unfold Site.ofDriver
    refine Job.Always.zoom ?_ ?_ ?_ (always_discoverAll dsn timeout known s.driver) hs
    · exact fun _ _ => rfl
    · exact fun d t => hK d t
    · exact fun t u h => ho t u h
  exact hzoom.mono (fun _ h => h.2) fun _ _ h => ⟨h.2, h.1⟩

/-- A refresh leaves the list as it is until it ends. -/
theorem always_refresh {dsn : Dsn} {known : List Replica} {s : Site (Recorder β)}
    (hs : s.list = some (dsn, known)) :
    (refresh : Work (Recorder β) _).Always Quiet (fun t => t.list = some (dsn, known))
      (Refreshed dsn known s.log) s := by
  obtain ⟨sel, hsel, hlist⟩ := Option.map_eq_some_iff.mp hs
  obtain ⟨rfl, rfl⟩ := Prod.mk.inj hlist
  unfold refresh
  -- The refresh looks at the selector now; what it finds goes into the selector there is at its end.
  rw [Job.always_read_iff, hsel]
  dsimp only
  rw [Job.always_bind]
  refine (always_ofDriver_discoverAll (K := fun t => t.list = some (sel.dsn, sel.replicas)) ?_ ?_
    sel.dsn sel.timeout sel.replicas hs).mono (fun _ h => h) ?_
  · exact fun _ _ h => h
  · exact fun _ _ h => ⟨h.1, fun ht => h.2.trans ht⟩
  · rintro result t ⟨ht, log, hlog, hresult⟩
    cases result with
    | error e => exact ⟨ht, log, hlog, hresult⟩
    | ok replicas =>
      obtain ⟨sel', hsel', hlist'⟩ := Option.map_eq_some_iff.mp ht
      refine ⟨replicas, log, ?_, hlog, hresult⟩
      change (t.selector.map _).map _ = _
      rw [hsel', ← (Prod.mk.inj hlist').1]
      rfl

/-- A refresh never touches the counter. -/
theorem only_refresh (s : Site (Recorder β)) :
    (refresh : Work (Recorder β) _).Only SameCounter s := by
  unfold refresh
  rw [Job.only_read_iff]
  cases s.selector with
  | none => trivial
  | some sel =>
    refine Job.Only.bind ?_ fun result t => ?_
    · unfold Site.ofDriver
      refine Job.Only.zoom (fun _ _ => rfl) ?_ (Job.only_true _ _)
      exact fun _ _ _ => rfl
    · cases result with
      | error e => trivial
      | ok replicas =>
        refine Job.Only.bind (Job.only_modify rfl) fun _ u => Job.Only.bind (Job.only_modify ?_) ?_
        · unfold SameCounter Site.counter
          cases u.selector <;> rfl
        · exact fun _ _ => trivial

/-- A selector that starts has the list of its first discovery, and no read has taken a turn. -/
theorem ends_start {text : String} {interval timeout : Duration} {s t : Site (Recorder β)}
    (h : (start text interval timeout : Work (Recorder β) _).Ends SameLog s (.ok ()) t) :
    ∃ dsn replicas log, Dsn.parse text = .ok dsn ∧ t.list = some (dsn, replicas) ∧
      t.counter = some 0 ∧ t.log = s.log ++ log ∧ Discovery.From dsn [] ⟨log, replicas⟩ := by
  unfold start at h
  cases hparse : Dsn.parse text with
  | error e =>
    rw [hparse] at h
    obtain ⟨hne, -⟩ := Job.ends_done_iff.mp h
    cases hne
  | ok dsn =>
    rw [hparse] at h
    obtain ⟨result, u, hdiscover, h⟩ := Job.ends_bind_iff.mp h
    obtain ⟨-, log, hlog, hfrom⟩ := (always_ofDriver_discoverAll (K := fun _ => True) (fun _ _ _ => trivial)
      (fun _ _ h => ⟨h, fun _ => trivial⟩) dsn timeout [] trivial).of_ends hdiscover
    cases result with
    | error e =>
      obtain ⟨hne, -⟩ := Job.ends_done_iff.mp h
      cases hne
    | ok replicas =>
      obtain ⟨_, v, hinstall, h⟩ := Job.ends_bind_iff.mp h
      obtain ⟨-, rfl⟩ := Job.ends_done_iff.mp (Job.ends_write_iff.mp (Job.ends_read_iff.mp hinstall))
      obtain ⟨_, w, hnote, h⟩ := Job.ends_bind_iff.mp h
      rw [Site.ends_note_iff] at hnote
      obtain ⟨-, rfl⟩ := Job.ends_done_iff.mp h
      subst hnote
      exact ⟨dsn, replicas, log, rfl, rfl, rfl, hlog, hfrom⟩

end Selector

/-! ## A selector at work -/

/-- A selector at work. -/
structure Watch (β : Type) where
  /-- The session. -/
  site : Site (Recorder β)
  /-- The log when the refresh under way began, and what is left of the refresh. -/
  refreshing : Option (List Entry × Work (Recorder β) (Except Error Unit)) := none
  /-- How many reads have been given a replica. -/
  turns : Nat := 0
  /-- The discoveries that have succeeded, the newest first. -/
  found : List Discovery

namespace Watch

/-- The discovery that a refresh which has succeeded was: what was asked since it began, and the list
that it has left. -/
def discovered (since : List Entry) (s : Site (Recorder β)) : Discovery :=
  ⟨s.log.drop since.length, (s.list.map (·.2)).getD []⟩

theorem discovered_eq {dsn : Dsn} {since log : List Entry} {replicas : List Replica}
    {s : Site (Recorder β)} (hlist : s.list = some (dsn, replicas)) (hlog : s.log = since ++ log) :
    discovered since s = ⟨log, replicas⟩ := by
  rw [discovered, hlog, List.drop_left, hlist]
  rfl

variable [Driver β]

/-- What can happen to a selector at work. -/
inductive Step : Watch β → Watch β → Prop where
  /-- A refresh begins, if none is under way. -/
  | begins {w : Watch β} : w.refreshing = none →
      Step w { w with refreshing := some (w.site.log, Selector.refresh) }
  /-- The refresh goes on to its next wait. -/
  | waits {w : Watch β} {since : List Entry} {x rest : Work (Recorder β) (Except Error Unit)}
      {s : Site (Recorder β)} : w.refreshing = some (since, x) →
      x.untilWait w.site = (.inr rest, s) →
      Step w { w with site := s, refreshing := some (since, rest) }
  /-- The refresh fails. -/
  | fails {w : Watch β} {since : List Entry} {x : Work (Recorder β) (Except Error Unit)}
      {s : Site (Recorder β)} {e : Error} : w.refreshing = some (since, x) →
      x.untilWait w.site = (.inl (.error e), s) →
      Step w { w with site := s, refreshing := none }
  /-- The refresh succeeds. -/
  | succeeds {w : Watch β} {since : List Entry} {x : Work (Recorder β) (Except Error Unit)}
      {s : Site (Recorder β)} : w.refreshing = some (since, x) →
      x.untilWait w.site = (.inl (.ok ()), s) →
      Step w { w with site := s, refreshing := none, found := discovered since s :: w.found }
  /-- The refresh is given up while it waits. -/
  | givesUp {w : Watch β} : Step w { w with refreshing := none }
  /-- A read asks for a replica. -/
  | reads {w : Watch β} {usePrimary : Bool} {r : Option ConnectionId} {s : Site (Recorder β)} :
      (Selector.pick usePrimary).run w.site = (r, s) →
      Step w { w with site := s, turns := if r.isSome then w.turns + 1 else w.turns }
  /-- The refreshing is stopped. -/
  | closes {w : Watch β} : Step w { w with site := (Selector.close.run w.site).2 }
  /-- Others use the driver, or time goes on. -/
  | others {w : Watch β} {s : Site (Recorder β)} : SameLog w.site s → s.selector = w.site.selector →
      Step w { w with site := s }

/-- The watches of a selector that has started with given settings. -/
inductive Reachable (text : String) (interval timeout : Duration) : Watch β → Prop where
  /-- The selector has started. -/
  | start {s t : Site (Recorder β)} :
      (Selector.start text interval timeout).Ends SameLog s (.ok ()) t →
      Reachable text interval timeout { site := t, found := [discovered s.log t] }
  /-- Something has happened since. -/
  | step {w w' : Watch β} : Reachable text interval timeout w → Step w w' →
      Reachable text interval timeout w'

end Watch

/-! ## Discoveries in turn -/

namespace Discovery

def newest : List Discovery → List Replica
  | [] => []
  | d :: _ => d.replicas

/-- Each discovery has started from the list of the one before, the first from an empty list. -/
def Linked (dsn : Dsn) : List Discovery → Prop
  | [] => True
  | d :: before => d.From dsn (newest before) ∧ Linked dsn before

theorem Linked.of_append {dsn : Dsn} {back : List Discovery} (front : List Discovery)
    (h : Linked dsn (front ++ back)) : Linked dsn back := by
  induction front with
  | nil => exact h
  | cons d front ih => exact ih h.2

/-- An address that is found again keeps its connection. -/
theorem From.connection_eq {dsn : Dsn} {known : List Replica} {d e : Discovery}
    (hd : d.From dsn known) (he : e.From dsn d.replicas) (hnodup : d.addresses.Nodup) {q r : Replica}
    (hq : q ∈ d.replicas) (hr : r ∈ e.replicas) (h : r.dsn = q.dsn) : r.connection = q.connection := by
  apply he.kept r hr
  rw [h]
  exact Selector.connectionFor?_of_nodup (hd.nodup_dsn hnodup) hq

/-- An address in all answers of a stretch of discoveries has one connection in all of them. -/
theorem Linked.exists_connection {dsn : Dsn} {a : IpAddr} {stretch back : List Discovery}
    (h : Linked dsn (stretch ++ back))
    (ha : ∀ d ∈ stretch, d.addresses.Nodup ∧ a ∈ d.addresses) :
    ∃ c, ∀ d ∈ stretch, ∀ r ∈ d.replicas, r.dsn = (dsn.withAddress a).text → r.connection = c := by
  -- From the oldest discovery on: the newest one has kept the connection of the one before it.
  induction stretch with
  | nil => exact ⟨0, fun d hd => absurd hd List.not_mem_nil⟩
  | cons e older ih =>
    obtain ⟨he, hlinked⟩ := h
    obtain ⟨c, hc⟩ := ih hlinked fun d hd => ha d (List.mem_cons_of_mem e hd)
    obtain ⟨q, hq, hqdsn⟩ := he.exists_replica (ha e List.mem_cons_self).2
    cases older with
    | nil =>
      refine ⟨q.connection, fun d hd r hr hrdsn => ?_⟩
      rw [List.mem_singleton.mp hd] at hr
      rw [List.inj_on_of_nodup_map (he.nodup_dsn (ha e List.mem_cons_self).1) hr hq
        (hrdsn.trans hqdsn.symm)]
    | cons d older =>
      have hd : d ∈ d :: older := List.mem_cons_self
      obtain ⟨hdnodup, had⟩ := ha d (List.mem_cons_of_mem e hd)
      obtain ⟨p, hp, hpdsn⟩ := hlinked.1.exists_replica had
      refine ⟨c, fun d' hd' r hr hrdsn => ?_⟩
      rcases List.mem_cons.mp hd' with rfl | hd'
      · calc r.connection
            = p.connection :=
              hlinked.1.connection_eq he hdnodup hp hr (hrdsn.trans hpdsn.symm)
          _ = c := hc d hd p hp hpdsn
      · exact hc d' hd' r hr hrdsn

end Discovery

/-! ## Every step follows -/

namespace Watch

open Discovery (newest Linked)

/-- The list is that of the newest discovery, and a refresh under way will not change that. -/
structure Follows [Driver β] (dsn : Dsn) (w : Watch β) : Prop where
  found : w.found ≠ []
  linked : Linked dsn w.found
  list : w.site.list = some (dsn, newest w.found)
  counter : w.site.counter = some (UInt64.ofNat w.turns)
  always : ∀ since x, w.refreshing = some (since, x) → ∀ t, Quiet w.site t →
    x.Always Quiet (fun u => u.list = some (dsn, newest w.found))
      (Refreshed dsn (newest w.found) since) t
  only : ∀ since x, w.refreshing = some (since, x) → ∀ t, x.Only SameCounter t

variable [Driver β] {dsn : Dsn} {w w' : Watch β}

/-- What leaves the log and the list as they are, and moves the counter on by the turns taken. -/
theorem Follows.quiet (h : w.Follows dsn) {s : Site (Recorder β)} {turns : Nat}
    (hs : Quiet w.site s) (hturns : s.counter = some (UInt64.ofNat turns)) :
    ({ w with site := s, turns } : Watch β).Follows dsn where
  found := h.found
  linked := h.linked
  list := hs.2.trans h.list
  counter := hturns
  always since x hx t ht := h.always since x hx t (hs.trans ht)
  only := h.only

/-- A watch whose refresh has ended without a new list. -/
theorem Follows.idle (h : w.Follows dsn) {s : Site (Recorder β)}
    (hlist : s.list = some (dsn, newest w.found)) (hcounter : s.counter = w.site.counter) :
    ({ w with site := s, refreshing := none } : Watch β).Follows dsn where
  found := h.found
  linked := h.linked
  list := hlist
  counter := hcounter.trans h.counter
  always := nofun
  only := nofun

/-- How far a refresh comes until its next wait. -/
theorem Follows.untilWait (h : w.Follows dsn) {since : List Entry}
    {x : Work (Recorder β) (Except Error Unit)} (hx : w.refreshing = some (since, x))
    {r : Except Error Unit ⊕ Work (Recorder β) (Except Error Unit)} {s : Site (Recorder β)}
    (hrun : x.untilWait w.site = (r, s)) :
    s.counter = w.site.counter ∧
      (∀ result, r = .inl result → Refreshed dsn (newest w.found) since result s) ∧
      ∀ rest, r = .inr rest → s.list = some (dsn, newest w.found) ∧
        (∀ t, Quiet s t → rest.Always Quiet (fun u => u.list = some (dsn, newest w.found))
          (Refreshed dsn (newest w.found) since) t) ∧
        ∀ t, rest.Only SameCounter t := by
  obtain ⟨hends, hwaits⟩ := (h.always since x hx w.site (Quiet.refl _)).untilWait hrun
  obtain ⟨hcounter, honly⟩ := Job.Only.untilWait (R := SameCounter) (fun _ => rfl)
    (fun h₁ h₂ => h₂.trans h₁) (h.only since x hx w.site) hrun
  refine ⟨hcounter, hends, ?_⟩
  intro rest hr
  exact ⟨(hwaits rest hr).1, (hwaits rest hr).2, honly rest hr⟩

theorem follows_step (h : w.Follows dsn) (hstep : Step w w') : w'.Follows dsn := by
  cases hstep with
  | begins hnone =>
    refine { h with always := ?_, only := ?_ }
    · rintro since x ⟨⟩ t ht
      have hlog : t.log = w.site.log := ht.1
      rw [← hlog]
      exact Selector.always_refresh (ht.2.trans h.list)
    · rintro since x ⟨⟩ t
      exact Selector.only_refresh t
  | waits hx hrun =>
    obtain ⟨hcounter, -, hwaits⟩ := h.untilWait hx hrun
    obtain ⟨hlist, halways, honly⟩ := hwaits _ rfl
    refine ⟨h.found, h.linked, hlist, hcounter.trans h.counter, ?_, ?_⟩
    · rintro since x ⟨⟩
      exact halways
    · rintro since x ⟨⟩
      exact honly
  | fails hx hrun =>
    obtain ⟨hcounter, hends, -⟩ := h.untilWait hx hrun
    exact h.idle (hends _ rfl).1 hcounter
  | @succeeds since _ s hx hrun =>
    obtain ⟨hcounter, hends, -⟩ := h.untilWait hx hrun
    obtain ⟨replicas, log, hlist, hlog, hfrom⟩ := hends _ rfl
    have hdiscovered : discovered since s = ⟨log, replicas⟩ := discovered_eq hlist hlog
    rw [hdiscovered]
    exact ⟨List.cons_ne_nil _ _, ⟨hfrom, h.linked⟩, hlist, hcounter.trans h.counter, nofun, nofun⟩
  | givesUp => exact h.idle h.list rfl
  | reads hpick =>
    obtain ⟨hquiet, hcounter⟩ := Selector.pick_run h.counter hpick
    exact h.quiet hquiet hcounter
  | closes =>
    refine h.quiet ⟨rfl, ?_⟩ (Eq.trans ?_ h.counter)
    · exact Option.map_map _ _ _
    · exact Option.map_map _ _ _
  | others hlog hselector =>
    refine h.quiet ⟨hlog, ?_⟩ (Eq.trans ?_ h.counter)
    · rw [Site.list, Site.list, hselector]
    · rw [Site.counter, Site.counter, hselector]

/-- Every watch of a selector that has started follows discovery. -/
theorem follows_of_reachable {text : String} {interval timeout : Duration}
    (h : Reachable text interval timeout w) : ∃ dsn, Dsn.parse text = .ok dsn ∧ w.Follows dsn := by
  induction h with
  | @start s t hstart =>
    obtain ⟨dsn, replicas, log, hparse, hlist, hcounter, hlog, hfrom⟩ := Selector.ends_start hstart
    have hdiscovered : discovered s.log t = ⟨log, replicas⟩ := discovered_eq hlist hlog
    rw [hdiscovered]
    exact ⟨dsn, hparse, List.cons_ne_nil _ _, ⟨hfrom, trivial⟩, hlist, hcounter, nofun, nofun⟩
  | step _ hstep ih =>
    obtain ⟨dsn, hparse, hfollows⟩ := ih
    exact ⟨dsn, hparse, follows_step hfollows hstep⟩

/-- In every watch of a selector that has started:
* different addresses have different data source names;
* the list is that of the last discovery that succeeded, and the counter counts the reads that have been
  given a replica;
* only a discovery that succeeds changes the list, and only such a read the counter;
* a refresh fails only if the driver lets it down;
* each discovery has asked for and listed what it should, and has started from the list of the one
  before;
* an address that stays in consecutive answers without repeats keeps its connection. -/
theorem follows_discovery {text : String} {interval timeout : Duration}
    (h : Reachable text interval timeout w) :
    ∃ dsn, Dsn.parse text = .ok dsn ∧
      (Function.Injective fun a => (dsn.withAddress a).text) ∧
      (w.found ≠ [] ∧ w.site.list = some (dsn, newest w.found)) ∧
      w.site.counter = some (UInt64.ofNat w.turns) ∧
      (∀ w', Step w w' → (w'.found = w.found → w'.site.list = w.site.list) ∧
        (w'.turns = w.turns → w'.site.counter = w.site.counter)) ∧
      (∀ since x e s, w.refreshing = some (since, x) → x.untilWait w.site = (.inl (.error e), s) →
        ∃ log, s.log = since ++ log ∧ Discovery.Broken dsn log e) ∧
      Linked dsn w.found ∧
      ∀ front stretch back a, w.found = front ++ stretch ++ back →
        (∀ d ∈ stretch, d.addresses.Nodup ∧ a ∈ d.addresses) →
        ∃ c, ∀ d ∈ stretch, ∀ r ∈ d.replicas, r.dsn = (dsn.withAddress a).text → r.connection = c := by
  obtain ⟨dsn, hparse, hw⟩ := follows_of_reachable h
  refine ⟨dsn, hparse, dsn.withAddress_text_injective, ⟨hw.found, hw.list⟩, hw.counter, ?_, ?_,
    hw.linked, ?_⟩
  · intro w' hstep
    have hw' := follows_step hw hstep
    constructor
    · intro hfound
      rw [hw'.list, hw.list, hfound]
    · intro hturns
      rw [hw'.counter, hw.counter, hturns]
  · intro since x e s hx hrun
    obtain ⟨-, hends, -⟩ := hw.untilWait hx hrun
    exact (hends _ rfl).2
  · intro front stretch back a hfound ha
    have hlinked : Linked dsn (stretch ++ back) := by
      apply Discovery.Linked.of_append front
      rw [← List.append_assoc, ← hfound]
      exact hw.linked
    exact hlinked.exists_connection ha

/-- A session whose domain has given addresses. -/
def hosts (addresses : List IpAddr) : Site (Recorder Simulation) :=
  ⟨{}, none, { base := { resolver := { addresses } } }⟩

/-- A name that stands for two hosts. -/
def clusterName : String := "app@tcp(db:3306)/app"

/-- A selector that has started on two hosts. -/
def started : Watch Simulation :=
  let before := hosts [.v4 10 0 0 1, .v4 10 0 0 2]
  let site := ((Selector.start clusterName .second .second).run before).2
  { site, found := [discovered before.log site] }

/-- The same session when the domain has another host in front and the first one is gone. -/
def movedSite : Site (Recorder Simulation) :=
  { started.site with driver :=
    { started.site.driver with base :=
      { started.site.driver.base with resolver :=
        { addresses := [.v4 10 0 0 3, .v4 10 0 0 2] } } } }

/-- The selector after a refresh. -/
def refreshed : Watch Simulation :=
  let site := (Selector.refresh.untilWait movedSite).2
  { site, found := discovered movedSite.log site :: started.found }

/-- The selector after a refresh and a read. -/
def moved : Watch Simulation :=
  { refreshed with site := ((Selector.pick false).run refreshed.site).2, turns := 1 }

theorem follows_discovery_moved :
    Reachable clusterName .second .second moved ∧
      moved.found.map (·.addresses) =
        [[.v4 10 0 0 3, .v4 10 0 0 2], [.v4 10 0 0 1, .v4 10 0 0 2]] ∧
      ∃ dsn, Dsn.parse clusterName = .ok dsn ∧ moved.site.list = some (dsn, newest moved.found) ∧
        ∃ c, ∀ d ∈ moved.found, ∀ r ∈ d.replicas,
          r.dsn = (dsn.withAddress (.v4 10 0 0 2)).text → r.connection = c := by
  have hstart : Reachable clusterName .second .second started := by
    have hok : ((Selector.start clusterName .second .second).run
        (hosts [.v4 10 0 0 1, .v4 10 0 0 2])).1 = .ok () := by decide +kernel
    have hlog : ∀ s : Site (Recorder Simulation), SameLog s s := fun _ => rfl
    have hends := Job.ends_run hlog (Selector.start clusterName .second .second)
      (hosts [.v4 10 0 0 1, .v4 10 0 0 2])
    rw [hok] at hends
    exact .start hends
  have hmoves : Step started { started with site := movedSite } := .others rfl rfl
  have hrefresh : Reachable clusterName .second .second refreshed := by
    have hok : (Selector.refresh.untilWait movedSite).1.getLeft? = some (.ok ()) := by
      decide +kernel
    have hrun : Selector.refresh.untilWait movedSite = (.inl (.ok ()), refreshed.site) :=
      Prod.ext (Sum.getLeft?_eq_some_iff.mp hok) rfl
    exact ((hstart.step hmoves).step (.begins rfl)).step (.succeeds rfl hrun)
  have hreads : Step refreshed moved := by
    have hturn : ((Selector.pick false).run refreshed.site).1.isSome = true := by decide +kernel
    have hstep := Step.reads (w := refreshed) (Prod.eta ((Selector.pick false).run refreshed.site)).symm
    rw [if_pos hturn] at hstep
    exact hstep
  have haddresses : moved.found.map (·.addresses) =
      [[.v4 10 0 0 3, .v4 10 0 0 2], [.v4 10 0 0 1, .v4 10 0 0 2]] := by decide +kernel
  have hall : ∀ d ∈ moved.found, d.addresses.Nodup ∧ .v4 10 0 0 2 ∈ d.addresses := by
    decide +kernel
  have hreach := hrefresh.step hreads
  obtain ⟨dsn, hparse, -, ⟨-, hlist⟩, -, -, -, -, hkept⟩ := follows_discovery hreach
  refine ⟨hreach, haddresses, dsn, hparse, hlist, hkept [] moved.found [] (.v4 10 0 0 2) ?_ hall⟩
  rw [List.append_nil, List.nil_append]

end Watch

end EntityStore
