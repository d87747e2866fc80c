import EntityStore.Proofs.Session.Errands

/-!
# A refresh, step by step

A refresh among others, which take steps of their own between any two of its steps. Its own lines in the
log of the driver are those that its steps add (`Recorder.ownLines`). If its discovery succeeds, these
are the lines of a discovery and the list is that of its answer (`Selector.keeps_discoverAll`), as if it
had been alone.

What others may see is the list of the session. A refresh changes it with its last step or not at all:
after a change no step is allowed any more (`Progress.rules`, `Progress.keeps_refresh`).
-/

namespace EntityStore

open Job (Keeps)

variable {α β : Type}

/-! ## The lines of one caller -/

namespace Recorder

/-- A caller that only adds to the log; its journal are its own lines. -/
def ownLines : Job.Rules (Recorder β) (List Entry) where
  holds _ := True
  allows _ r s := ∃ lines, s.log = r.log ++ lines
  note own r s := own ++ s.log.drop r.log.length

theorem note_ownLines {own lines : List Entry} {r s : Recorder β} (h : s.log = r.log ++ lines) :
    ownLines.note own r s = own ++ lines := by
  simp only [ownLines, h, List.drop_left]

theorem keeps_record (e : Entry) (own : List Entry) :
    Keeps (ownLines (β := β)) (fun own' _ => own' = own ++ [e]) (record e) own :=
  .step rfl (fun _ _ => ⟨[e], rfl⟩) fun _ _ => .done (note_ownLines rfl)

theorem keeps_behind (x : Job β α) (own : List Entry) :
    Keeps (ownLines (β := β)) (fun own' _ => own' = own) (behind x) own := by
  refine ((steps_behind x).keeps (r := ownLines) (P := (· = own)) rfl ?_).mono fun _ _ h => h.1
  rintro own r s - (hsame : s.log = r.log) rfl
  have hlog : s.log = r.log ++ [] := by rw [hsame, List.append_nil]
  exact ⟨⟨[], hlog⟩, (note_ownLines hlog).trans (List.append_nil own)⟩

/-- A request is a caller's next line, and its answer the one behind it. -/
theorem keeps_forward (q : Request) (answer : α → Answer) (x : Job β α) (own : List Entry) :
    Keeps (ownLines (β := β)) (fun own' a => own' = own ++ q.answeredBy (answer a))
      (forward q answer x) own := by
  refine (keeps_record _ own).bind
    (fun _ => Job.isWrite_bind (Job.isWrite_zoom _) fun _ => rfl) ?_
  rintro own₁ - rfl
  refine (keeps_behind x _).bind (fun _ => rfl) ?_
  rintro own₂ a rfl
  refine (keeps_record _ _).bind (fun _ => rfl) ?_
  rintro own₃ - rfl
  exact .done (List.append_assoc own _ _)

end Recorder

/-! ## A discovery among others -/

namespace Selector

variable [Driver β]

open Recorder (ownLines)

/-- A list that is connected to has opened exactly the connections of its fresh entries, in order. -/
theorem keeps_connectAll (known : List Replica) (i : Nat) (dsns : List Dsn) (own : List Entry) :
    Keeps (ownLines (β := β))
      (fun own' result => ∀ replicas, result = .ok replicas → Lists known i dsns replicas ∧
        own' = own ++ (fresh known replicas).flatMap opening)
      (connectAll known i dsns) own := by
  induction dsns generalizing i own with
  | nil =>
    refine .done ?_
    rintro _ ⟨⟩
    exact ⟨lists_nil known i, (List.append_nil own).symm⟩
  | cons d dsns ih =>
    unfold connectAll
    cases hc : connectionFor? known d.text with
    | some c =>
      refine (ih (i + 1) own).bind (fun _ => rfl) ?_
      rintro own' (e | rest) h
      · exact .done (by rintro _ ⟨⟩)
      · obtain ⟨hlists, hown⟩ := h rest rfl
        refine .done ?_
        rintro _ ⟨⟩
        refine ⟨hlists.cons (by rw [hc]; rintro c' ⟨⟩; rfl), ?_⟩
        rw [hown, fresh_cons_of_some hc]
    | none =>
      refine (Recorder.keeps_forward _ _ _ own).bind ?_ ?_
      · rintro (e | c)
        · rfl
        · exact Job.isWrite_bind (steps_connectAll known (i + 1) dsns).1 fun _ => rfl
      rintro own₁ (e | c) rfl
      · exact .done (by rintro _ ⟨⟩)
      · refine (ih (i + 1) _).bind (fun _ => rfl) ?_
        rintro own₂ (e | rest) h
        · exact .done (by rintro _ ⟨⟩)
        · obtain ⟨hlists, hown⟩ := h rest rfl
          refine .done ?_
          rintro _ ⟨⟩
          refine ⟨hlists.cons (by rw [hc]; rintro _ ⟨⟩), ?_⟩
          rw [hown, fresh_cons_of_none hc, List.flatMap_cons, List.append_assoc]
          rfl

theorem keeps_discover (dsn : Dsn) (timeout : Duration) :
    Keeps (ownLines (β := β))
      (fun own result => ∀ dsns, result = .ok dsns →
        ∃ addresses, dsns = addresses.map dsn.withAddress ∧
          own = (Request.resolve dsn.host dsn.port).answeredBy (.addresses addresses))
      (discover dsn timeout) [] := by
  have hresolve : Keeps (ownLines (β := β))
      (fun own result => ∀ addresses, result = .ok addresses →
        own = (Request.resolve dsn.host dsn.port).answeredBy (.addresses addresses))
      (Driver.resolve dsn.host dsn.port) [] := by
    refine (Recorder.keeps_forward _ _ _ []).mono ?_
    rintro _ _ rfl addresses rfl
    rfl
  refine (hresolve.withDeadline (fun _ _ _ _ _ => nofun) (some timeout)).bind (fun _ => rfl) ?_
  rintro own (e | addresses) h
  · exact .done nofun
  · refine .done ?_
    rintro _ ⟨⟩
    exact ⟨addresses, rfl, h addresses rfl⟩

/-- A discovery that succeeds among others has its own lines and the list of its own answer. -/
theorem keeps_discoverAll (dsn : Dsn) (timeout : Duration) (known : List Replica) :
    Keeps (ownLines (β := β))
      (fun own result => ∀ replicas, result = .ok replicas → Discovery.From dsn known ⟨own, replicas⟩)
      (discoverAll dsn timeout known) [] := by
  refine (keeps_discover dsn timeout).bind ?_ ?_
  · rintro (e | dsns)
    · rfl
    · exact (steps_connectAll known 0 dsns).1
  · rintro own (e | dsns) h
    · exact .done nofun
    · obtain ⟨addresses, rfl, rfl⟩ := h dsns rfl
      refine (keeps_connectAll known 0 _ _).mono fun own' result hresult replicas hr => ?_
      obtain ⟨hlists, hown⟩ := hresult replicas hr
      exact Discovery.from_of_lists hlists hown

end Selector

/-! ## A refresh among others -/

theorem Site.replicas_of_list {s : Site (Recorder β)} {dsn : Dsn} {list : List Replica}
    (h : s.list = some (dsn, list)) : s.replicas = list := by
  obtain ⟨sel, hsel, hlist⟩ := Option.map_eq_some_iff.1 h
  rw [Site.replicas, hsel, ← (Prod.mk.inj hlist).2]
  rfl

/-- What can be seen of a refresh among others. -/
structure Progress where
  /-- Its own lines in the log of the driver. -/
  lines : List Entry := []
  /-- The list of the session right after its latest step. -/
  list : List Replica := []
  /-- Whether that step has changed the list. -/
  changed : Prop := False

namespace Progress

def noted (p : Progress) (s t : Site (Recorder β)) : Progress where
  lines := p.lines ++ t.log.drop s.log.length
  list := t.replicas
  changed := t.list ≠ s.list

/-- A refresh only adds to the log, and a step that changes the list is its last one. -/
def rules (dsn : Dsn) : Job.Rules (Site (Recorder β)) Progress where
  holds s := ∃ list, s.list = some (dsn, list)
  allows p s t := ¬ p.changed ∧ (∃ list, t.list = some (dsn, list)) ∧ ∃ lines, t.log = s.log ++ lines
  note := noted

/-- What a refresh has come to: a list that it has put in place is that of its own answer, and a refresh
that fails has not changed the list. -/
def Concludes (dsn : Dsn) (p : Progress) : Except Error Unit → Prop
  | .ok () => ∃ known, Discovery.From dsn known ⟨p.lines, p.list⟩
  | .error _ => ¬ p.changed

variable {dsn : Dsn} {s t : Site (Recorder β)}

theorem lines_noted {p : Progress} {lines : List Entry} (h : t.log = s.log ++ lines) :
    (p.noted s t).lines = p.lines ++ lines := by
  rw [noted, h, List.drop_left]

/-- A step that leaves the list alone. -/
theorem allows_quiet {p : Progress} (hp : ¬ p.changed) (hs : (rules dsn).holds s)
    (hlist : t.list = s.list) {lines : List Entry} (hlog : t.log = s.log ++ lines) :
    (rules dsn).allows p s t ∧ ¬ (p.noted s t).changed ∧ (p.noted s t).lines = p.lines ++ lines :=
  ⟨⟨hp, hlist ▸ hs, lines, hlog⟩, not_not.2 hlist, lines_noted hlog⟩

theorem concludes_of_list {p : Progress} {known replicas : List Replica}
    (h : Discovery.From dsn known ⟨p.lines, replicas⟩) (hlog : t.log = s.log)
    (hlist : t.list = some (dsn, replicas)) : Concludes dsn (p.noted s t) (.ok ()) := by
  have hlines : (p.noted s t).lines = p.lines := by
    rw [lines_noted (hlog.trans (List.append_nil _).symm), List.append_nil]
  refine ⟨known, ?_⟩
  rw [hlines, noted, Site.replicas_of_list hlist]
  exact h

theorem keeps_modify {f : Site (Recorder β) → Site (Recorder β)} {p : Progress} (hp : ¬ p.changed)
    (hf : ∀ s, (f s).list = s.list ∧ (f s).log = s.log) :
    Keeps (rules dsn) (fun p' _ => ¬ p'.changed ∧ p'.lines = p.lines) (Job.modify f) p := by
  have hquiet : ∀ s : Site (Recorder β), (rules dsn).holds s → _ := fun s hs =>
    allows_quiet hp hs (hf s).1 ((hf s).2.trans (List.append_nil _).symm)
  refine .step rfl (fun s hs => (hquiet s hs).1) fun s hs => .done ?_
  obtain ⟨-, hchanged, hlines⟩ := hquiet s hs
  exact ⟨hchanged, hlines.trans (List.append_nil _)⟩

theorem keeps_read {Q : Progress → α → Prop} {p : Progress} (hp : ¬ p.changed)
    {k : Site (Recorder β) → Work (Recorder β) α} (hw : ∀ s, (k s).isWrite = false)
    (h : ∀ s, (rules dsn).holds s → ∀ p' : Progress, ¬ p'.changed → p'.lines = p.lines →
      Keeps (rules dsn) Q (k s) p') : Keeps (rules dsn) Q (.read k) p := by
  refine .read hw fun s hs => ?_
  obtain ⟨hallows, hchanged, hlines⟩ :=
    allows_quiet hp hs (rfl : s.list = s.list) (List.append_nil s.log).symm
  exact ⟨hallows, h s hs _ hchanged (hlines.trans (List.append_nil _))⟩

/-- A new list comes with the last step. -/
theorem keeps_update {p : Progress} (hp : ¬ p.changed) {known replicas : List Replica}
    (h : Discovery.From dsn known ⟨p.lines, replicas⟩) :
    Keeps (rules dsn) (fun p' _ => Concludes dsn p' (.ok ()))
      (Selector.update fun s => { s with replicas } : Work (Recorder β) Unit) p := by
  have hlist : ∀ s : Site (Recorder β), (rules dsn).holds s →
      Site.list { s with selector := s.selector.map fun s => { s with replicas } } =
        some (dsn, replicas) := by
    rintro s ⟨list, hs⟩
    obtain ⟨sel, hsel, hlist⟩ := Option.map_eq_some_iff.1 hs
    rw [Site.list, hsel, ← (Prod.mk.inj hlist).1]
    rfl
  refine .step rfl (fun s hs => ⟨hp, ⟨_, hlist s hs⟩, [], (List.append_nil _).symm⟩) fun s hs => ?_
  exact .done (concludes_of_list h rfl (hlist s hs))

variable [Driver β]

theorem keeps_discovery (timeout : Duration) (known : List Replica) {p : Progress} (hp : ¬ p.changed)
    (hlines : p.lines = []) :
    Keeps (rules dsn)
      (fun p' result => ¬ p'.changed ∧
        ∀ replicas, result = .ok replicas → Discovery.From dsn known ⟨p'.lines, replicas⟩)
      (Site.ofDriver (Selector.discoverAll dsn timeout known) : Work (Recorder β) _) p := by
  have hx := Selector.keeps_discoverAll (β := β) dsn timeout known
  rw [← hlines] at hx
  unfold Site.ofDriver
  refine hx.zoom (P := fun p => ¬ p.changed) ?_ ?_ ?_ hp
  · exact fun _ => rfl
  · exact fun _ _ => trivial
  · rintro p t d hp ht ⟨lines, hlog⟩
    obtain ⟨hallows, hchanged, hlines⟩ :=
      allows_quiet (t := { t with driver := d }) hp ht rfl hlog
    exact ⟨hallows, hchanged, hlines.trans (Recorder.note_ownLines hlog).symm⟩

/-- A refresh keeps to the rules, whatever others do. -/
theorem keeps_refresh :
    Keeps (rules dsn) (Concludes dsn) (Selector.refresh : Work (Recorder β) _) {} := by
  refine keeps_read id (fun s => ?_) ?_
  · cases s.selector with
    | none => rfl
    | some sel => exact Job.isWrite_bind (Job.isWrite_zoom _) (by rintro (e | replicas) <;> rfl)
  · rintro s ⟨list, hs⟩ p hp hlines
    obtain ⟨sel, hsel, hlist⟩ := Option.map_eq_some_iff.1 hs
    obtain ⟨rfl, rfl⟩ := Prod.mk.inj hlist
    rw [hsel]
    refine (keeps_discovery sel.timeout sel.replicas hp hlines).bind
      (by rintro (e | replicas) <;> rfl) ?_
    rintro p₁ (e | replicas) ⟨hp₁, hfrom⟩
    · exact .done hp₁
    · refine (keeps_modify (f := fun s => { s with driver := Driver.note _ s.driver }) hp₁
        fun s => ⟨rfl, rfl⟩).bind (fun _ => rfl) ?_
      rintro p₂ - ⟨hp₂, hlines₂⟩
      have hfrom₂ := hfrom replicas rfl
      rw [← hlines₂] at hfrom₂
      exact (keeps_update hp₂ hfrom₂).bind (fun _ => rfl) fun _ _ h => .done h

end Progress

end EntityStore
