import EntityStore.Proofs.Model.Registry
import EntityStore.Proofs.Replica.Watch
import EntityStore.Proofs.Session.Sharded
import EntityStore.Proofs.Session.Stepping

/-!
# What a caller has done

A `Journal` is what can be seen of the steps of one caller among others: the lines that it has put into
the log of the driver, the lists of replicas that it has come across, and the turns that it has taken.

Most steps are `Site.Plain`: they ask the driver for requests of some kind, and leave the replicas
alone. What such steps put into a journal is said once (`Journal.add_plain`), and a condition on
journals that is closed under it is kept by work of plain steps (`Journal.keeps_plain`). A request is
asked and answered, with nothing but others' steps in between (`Journal.keeps_ask`).
-/

namespace EntityStore

open Job (Keeps Steps)

variable {α β : Type}

/-! ## Requests, step by step -/

namespace Recorder

variable {P : Request → Prop}

theorem steps_behind (x : Job β α) :
    Steps (fun _ => True) SameLog (fun _ => True) (behind x) :=
  (Steps.of_true x).zoom (fun _ => rfl) (fun _ _ => trivial) fun _ _ _ => rfl

theorem asks_record {e : Entry} (he : P e.request) (r : Recorder β) :
    Asks P r { r with log := r.log ++ [e] } :=
  ⟨[e], rfl, fun _ h => List.mem_singleton.1 h ▸ he⟩

theorem steps_forward {q : Request} (hq : P q) (answer : α → Answer) (x : Job β α) :
    Steps (fun _ => True) (Asks P) (fun _ => True) (forward q answer x) := by
  refine (Steps.modify (asks_record hq)).bind
    (fun _ => Job.isWrite_bind (Job.isWrite_zoom _) fun _ => rfl) fun _ _ => ?_
  refine ((steps_behind x).mono (fun _ _ h => h.asks) fun _ _ => trivial).bind (fun _ => rfl)
    fun a _ => ?_
  exact (Steps.modify (asks_record hq)).bind (fun _ => rfl) fun _ _ => .done trivial

end Recorder

/-- What a request puts into the log of a driver: it is asked, and it is answered unless its caller gives
it up. -/
def Request.LoggedAs (q : Request) (lines : List Entry) : Prop :=
  lines = [.asked q] ∨ ∃ a, lines = q.answeredBy a

/-! ## Plain steps -/

namespace Site

/-- Reads are spread over replicas, and the registry is in order. -/
structure Sound (s : Site β) : Prop where
  selector : s.selector.isSome
  registry : s.registry.Valid

/-- The replicas known, if reads are spread over any. -/
def replicas (s : Site β) : List Replica := (s.selector.map (·.replicas)).getD []

/-- A step that asks for nothing but requests of a kind and leaves the replicas alone. -/
structure Plain (P : Request → Prop) (s t : Site (Recorder β)) : Prop where
  asks : Asks P s t
  selector : t.selector = s.selector
  valid : s.registry.Valid → t.registry.Valid

/-- Nothing is asked. -/
abbrev Silent : Site (Recorder β) → Site (Recorder β) → Prop := Plain fun _ => False

variable {P : Request → Prop} {s t : Site (Recorder β)} {holds : Site (Recorder β) → Prop}

theorem Plain.sound (h : Plain P s t) (hs : s.Sound) : t.Sound :=
  ⟨h.selector ▸ hs.selector, h.valid hs.registry⟩

theorem plain_of_sameLog {d : Recorder β} (h : Recorder.SameLog s.driver d) :
    Plain P s { s with driver := d } :=
  ⟨h.asks, rfl, id⟩

/-- The state with a line more in the log. -/
def said (e : Entry) (s : Site (Recorder β)) : Site (Recorder β) :=
  { s with driver := { s.driver with log := s.driver.log ++ [e] } }

theorem plain_said {e : Entry} (he : P e.request) (s : Site (Recorder β)) : Plain P s (said e s) :=
  ⟨Recorder.asks_record he s.driver, rfl, id⟩

theorem ofDriver_forward (q : Request) (answer : α → Answer) (x : Job β α) :
    ofDriver (Recorder.forward q answer x) =
      (Job.modify (said (.asked q))).bind fun _ =>
        (ofDriver (Recorder.behind x)).bind fun a =>
          (Job.modify (said (.answered q (answer a)))).bind fun _ => .done a := by
  rw [Recorder.forward, ofDriver, Job.zoom_bind, Job.zoom_bind]
  · rfl
  · exact fun _ => rfl
  · exact fun _ => Job.isWrite_bind (Job.isWrite_zoom _) fun _ => rfl

theorem steps_ofDriver {Q : α → Prop} {x : Job (Recorder β) α}
    (hx : Steps (fun _ => True) (Recorder.Asks P) Q x) : Steps holds (Plain P) Q (ofDriver x) :=
  hx.zoom (fun _ => rfl) (fun _ _ => trivial) fun _ _ h => ⟨h, rfl, id⟩

/-- What is done behind the log cannot be seen. -/
theorem steps_behind (x : Job β α) :
    Steps holds Silent (fun _ => True) (ofDriver (Recorder.behind x)) :=
  steps_ofDriver ((Recorder.steps_behind x).mono (fun _ _ h => h.asks) fun _ _ => trivial)

variable [Driver β]

theorem steps_note (n : Note) :
    Steps holds (Plain P) (fun _ => True) (note n : Work (Recorder β) Unit) :=
  Steps.modify fun _ => plain_of_sameLog rfl

theorem steps_connectionName (c : ConnectionId) :
    Steps holds (Plain P) (fun _ => True) (connectionName c : Work (Recorder β) String) :=
  Keeps.step rfl (fun _ _ => plain_of_sameLog rfl) fun _ _ => Keeps.done trivial

/-- The model that is looked up is that of the type, whoever has made it. -/
theorem steps_modelOf (hholds : ∀ s, holds s → s.registry.Valid) (ty : MappedType) :
    Steps holds (Plain P) (· = ty.model) (modelOf ty : Work (Recorder β) _) := by
  have hstep : ∀ s : Site (Recorder β), holds s →
      Plain P s ((modelOf ty).step s).2 ∧
        Steps holds (Plain P) (· = ty.model) ((modelOf ty).step s).1 := by
    intro s hs
    have hmodel := (hholds s hs).map_model_get ty
    have hvalid := (hholds s hs).get ty
    rw [MappedType.model, ← hmodel, modelOf, Job.step]
    cases hget : s.registry.get ty with
    | mk answer r =>
      rw [hget] at hvalid
      cases answer with
      | error e => exact ⟨plain_of_sameLog rfl, .done rfl⟩
      | ok found =>
        refine ⟨⟨Recorder.SameLog.asks rfl, rfl, fun _ => hvalid⟩, ?_⟩
        dsimp only [Job.settle]
        split
        · exact (steps_note _).bind (fun _ => rfl) fun _ _ => .done rfl
        · exact .done rfl
  exact Keeps.step rfl (fun s hs => (hstep s hs).1) fun s hs => (hstep s hs).2

end Site

/-! ## Journals -/

/-- A turn that a read has taken: the list that it has found before, and the counter. -/
structure Turn where
  list : List Replica
  value : UInt64

/-- What can be seen of the steps of a caller. -/
structure Journal where
  /-- Its lines in the log of the driver. -/
  lines : List Entry := []
  /-- The lists of replicas at its steps until it asks for something, the latest first. -/
  lists : List (List Replica) := []
  turns : List Turn := []

namespace Journal

/-- A step from one state to another is noted. Whoever moves the counter takes a turn, and had found the
list of the step before. -/
def add (j : Journal) (s t : Site (Recorder β)) : Journal where
  lines := j.lines ++ t.log.drop s.log.length
  lists := if j.lines = [] then s.replicas :: j.lists else j.lists
  turns := if t.counter = s.counter then j.turns
    else j.turns ++ [⟨j.lists.headD [], t.counter.getD 0⟩]

/-- What is noted of a step that asks for certain lines and takes no turn. -/
def asked (j : Journal) (es : List Entry) (list : List Replica) : Journal :=
  { j with lines := j.lines ++ es, lists := if j.lines = [] then list :: j.lists else j.lists }

/-- A condition that work which only asks for requests of a kind cannot break. -/
def Closed (P : Request → Prop) (A : Journal → Prop) : Prop :=
  ∀ j es list, A j → (∀ e ∈ es, P e.request) → A (j.asked es list)

variable {P : Request → Prop} {A I : Journal → Prop} {s t : Site (Recorder β)}

theorem add_of_log {j : Journal} {es : List Entry} (hlog : t.log = s.log ++ es)
    (hcounter : t.counter = s.counter) : j.add s t = j.asked es s.replicas := by
  rw [add, hlog, List.drop_left, if_pos hcounter, asked]

theorem add_plain (j : Journal) (h : Site.Plain P s t) :
    ∃ es, j.add s t = j.asked es s.replicas ∧ ∀ e ∈ es, P e.request := by
  obtain ⟨es, hlog, hes⟩ := h.asks
  refine ⟨es, add_of_log hlog ?_, hes⟩
  rw [Site.counter, Site.counter, h.selector]

/-- The counter stays or is moved on by one. -/
def Ticks (s t : Site (Recorder β)) : Prop :=
  t.counter = s.counter ∨ t.counter = s.counter.map (· + 1)

theorem ticks_plain (h : Site.Plain P s t) : Ticks s t := by
  refine .inl ?_
  rw [Site.counter, Site.counter, h.selector]

/-- A caller whose journal satisfies `I` all the time, and who moves the counter by one at a time. -/
def rules (I : Journal → Prop) : Job.Rules (Site (Recorder β)) Journal where
  holds := Site.Sound
  allows j s t := t.Sound ∧ Ticks s t ∧ I (j.add s t)
  note := add

theorem allows_plain {j : Journal} (hs : s.Sound) (h : Site.Plain P s t) (hI : I (j.add s t)) :
    (rules I).allows j s t :=
  ⟨h.sound hs, ticks_plain h, hI⟩

theorem keeps_weaken {I' : Journal → Prop} {Q : Journal → α → Prop} {x : Work (Recorder β) α}
    {j : Journal} (hx : Keeps (rules I) Q x j) (hI : ∀ j, I j → I' j) : Keeps (rules I') Q x j :=
  hx.weaken (fun _ => id) fun _ _ _ ⟨hsound, hticks, hj⟩ => ⟨hsound, hticks, hI _ hj⟩

/-- Work of plain steps keeps a condition that these cannot break. -/
theorem keeps_plain {Q : α → Prop} {x : Work (Recorder β) α} (hx : Steps Site.Sound (Site.Plain P) Q x)
    {j : Journal} (hj : A j) (hA : Closed P A) (hI : ∀ j, A j → I j) :
    Keeps (rules I) (fun j a => A j ∧ Q a) x j := by
  refine Steps.keeps (r := rules I) hx hj fun j s t hs h hj => ?_
  obtain ⟨es, hadd, hes⟩ := j.add_plain h
  have hjt : A (j.add s t) := hadd ▸ hA j es _ hj hes
  exact ⟨allows_plain hs h (hI _ hjt), hjt⟩

/-- A step that only reads. -/
theorem keeps_read {Q : Journal → α → Prop} {j : Journal} {k : Site (Recorder β) → Work (Recorder β) α}
    (hw : ∀ s, (k s).isWrite = false)
    (h : ∀ s : Site (Recorder β), s.Sound →
      I (j.asked [] s.replicas) ∧ Keeps (rules I) Q (k s) (j.asked [] s.replicas)) :
    Keeps (rules I) Q (.read k) j := by
  have hadd : ∀ s : Site (Recorder β), j.add s s = j.asked [] s.replicas :=
    fun s => add_of_log (List.append_nil _).symm rfl
  refine .read hw fun s hs => ⟨?_, ?_⟩
  · exact allows_plain (P := fun _ => True) hs (Site.plain_of_sameLog rfl) (hadd s ▸ (h s hs).1)
  · exact (congrArg (Keeps (rules I) Q (k s)) (hadd s)).mpr (h s hs).2

/-- A step that puts certain lines into the log. -/
theorem keeps_modify {Q : Journal → Unit → Prop} {j : Journal} {f : Site (Recorder β) → Site (Recorder β)}
    (es : List Entry) (hf : ∀ s, Site.Plain (fun _ => True) s (f s) ∧ (f s).log = s.log ++ es)
    (h : ∀ list, I (j.asked es list) ∧ Q (j.asked es list) ()) :
    Keeps (rules I) Q (Job.modify f : Work (Recorder β) Unit) j := by
  have hadd : ∀ s, j.add s (f s) = j.asked es s.replicas := by
    refine fun s => add_of_log (hf s).2 ?_
    rw [Site.counter, Site.counter, (hf s).1.selector]
  refine .step rfl (fun s hs => allows_plain hs (hf s).1 ?_) fun s _ => .done ?_
  · exact (congrArg I (hadd s)).mpr (h _).1
  · exact (congrArg (Q · ()) (hadd s)).mpr (h _).2

theorem keeps_said {Q : Journal → Unit → Prop} {j : Journal} {e : Entry}
    (h : ∀ list, I (j.asked [e] list) ∧ Q (j.asked [e] list) ()) :
    Keeps (rules I) Q (Job.modify (Site.said e) : Work (Recorder β) Unit) j :=
  keeps_modify [e] (fun s => ⟨Site.plain_said trivial s, rfl⟩) h

/-- A request is asked and then answered; `A` holds in between. -/
theorem keeps_ask {Q : Journal → α → Prop} {j : Journal} {q : Request} {answer : α → Answer}
    (x : Job β α) (hA : Closed (fun _ => False) A) (hI : ∀ j, A j → I j)
    (hasked : ∀ list, A (j.asked [.asked q] list))
    (hanswered : ∀ j a list, A j →
      I (j.asked [.answered q (answer a)] list) ∧ Q (j.asked [.answered q (answer a)] list) a) :
    Keeps (rules I) Q (Site.ofDriver (Recorder.forward q answer x)) j := by
  rw [Site.ofDriver_forward]
  refine (keeps_said (Q := fun j _ => A j) fun list => ⟨hI _ (hasked list), hasked list⟩).bind
    (fun _ => Job.isWrite_bind (Job.isWrite_zoom _) fun _ => rfl) fun j _ hj => ?_
  refine (keeps_plain (Site.steps_behind x) hj hA hI).bind (fun _ => rfl) fun j a hj => ?_
  exact (keeps_said (Q := fun j _ => Q j a) fun list => hanswered j a list hj.1).bind
    (fun _ => rfl) fun j _ hq => .done hq

end Journal

end EntityStore
