import EntityStore.Proofs.Session.Running
import EntityStore.Session.Core
import EntityStore.Session.SimulatedInterceptor

/-!
# Built-in interceptors are transparent

A `Plan` is what an interceptor of a user does with a statement: work of its own and calls of the rest
of the chain, none, one or many, each with a context that may depend on all that came before, and in
the end a result. A plan sees no more of the rest than what the calls return, and each call that it
makes runs to its end; to give up the rest while it is waiting is not part of a plan.

`Diary` is a driver in front of another one that keeps all notes to itself, and beside them the
contexts that reach the endpoint.

1. Work that knows nothing of the diary leaves it alone, and others do so too (`bearsOut_apart`). What
   a job does is told by a `Story`, and the story of a job is made of those of its parts
   (`BearsOut.bind`).
2. `Passes` is the story of a chain, link by link: what each link writes into the diary, and when. A
   chain bears it out (`bearsOut_handler`).
3. The story of the chain without its built-in interceptors is the same up to the notes
   (`passes_bare_iff`), so what it yields is the same (`yields_bare_iff`).
-/

namespace EntityStore

/-! ## The diary -/

/-- A line of a diary. -/
inductive Line where
  | noted (n : Note)
  /-- The endpoint was reached. -/
  | received (c : Context)

namespace Line

def context? : Line → Option Context
  | noted _ => none
  | received c => some c

/-- The contexts that reached the endpoint, in order. -/
def contexts (ls : List Line) : List Context := ls.filterMap context?

@[simp] theorem contexts_nil : contexts [] = [] := rfl

@[simp] theorem contexts_noted (n : Note) (ls : List Line) :
    contexts (.noted n :: ls) = contexts ls := rfl

@[simp] theorem contexts_received (c : Context) (ls : List Line) :
    contexts (.received c :: ls) = c :: contexts ls := rfl

@[simp] theorem contexts_append (ls ls' : List Line) :
    contexts (ls ++ ls') = contexts ls ++ contexts ls' := List.filterMap_append

@[simp] theorem contexts_map_received (cs : List Context) : contexts (cs.map received) = cs := by
  induction cs with
  | nil => rfl
  | cons c cs ih => rw [List.map_cons, contexts_received, ih]

end Line

/-- A driver that keeps the notes to itself. -/
structure Diary (β : Type) where
  /-- The state of the driver behind it. -/
  base : β
  /-- What was written down, the oldest line first. -/
  lines : List Line := []

namespace Diary

variable {α β γ : Type}

/-- Work of the driver behind the diary. -/
def behind (x : Job β α) : Job (Diary β) α := x.zoom (·.base) fun b d => { d with base := b }

instance [Driver β] : Driver (Diary β) where
  name d c := Driver.name d.base c
  note n d := { d with lines := d.lines ++ [.noted n] }
  elapse ms d := { d with base := Driver.elapse ms d.base }
  connect name dsn := behind (Driver.connect name dsn)
  resolve domain port := behind (Driver.resolve domain port)
  query c q o := behind (Driver.query c q o)
  exec c q o := behind (Driver.exec c q o)
  beginOn c := behind (Driver.beginOn c)
  queryIn t q := behind (Driver.queryIn t q)
  execIn t q := behind (Driver.execIn t q)
  commit t := behind (Driver.commit t)
  rollback t := behind (Driver.rollback t)
  release t := behind (Driver.release t)

end Diary

namespace Site

variable {β : Type}

/-- What is there without the diary. -/
def plain (s : Site (Diary β)) : Site β := ⟨s.registry, s.selector, s.driver.base⟩

def lines (s : Site (Diary β)) : List Line := s.driver.lines

/-- A state with a diary beside it. -/
def withLines (ls : List Line) (s : Site β) : Site (Diary β) :=
  ⟨s.registry, s.selector, ⟨s.driver, ls⟩⟩

@[simp] theorem lines_withLines (ls : List Line) (s : Site β) : (s.withLines ls).lines = ls := rfl

theorem eq_withLines_iff {t : Site (Diary β)} {p : Site β} {ls : List Line} :
    t = p.withLines ls ↔ t.plain = p ∧ t.lines = ls := by
  constructor
  · rintro rfl
    exact ⟨rfl, rfl⟩
  · rintro ⟨rfl, rfl⟩
    rfl

end Site

namespace Diary

variable {α β γ : Type} {others : Site β → Site β → Prop}

/-- Others do what they may, and nothing to the diary: a diary is about one caller. -/
def Aside (others : Site β → Site β → Prop) (s t : Site (Diary β)) : Prop :=
  others s.plain t.plain ∧ t.lines = s.lines

/-- Work that knows nothing of the diary. -/
def apart (x : Work β α) : Work (Diary β) α := x.zoom Site.plain fun p s => p.withLines s.lines

/-- Writes a line into the diary. -/
def write (l : Line) : Work (Diary β) Unit :=
  Job.modify fun s => s.plain.withLines (s.lines ++ [l])

/-- An endpoint that writes down what it receives. -/
def receiving (endpoint : Handler β) : Handler (Diary β) := fun c =>
  (write (.received c)).bind fun _ => apart (endpoint c)

/-! ## Stories -/

/-- What a job does: from a state, with a result, to a state, and what it writes into the diary
meanwhile. -/
abbrev Story (β α : Type) := Site β → α → Site β → List Line → Prop

/-- A job can end as its story says, and only so. -/
def BearsOut (others : Site β → Site β → Prop) (S : Story β α) (x : Work (Diary β) α) : Prop :=
  ∀ s a t, x.Ends (Aside others) s a t ↔ ∃ ls, S s.plain a t.plain ls ∧ t.lines = s.lines ++ ls

theorem BearsOut.congr {S S' : Story β α} {x : Work (Diary β) α} (h : BearsOut others S x)
    (hS : ∀ s a t ls, S s a t ls ↔ S' s a t ls) : BearsOut others S' x := by
  intro s a t
  simp only [h s a t, hS]

theorem bearsOut_done (a : α) :
    BearsOut others (fun s b t ls => b = a ∧ t = s ∧ ls = []) (.done a) := by
  intro s b t
  rw [Job.ends_done_iff]
  constructor
  · rintro ⟨rfl, rfl⟩
    exact ⟨[], ⟨rfl, rfl, rfl⟩, (List.append_nil _).symm⟩
  · rintro ⟨ls, ⟨rfl, hplain, rfl⟩, hlines⟩
    rw [List.append_nil] at hlines
    exact ⟨rfl, Site.eq_withLines_iff.mpr ⟨hplain, hlines⟩⟩

theorem bearsOut_write (l : Line) :
    BearsOut others (fun s (_ : Unit) t ls => t = s ∧ ls = [l]) (write l) := by
  intro s u t
  rw [write, Job.modify, Job.ends_read_iff, Job.ends_write_iff, Job.ends_done_iff,
    Site.eq_withLines_iff]
  constructor
  · rintro ⟨-, hplain, hlines⟩
    exact ⟨[l], ⟨hplain, rfl⟩, hlines⟩
  · rintro ⟨_, ⟨hplain, rfl⟩, hlines⟩
    exact ⟨rfl, hplain, hlines⟩

/-- Work that knows nothing of the diary ends as it does without one, and leaves it alone. -/
theorem bearsOut_apart (x : Work β α) :
    BearsOut others (fun s a t ls => x.Ends others s a t ∧ ls = []) (apart x) := by
  intro s a t
  have hends : (apart x).Ends (Aside others) s a t ↔
      x.Ends others s.plain a t.plain ∧ t = t.plain.withLines s.lines := by
    refine Job.ends_zoom_iff ?_ ?_ ?_ ?_
    · exact fun _ _ => rfl
    · exact fun _ => rfl
    · exact fun _ _ _ => rfl
    · intro t u
      rw [Site.eq_withLines_iff]
      exact and_congr_right fun _ => (and_iff_right rfl).symm
  rw [hends, Site.eq_withLines_iff]
  constructor
  · rintro ⟨hx, -, hlines⟩
    exact ⟨[], ⟨hx, rfl⟩, hlines.trans (List.append_nil _).symm⟩
  · rintro ⟨_, ⟨hx, rfl⟩, hlines⟩
    exact ⟨hx, rfl, hlines.trans (List.append_nil _)⟩

/-- A job after another: the stories one after the other, and the lines behind each other. -/
theorem BearsOut.bind {S : Story β α} {S' : α → Story β γ} {x : Work (Diary β) α}
    {f : α → Work (Diary β) γ} (hx : BearsOut others S x)
    (hf : ∀ a, BearsOut others (S' a) (f a)) :
    BearsOut others (fun s b t ls => ∃ a s' ls₁ ls₂, S s a s' ls₁ ∧ S' a s' b t ls₂ ∧
      ls = ls₁ ++ ls₂) (x.bind f) := by
  intro s b t
  rw [Job.ends_bind_iff]
  constructor
  · rintro ⟨a, s', hs, ht⟩
    obtain ⟨ls₁, hS, hlines⟩ := (hx s a s').mp hs
    obtain ⟨ls₂, hS', hlines'⟩ := (hf a s' b t).mp ht
    rw [hlines, List.append_assoc] at hlines'
    exact ⟨ls₁ ++ ls₂, ⟨a, s'.plain, ls₁, ls₂, hS, hS', rfl⟩, hlines'⟩
  · rintro ⟨_, ⟨a, s', ls₁, ls₂, hS, hS', rfl⟩, hlines⟩
    rw [← List.append_assoc] at hlines
    refine ⟨a, s'.withLines (s.lines ++ ls₁), ?_, ?_⟩
    · exact (hx _ _ _).mpr ⟨ls₁, hS, rfl⟩
    · exact (hf _ _ _ _).mpr ⟨ls₂, hS', hlines⟩

/-- A line that is written before a job stands before all that the job writes. -/
theorem BearsOut.write_before {S : Story β α} {x : Work (Diary β) α} (hx : BearsOut others S x)
    (l : Line) : BearsOut others (fun s a t ls => ∃ ls', S s a t ls' ∧ ls = l :: ls')
      ((write l).bind fun _ => x) := by
  refine ((bearsOut_write l).bind fun _ => hx).congr fun s a t ls => ?_
  constructor
  · rintro ⟨_, _, _, ls', ⟨rfl, rfl⟩, hS, rfl⟩
    exact ⟨ls', hS, rfl⟩
  · rintro ⟨ls', hS, rfl⟩
    exact ⟨(), s, [l], ls', ⟨rfl, rfl⟩, hS, rfl⟩

/-- A line about the result of a job stands behind all that the job writes. -/
theorem BearsOut.write_after {S : Story β α} {x : Work (Diary β) α} (hx : BearsOut others S x)
    (l : α → Line) : BearsOut others (fun s a t ls => ∃ ls', S s a t ls' ∧ ls = ls' ++ [l a])
      (x.bind fun a => (write (l a)).bind fun _ => .done a) := by
  refine (hx.bind fun a => (bearsOut_done a).write_before (l a)).congr fun s a t ls => ?_
  constructor
  · rintro ⟨_, _, ls', _, hS, ⟨_, ⟨rfl, rfl, rfl⟩, rfl⟩, rfl⟩
    exact ⟨ls', hS, rfl⟩
  · rintro ⟨ls', hS, rfl⟩
    exact ⟨a, t, ls', [l a], hS, ⟨[], ⟨rfl, rfl, rfl⟩, rfl⟩, rfl⟩

/-- A job can end with a result, leaving a state and, in the diary, contexts that reached the
endpoint. -/
def Yields (others : Site β → Site β → Prop) (x : Work (Diary β) α) (s : Site (Diary β)) (a : α)
    (p : Site β) (received : List Context) : Prop :=
  ∃ t, x.Ends (Aside others) s a t ∧ t.plain = p ∧ Line.contexts t.lines = received

theorem BearsOut.yields_iff {S : Story β α} {x : Work (Diary β) α} (h : BearsOut others S x)
    {s : Site (Diary β)} {a : α} {p : Site β} {received : List Context} :
    Yields others x s a p received ↔
      ∃ ls, S s.plain a p ls ∧ received = Line.contexts s.lines ++ Line.contexts ls := by
  constructor
  · rintro ⟨t, ht, rfl, rfl⟩
    obtain ⟨ls, hS, hlines⟩ := (h s a t).mp ht
    exact ⟨ls, hS, by rw [hlines, Line.contexts_append]⟩
  · rintro ⟨ls, hS, rfl⟩
    refine ⟨p.withLines (s.lines ++ ls), (h _ _ _).mpr ⟨ls, hS, rfl⟩, rfl, ?_⟩
    rw [Site.lines_withLines, Line.contexts_append]

/-- While others do nothing, a job yields what its run does. -/
theorem yields_eq_iff {x : Work (Diary β) α} {s : Site (Diary β)} {a : α} {p : Site β}
    {received : List Context} : Yields Eq x s a p received ↔
      (x.run s).1 = a ∧ (x.run s).2.plain = p ∧ Line.contexts (x.run s).2.lines = received := by
  have haside : Aside (Eq : Site β → Site β → Prop) = Eq := by
    funext t u
    refine propext ⟨fun ⟨hplain, hlines⟩ => ?_, fun h => h ▸ ⟨rfl, rfl⟩⟩
    exact (Site.eq_withLines_iff.mpr ⟨hplain.symm, hlines⟩).symm
  simp only [Yields, haside, Job.ends_eq_iff]
  constructor
  · rintro ⟨t, ht, rfl, rfl⟩
    rw [ht]
    exact ⟨rfl, rfl, rfl⟩
  · rintro ⟨rfl, rfl, rfl⟩
    exact ⟨_, rfl, rfl, rfl⟩

end Diary

/-! ## Plans -/

/-- What an interceptor does with a statement. -/
inductive Plan (β : Type) : Type 1 where
  /-- It ends with a result. -/
  | done (r : Except Error Output)
  /-- It does something by itself, and goes on with what comes of it. -/
  | work {γ : Type} (x : Work β γ) (next : γ → Plan β)
  /-- It calls the rest of the chain, and goes on with what that returns. -/
  | call (c : Context) (next : Except Error Output → Plan β)

namespace Plan

variable {β : Type} {others : Site β → Site β → Prop}

/-- Carries a plan out, given the rest of the chain. -/
def carryOut (rest : Handler β) : Plan β → Work β (Except Error Output)
  | done r => .done r
  | work x next => x.bind fun a => (next a).carryOut rest
  | call c next => (rest c).bind fun r => (next r).carryOut rest

/-- The same plan beside a diary of which it knows nothing. -/
def apart : Plan β → Plan (Diary β)
  | done r => .done r
  | work x next => .work (Diary.apart x) fun a => (next a).apart
  | call c next => .call c fun r => (next r).apart

/-- The story of a plan, given those of the rest of the chain. -/
inductive Unfolds (others : Site β → Site β → Prop)
    (rest : Context → Diary.Story β (Except Error Output)) :
    Plan β → Diary.Story β (Except Error Output) where
  | done (r : Except Error Output) (s : Site β) : Unfolds others rest (.done r) s r s []
  | work {γ : Type} {x : Work β γ} {next : γ → Plan β} {s s' t : Site β} {a : γ}
      {r : Except Error Output} {ls : List Line} :
      x.Ends others s a s' → Unfolds others rest (next a) s' r t ls →
        Unfolds others rest (.work x next) s r t ls
  | call {c : Context} {next : Except Error Output → Plan β} {s s' t : Site β}
      {a r : Except Error Output} {ls ls' : List Line} :
      rest c s a s' ls → Unfolds others rest (next a) s' r t ls' →
        Unfolds others rest (.call c next) s r t (ls ++ ls')

variable {rest rest' : Context → Diary.Story β (Except Error Output)}

theorem unfolds_done_iff {a r : Except Error Output} {s t : Site β} {ls : List Line} :
    (done a).Unfolds others rest s r t ls ↔ r = a ∧ t = s ∧ ls = [] := by
  constructor
  · rintro ⟨⟩
    exact ⟨rfl, rfl, rfl⟩
  · rintro ⟨rfl, rfl, rfl⟩
    exact .done r t

theorem unfolds_work_iff {γ : Type} {x : Work β γ} {next : γ → Plan β} {r : Except Error Output}
    {s t : Site β} {ls : List Line} : (work x next).Unfolds others rest s r t ls ↔
      ∃ a s', x.Ends others s a s' ∧ (next a).Unfolds others rest s' r t ls := by
  constructor
  · rintro ⟨⟩
    exact ⟨_, _, ‹_›, ‹_›⟩
  · rintro ⟨a, s', hx, h⟩
    exact .work hx h

theorem unfolds_call_iff {c : Context} {next : Except Error Output → Plan β}
    {r : Except Error Output} {s t : Site β} {ls : List Line} :
    (call c next).Unfolds others rest s r t ls ↔ ∃ a s' ls₁ ls₂,
      rest c s a s' ls₁ ∧ (next a).Unfolds others rest s' r t ls₂ ∧ ls = ls₁ ++ ls₂ := by
  constructor
  · rintro ⟨⟩
    exact ⟨_, _, _, _, ‹_›, ‹_›, rfl⟩
  · rintro ⟨a, s', ls₁, ls₂, hc, h, rfl⟩
    exact .call hc h

/-- If the rest of the chain bears its stories out, so does a plan in front of it. -/
theorem bearsOut_carryOut {handler : Handler (Diary β)}
    (hrest : ∀ c, Diary.BearsOut others (rest c) (handler c)) (p : Plan β) :
    Diary.BearsOut others (p.Unfolds others rest) (p.apart.carryOut handler) := by
  induction p with
  | done r => exact (Diary.bearsOut_done r).congr fun _ _ _ _ => unfolds_done_iff.symm
  | work x next ih =>
    refine ((Diary.bearsOut_apart x).bind ih).congr fun s r t ls => ?_
    rw [unfolds_work_iff]
    constructor
    · rintro ⟨a, s', _, ls₂, ⟨hx, rfl⟩, h, rfl⟩
      exact ⟨a, s', hx, h⟩
    · rintro ⟨a, s', hx, h⟩
      exact ⟨a, s', [], ls, ⟨hx, rfl⟩, h, rfl⟩
  | call c next ih => exact ((hrest c).bind ih).congr fun _ _ _ _ => unfolds_call_iff.symm

/-- If the stories of the rest are those of another rest up to the notes, so is that of a plan. -/
theorem unfolds_iff_of_rest (hrest : ∀ c s r t ls, rest' c s r t ls ↔
      ∃ ls', rest c s r t ls' ∧ ls = (Line.contexts ls').map .received) {p : Plan β}
    {r : Except Error Output} {s t : Site β} {ls : List Line} : p.Unfolds others rest' s r t ls ↔
      ∃ ls', p.Unfolds others rest s r t ls' ∧ ls = (Line.contexts ls').map .received := by
  induction p generalizing s ls with
  | done a =>
    simp only [unfolds_done_iff]
    constructor
    · rintro ⟨rfl, rfl, rfl⟩
      exact ⟨[], ⟨rfl, rfl, rfl⟩, rfl⟩
    · rintro ⟨_, ⟨rfl, rfl, rfl⟩, rfl⟩
      exact ⟨rfl, rfl, rfl⟩
  | work x next ih =>
    simp only [unfolds_work_iff, ih]
    constructor
    · rintro ⟨a, s', hx, ls', h, rfl⟩
      exact ⟨ls', ⟨a, s', hx, h⟩, rfl⟩
    · rintro ⟨ls', ⟨a, s', hx, h⟩, rfl⟩
      exact ⟨a, s', hx, ls', h, rfl⟩
  | call c next ih =>
    simp only [unfolds_call_iff, hrest, ih]
    constructor
    · rintro ⟨a, s', _, _, ⟨ls₁, hc, rfl⟩, ⟨ls₂, h, rfl⟩, rfl⟩
      exact ⟨ls₁ ++ ls₂, ⟨a, s', ls₁, ls₂, hc, h, rfl⟩, by simp⟩
    · rintro ⟨_, ⟨a, s', ls₁, ls₂, hc, h, rfl⟩, rfl⟩
      exact ⟨a, s', _, _, ⟨ls₁, hc, rfl⟩, ⟨ls₂, h, rfl⟩, by simp⟩

end Plan

namespace Interceptor

variable {β : Type}

/-- An interceptor with a plan for each statement. -/
def ofPlan (display : String) (plan : Context → Plan β) : Interceptor β where
  display := display
  intercept c next := (plan c).carryOut next

example (label : String) : Simulation.tracing label = ofPlan "Trace" fun c =>
    .work (Simulation.log (.entered label c.kind.name c.kind.isRead c.table c.query.sql c.options))
      fun _ => .call c fun r =>
        .work (Simulation.log (.left label (Simulation.resultText r))) fun _ => .done r := rfl

/-- The flag of a `costTime` note says whether what it is about was a success. -/
theorem ok_mem_costNote_iff (c : Context) (r : Except Error Output) :
    ("ok", "true") ∈ (costNote c r).fields ↔ ∃ output, r = .ok output := by
  cases r <;> simp [costNote, Except.toBool]

end Interceptor

/-! ## Chains -/

/-- A link of a chain: a built-in interceptor, or one of a user. -/
inductive Link (β : Type) : Type 1 where
  | builtin (b : BuiltinInterceptor)
  | user (display : String) (plan : Context → Plan β)

namespace Link

variable {β : Type}

def isUser : Link β → Bool
  | builtin _ => false
  | user _ _ => true

/-- The chain without its built-in interceptors. -/
def bare (links : List (Link β)) : List (Link β) := links.filter isUser

/-- The link in front of a diary, of which only the built-in interceptors know. -/
def interceptor [Driver β] : Link β → Interceptor (Diary β)
  | builtin b => .ofBuiltin b
  | user display plan => .ofPlan display fun c => (plan c).apart

/-- The chain of some links in front of an endpoint that writes down what it receives. -/
def handler [Driver β] (links : List (Link β)) (endpoint : Handler β) : Handler (Diary β) :=
  Interceptor.chain (links.map interceptor) (Diary.receiving endpoint)

/-! ## The story of a chain -/

section Story

open Interceptor (accessNote costNote)

variable {others : Site β → Site β → Prop} {endpoint : Handler β}

/-- The story of a chain. Whenever the chain reaches a built-in interceptor, it writes down one note,
`accessLog` before all that the rest of the chain writes, and `costTime` after that. -/
def Passes (others : Site β → Site β → Prop) (endpoint : Handler β) :
    List (Link β) → Context → Diary.Story β (Except Error Output)
  | [], c => fun s r t ls => (endpoint c).Ends others s r t ∧ ls = [.received c]
  | .builtin .accessLog :: rest, c => fun s r t ls =>
    ∃ ls', Passes others endpoint rest c s r t ls' ∧ ls = .noted (accessNote c) :: ls'
  | .builtin .costTime :: rest, c => fun s r t ls =>
    ∃ ls', Passes others endpoint rest c s r t ls' ∧ ls = ls' ++ [.noted (costNote c r)]
  | .user _ plan :: rest, c => (plan c).Unfolds others (Passes others endpoint rest)

/-- Up to the notes, the built-in interceptors leave no trace in the story of a chain. -/
theorem passes_bare_iff (links : List (Link β)) {c : Context} {s t : Site β}
    {r : Except Error Output} {ls : List Line} : Passes others endpoint (bare links) c s r t ls ↔
      ∃ ls', Passes others endpoint links c s r t ls' ∧ ls = (Line.contexts ls').map .received := by
  induction links generalizing c s r t ls with
  | nil =>
    constructor
    · rintro ⟨h, rfl⟩
      exact ⟨_, ⟨h, rfl⟩, rfl⟩
    · rintro ⟨_, ⟨h, rfl⟩, rfl⟩
      exact ⟨h, rfl⟩
  | cons link rest ih =>
    match link with
    | .builtin .accessLog =>
      refine ih.trans ?_
      constructor
      · rintro ⟨ls', h, rfl⟩
        exact ⟨_, ⟨ls', h, rfl⟩, rfl⟩
      · rintro ⟨_, ⟨ls', h, rfl⟩, rfl⟩
        exact ⟨ls', h, rfl⟩
    | .builtin .costTime =>
      refine ih.trans ?_
      constructor
      · rintro ⟨ls', h, rfl⟩
        exact ⟨_, ⟨ls', h, rfl⟩, by simp⟩
      · rintro ⟨_, ⟨ls', h, rfl⟩, rfl⟩
        exact ⟨ls', h, by simp⟩
    | .user display plan =>
      -- whatever the plan calls the rest with is told by the induction hypothesis
      change (plan c).Unfolds others (Passes others endpoint (bare rest)) s r t ls ↔
        ∃ ls', (plan c).Unfolds others (Passes others endpoint rest) s r t ls' ∧ _
      refine Plan.unfolds_iff_of_rest ?_
      intro c s r t ls
      exact ih

theorem bearsOut_receiving (c : Context) :
    Diary.BearsOut others (Passes others endpoint [] c) (Diary.receiving endpoint c) := by
  refine ((Diary.bearsOut_apart (endpoint c)).write_before (.received c)).congr fun s r t ls => ?_
  constructor
  · rintro ⟨_, ⟨h, rfl⟩, rfl⟩
    exact ⟨h, rfl⟩
  · rintro ⟨h, rfl⟩
    exact ⟨[], ⟨h, rfl⟩, rfl⟩

variable [Driver β]

/-- A chain does what its story says, and only that. -/
theorem bearsOut_handler (links : List (Link β)) (c : Context) :
    Diary.BearsOut others (Passes others endpoint links c) (handler links endpoint c) := by
  induction links generalizing c with
  | nil => exact bearsOut_receiving c
  | cons link rest ih =>
    match link with
    | .builtin .accessLog => exact (ih c).write_before (.noted (accessNote c))
    | .builtin .costTime => exact (ih c).write_after fun r => .noted (costNote c r)
    | .user _ plan => exact (plan c).bearsOut_carryOut ih

/-- What a chain yields does not depend on its built-in interceptors. -/
theorem yields_bare_iff {links : List (Link β)} {c : Context} {s : Site (Diary β)}
    {r : Except Error Output} {p : Site β} {received : List Context} :
    Diary.Yields others (handler (bare links) endpoint c) s r p received ↔
      Diary.Yields others (handler links endpoint c) s r p received := by
  rw [(bearsOut_handler (bare links) c).yields_iff, (bearsOut_handler links c).yields_iff]
  constructor
  · rintro ⟨_, hbare, rfl⟩
    obtain ⟨ls, h, rfl⟩ := (passes_bare_iff links).mp hbare
    exact ⟨ls, h, by rw [Line.contexts_map_received]⟩
  · rintro ⟨ls, h, rfl⟩
    exact ⟨_, (passes_bare_iff links).mpr ⟨ls, h, rfl⟩, by rw [Line.contexts_map_received]⟩

/-- A statement that a session sends yields the same without the built-in interceptors of the
session. -/
theorem yields_dispatchTo_iff {core : Core (Diary β)} {links : List (Link β)} {c : Context}
    {s : Site (Diary β)} {r : Except Error Output} {p : Site β} {received : List Context} :
    Diary.Yields others (Session.dispatchTo
        { core with interceptors := (bare links).map interceptor } (Diary.receiving endpoint) c)
      s r p received ↔
    Diary.Yields others (Session.dispatchTo
        { core with interceptors := links.map interceptor } (Diary.receiving endpoint) c)
      s r p received := yields_bare_iff

/-- Built-in interceptors are transparent wherever they stand in a chain, whatever plans the interceptors
of users have and whatever others do while the chain waits. A plan may call the rest of the chain any
number of times and with any contexts, but it cannot give up a call of the rest midway.

* The chain does what `Passes` says: each time it reaches a built-in interceptor that one writes down
  one note, `accessLog` before and `costTime` after what the rest of the chain writes, and the note of
  `costTime` says whether what it returns is a success.
* Without the built-in interceptors the chain can end with the same results, in the same states, and
  after the endpoint has received the same contexts in the same order. In particular this is so for the
  one run in which others do nothing. -/
theorem builtins_transparent (others : Site β → Site β → Prop) (links : List (Link β))
    (endpoint : Handler β) (c : Context) (s : Site (Diary β)) :
    (∀ r t, (handler links endpoint c).Ends (Diary.Aside others) s r t ↔
      ∃ ls, Passes others endpoint links c s.plain r t.plain ls ∧ t.lines = s.lines ++ ls) ∧
    (∀ c r, ("ok", "true") ∈ (costNote c r).fields ↔ ∃ output, r = .ok output) ∧
    (∀ r p received,
      Diary.Yields others (handler (bare links) endpoint c) s r p received ↔
        Diary.Yields others (handler links endpoint c) s r p received) ∧
    ((handler (bare links) endpoint c).run s).1 =
      ((handler links endpoint c).run s).1 ∧
    ((handler (bare links) endpoint c).run s).2.plain =
      ((handler links endpoint c).run s).2.plain ∧
    Line.contexts ((handler (bare links) endpoint c).run s).2.lines =
      Line.contexts ((handler links endpoint c).run s).2.lines := by
  refine ⟨bearsOut_handler links c s, Interceptor.ok_mem_costNote_iff, fun _ _ _ => yields_bare_iff, ?_⟩
  exact Diary.yields_eq_iff.mp (yields_bare_iff.mpr (Diary.yields_eq_iff.mpr ⟨rfl, rfl, rfl⟩))

example (display : String) (r : Except Error Output) (c : Context) (s : Site (Diary β)) :
    ((handler [.builtin .accessLog, .user display fun c => .call c fun _ => .call c .done,
        .builtin .costTime] (fun _ => .done r) c).run s).2.lines =
      s.lines ++ [.noted (accessNote c)] ++ [.received c] ++ [.noted (costNote c r)] ++
        [.received c] ++ [.noted (costNote c r)] := rfl

end Story

end Link

end EntityStore
