import EntityStore.Session.Driver
import Mathlib.Logic.Relation

/-!
# Running jobs among others

While a job waits, others may change the state; `others s t` says that they may change `s` into `t`.

* `Job.Ends others x s a t`: the job `x`, begun in `s`, can end with `a` in `t`.
* `Job.Only R x s`: whatever others do, each change that the job itself makes is one of `R`.
* `Job.Always others I Q x s`: `I` holds whenever the job begins to wait, and `Q` of its result and the
  state when it ends.

`Job.untilWait` runs a job without a break up to its next wait.

`Only` is kept by everything that cuts a job short, since it speaks of each change alone. `Always` is
a precondition that is computed from the end of a job to its beginning (`always_bind`), and what it
says of the end holds of every end there is (`Always.of_ends`).
-/

namespace EntityStore.Job

variable {σ τ α β ε : Type} {others R : σ → σ → Prop} {I : σ → Prop} {Q : α → σ → Prop}

/-! ## Ends -/

/-- A job can end with a result in a state, while others do what they may. -/
inductive Ends (others : σ → σ → Prop) : Job σ α → σ → α → σ → Prop where
  | done (a : α) (s : σ) : Ends others (.done a) s a s
  | read {k : σ → Job σ α} {s t : σ} {a : α} : Ends others (k s) s a t → Ends others (.read k) s a t
  | write {k : Job σ α} {s s' t : σ} {a : α} : Ends others k s' a t → Ends others (.write s' k) s a t
  | wait {k : Job σ α} {ms : Nat} {s s' t : σ} {a : α} :
      others s s' → Ends others k s' a t → Ends others (.wait ms k) s a t

@[simp] theorem ends_done_iff {a b : α} {s t : σ} :
    (done a).Ends others s b t ↔ b = a ∧ t = s := by
  constructor
  · rintro ⟨⟩
    exact ⟨rfl, rfl⟩
  · rintro ⟨rfl, rfl⟩
    exact .done b t

@[simp] theorem ends_read_iff {k : σ → Job σ α} {a : α} {s t : σ} :
    (read k).Ends others s a t ↔ (k s).Ends others s a t := by
  constructor
  · rintro ⟨⟩
    assumption
  · exact .read

@[simp] theorem ends_write_iff {k : Job σ α} {a : α} {s s' t : σ} :
    (write s' k).Ends others s a t ↔ k.Ends others s' a t := by
  constructor
  · rintro ⟨⟩
    assumption
  · exact .write

@[simp] theorem ends_wait_iff {k : Job σ α} {ms : Nat} {a : α} {s t : σ} :
    (wait ms k).Ends others s a t ↔ ∃ s', others s s' ∧ k.Ends others s' a t := by
  constructor
  · rintro ⟨⟩
    exact ⟨_, ‹_›, ‹_›⟩
  · rintro ⟨s', ho, h⟩
    exact .wait ho h

theorem ends_bind_iff {x : Job σ α} {f : α → Job σ β} {b : β} {s t : σ} :
    (x.bind f).Ends others s b t ↔
      ∃ a s', x.Ends others s a s' ∧ (f a).Ends others s' b t := by
  constructor
  · intro h
    induction x generalizing s with
    | done a => exact ⟨a, s, .done a s, h⟩
    | read k ih =>
      obtain ⟨a, s', hx, hf⟩ := ih s (ends_read_iff.mp h)
      exact ⟨a, s', .read hx, hf⟩
    | write r k ih =>
      obtain ⟨a, s', hx, hf⟩ := ih (ends_write_iff.mp h)
      exact ⟨a, s', .write hx, hf⟩
    | wait ms k ih =>
      obtain ⟨s₁, ho, h⟩ := ends_wait_iff.mp h
      obtain ⟨a, s', hx, hf⟩ := ih h
      exact ⟨a, s', .wait ho hx, hf⟩
  · rintro ⟨a, s', hx, hf⟩
    induction hx with
    | done a s => exact hf
    | read _ ih => exact .read (ih hf)
    | write _ ih => exact .write (ih hf)
    | wait ho _ ih => exact .wait ho (ih hf)

/-- The only end of a job while others do nothing. -/
theorem ends_eq_iff {x : Job σ α} {s t : σ} {a : α} : x.Ends Eq s a t ↔ x.run s = (a, t) := by
  induction x generalizing s with
  | done b => simp [eq_comm]
  | read k ih => exact ends_read_iff.trans (ih s)
  | write r k ih => exact ends_write_iff.trans ih
  | wait ms k ih => simpa [run] using ih

/-- The end of a job while others do nothing. -/
theorem ends_run (ho : ∀ s, others s s) (x : Job σ α) (s : σ) :
    x.Ends others s (x.run s).1 (x.run s).2 := by
  induction x generalizing s with
  | done a => exact .done a s
  | read k ih => exact .read (ih s s)
  | write r k ih => exact .write (ih r)
  | wait ms k ih => exact .wait (ho s) (ih s)

/-! ## Each change of a job -/

/-- Each change that a job makes is one of `R`, whatever others do while it waits. -/
def Only (R : σ → σ → Prop) : Job σ α → σ → Prop
  | done _, _ => True
  | read k, s => (k s).Only R s
  | write t k, s => R s t ∧ k.Only R t
  | wait _ k, _ => ∀ t, k.Only R t

@[simp] theorem only_read_iff {k : σ → Job σ α} {s : σ} : (read k).Only R s ↔ (k s).Only R s := Iff.rfl

theorem Only.bind {x : Job σ α} {f : α → Job σ β} {s : σ} (hx : x.Only R s)
    (hf : ∀ a t, (f a).Only R t) : (x.bind f).Only R s := by
  induction x generalizing s with
  | done a => exact hf a s
  | read k ih => exact ih s hx
  | write t k ih => exact ⟨hx.1, ih hx.2⟩
  | wait ms k ih => exact fun t => ih (hx t)

theorem Only.deadline {x : Job σ α} {s : σ} (hx : x.Only R s) (limit : Nat) :
    (x.deadline limit).Only R s := by
  induction x generalizing s limit with
  | done a => trivial
  | read k ih => exact ih s hx limit
  | write t k ih => exact ⟨hx.1, ih hx.2 limit⟩
  | wait ms k ih =>
    unfold Job.deadline
    split
    · exact fun t => ih (hx t) (limit - ms)
    · exact fun _ => trivial

theorem only_modify {f : σ → σ} {s : σ} (h : R s (f s)) : (modify f).Only R s := ⟨h, trivial⟩

theorem Only.withDeadline {x : Job σ (Except Error α)} {s : σ} (hx : x.Only R s)
    (limit : Option Duration) : (EntityStore.withDeadline limit x).Only R s := by
  cases limit with
  | none => exact hx
  | some d =>
    refine (hx.deadline d.millisUp).bind fun r t => ?_
    cases r <;> trivial

/-- If each change of a job and each change of others is a step of a preorder, so is the whole. -/
theorem Only.of_ends (hrefl : ∀ s, R s s) (htrans : ∀ {s t u}, R s t → R t u → R s u)
    (ho : ∀ {s t}, others s t → R s t) {x : Job σ α} {s t : σ} {a : α} (hx : x.Only R s)
    (h : x.Ends others s a t) : R s t := by
  induction h with
  | done a s => exact hrefl s
  | read _ ih => exact ih hx
  | write _ ih => exact htrans hx.1 (ih hx.2)
  | wait hs _ ih => exact htrans (ho hs) (ih (hx _))

/-! ## What holds at waits and at the end -/

/-- `I` holds whenever a job begins to wait, and `Q` when it ends, while others do what they may. -/
def Always (others : σ → σ → Prop) (I : σ → Prop) (Q : α → σ → Prop) : Job σ α → σ → Prop
  | done a, s => Q a s
  | read k, s => (k s).Always others I Q s
  | write t k, _ => k.Always others I Q t
  | wait _ k, s => I s ∧ ∀ t, others s t → k.Always others I Q t

@[simp] theorem always_read_iff {k : σ → Job σ α} {s : σ} :
    (read k).Always others I Q s ↔ (k s).Always others I Q s := Iff.rfl

theorem always_bind {x : Job σ α} {f : α → Job σ β} {P : β → σ → Prop} {s : σ} :
    (x.bind f).Always others I P s ↔
      x.Always others I (fun a t => (f a).Always others I P t) s := by
  induction x generalizing s with
  | done a => exact Iff.rfl
  | read k ih => exact ih s
  | write t k ih => exact ih
  | wait ms k ih => exact and_congr_right fun _ => forall₂_congr fun _ _ => ih

theorem Always.mono {J : σ → Prop} {P : α → σ → Prop} (hI : ∀ s, I s → J s)
    (hQ : ∀ a s, Q a s → P a s) {x : Job σ α} {s : σ} (h : x.Always others I Q s) :
    x.Always others J P s := by
  induction x generalizing s with
  | done a => exact hQ a s h
  | read k ih => exact ih s h
  | write t k ih => exact ih h
  | wait ms k ih => exact ⟨hI s h.1, fun t ht => ih (h.2 t ht)⟩

theorem Always.of_ends {x : Job σ α} {s t : σ} {a : α} (hx : x.Always others I Q s)
    (h : x.Ends others s a t) : Q a t := by
  induction h with
  | done a s => exact hx
  | read _ ih => exact ih hx
  | write _ ih => exact ih hx
  | wait hs _ ih => exact ih (hx.2 _ hs)

theorem Always.deadline {P : Option α → σ → Prop} {x : Job σ α} {s : σ}
    (hx : x.Always others I (fun a t => P (some a) t) s)
    (hn : ∀ s t, I s → others s t → P none t) (limit : Nat) :
    (x.deadline limit).Always others I P s := by
  induction x generalizing s limit with
  | done a => exact hx
  | read k ih => exact ih s hx limit
  | write t k ih => exact ih hx limit
  | wait ms k ih =>
    unfold Job.deadline
    split
    · exact ⟨hx.1, fun t ht => ih (hx.2 t ht) (limit - ms)⟩
    · exact ⟨hx.1, fun t ht => hn s t hx.1 ht⟩

/-! ## From wait to wait -/

/-- Runs a job up to its next wait or its end: its result, or what is left of it then. -/
def untilWait : Job σ α → σ → (α ⊕ Job σ α) × σ
  | done a, s => (.inl a, s)
  | read k, s => (k s).untilWait s
  | write t k, _ => k.untilWait t
  | wait _ k, s => (.inr k, s)

theorem Always.untilWait {x : Job σ α} {s t : σ} {r : α ⊕ Job σ α}
    (hx : x.Always others I Q s) (h : x.untilWait s = (r, t)) :
    (∀ a, r = .inl a → Q a t) ∧
      ∀ rest, r = .inr rest → I t ∧ ∀ u, others t u → rest.Always others I Q u := by
  induction x generalizing s with
  | done a =>
    cases h
    refine ⟨?_, nofun⟩
    rintro a ⟨⟩
    exact hx
  | read k ih => exact ih s hx h
  | write u k ih => exact ih hx h
  | wait ms k ih =>
    cases h
    refine ⟨nofun, ?_⟩
    rintro rest ⟨⟩
    exact hx

theorem Only.untilWait (hrefl : ∀ s, R s s) (htrans : ∀ {s t u}, R s t → R t u → R s u)
    {x : Job σ α} {s t : σ} {r : α ⊕ Job σ α} (hx : x.Only R s) (h : x.untilWait s = (r, t)) :
    R s t ∧ ∀ rest, r = .inr rest → ∀ u, rest.Only R u := by
  induction x generalizing s with
  | done a =>
    cases h
    exact ⟨hrefl _, nofun⟩
  | read k ih => exact ih s hx h
  | write u k ih =>
    obtain ⟨hr, hrest⟩ := ih hx.2 h
    exact ⟨htrans hx.1 hr, hrest⟩
  | wait ms k ih =>
    cases h
    refine ⟨hrefl _, ?_⟩
    rintro rest ⟨⟩
    exact hx

/-! ## Parts of a state -/

section Zoom

variable {part : τ → σ} {put : σ → τ → τ} {R' : τ → τ → Prop} {others' : τ → τ → Prop}
  {K : τ → Prop}

/-- The ends of a job on a part are its ends on the part alone, with the rest as it was. -/
theorem ends_zoom_iff (hpart : ∀ s t, part (put s t) = s) (hput : ∀ t, put (part t) t = t)
    (hputput : ∀ s s' t, put s (put s' t) = put s t)
    (ho : ∀ t u, others' t u ↔ others (part t) (part u) ∧ u = put (part u) t) {x : Job σ α}
    {t u : τ} {a : α} : (x.zoom part put).Ends others' t a u ↔
      x.Ends others (part t) a (part u) ∧ u = put (part u) t := by
  suffices h : ∀ seen : Option τ, (∀ v ∈ seen, v = t) →
      ((x.zoomSince part put seen).Ends others' t a u ↔
        x.Ends others (part t) a (part u) ∧ u = put (part u) t) from h none nofun
  induction x generalizing t with
  | done b =>
    intro _ _
    simp only [zoomSince, ends_done_iff]
    constructor
    · rintro ⟨rfl, rfl⟩
      exact ⟨⟨rfl, rfl⟩, (hput u).symm⟩
    · rintro ⟨⟨rfl, hu⟩, hrest⟩
      exact ⟨rfl, by rw [hrest, hu, hput]⟩
  | read k ih =>
    intro _ _
    simp only [zoomSince, ends_read_iff]
    exact ih (part t) (some t) fun v hv => (Option.some.inj hv).symm
  | write s k ih =>
    have hk : (k.zoomSince part put none).Ends others' (put s t) a u ↔
        k.Ends others s a (part u) ∧ u = put (part u) t := by
      rw [ih none nofun, hpart, hputput]
    rintro (_ | v) hseen
    · simpa [zoomSince] using hk
    · obtain rfl := hseen v rfl
      simpa [zoomSince] using hk
  | wait ms k ih =>
    intro _ _
    simp only [zoomSince, ends_wait_iff]
    constructor
    · rintro ⟨t', ht', h⟩
      obtain ⟨hs, hrest⟩ := (ho t t').mp ht'
      obtain ⟨hk, hu⟩ := (ih none nofun).mp h
      rw [hrest, hputput] at hu
      exact ⟨⟨part t', hs, hk⟩, hu⟩
    · rintro ⟨⟨s', hs, hk⟩, hu⟩
      have ht' : others' t (put s' t) := (ho _ _).mpr (by rw [hpart]; exact ⟨hs, rfl⟩)
      refine ⟨put s' t, ht', (ih none nofun).mpr ?_⟩
      rw [hpart, hputput]
      exact ⟨hk, hu⟩

theorem only_true (x : Job σ α) (s : σ) : x.Only (fun _ _ => True) s := by
  induction x generalizing s with
  | done a => trivial
  | read k ih => exact ih s s
  | write t k ih => exact ⟨trivial, ih t⟩
  | wait ms k ih => exact ih

theorem always_true (others : σ → σ → Prop) (x : Job σ α) (s : σ) :
    x.Always others (fun _ => True) (fun _ _ => True) s := by
  induction x generalizing s with
  | done a => trivial
  | read k ih => exact ih s s
  | write t k ih => exact ih t
  | wait ms k ih => exact ⟨trivial, fun t _ => ih t⟩

/-- The changes of a job on a part, as changes of the whole. -/
theorem Only.zoom (hpart : ∀ s t, part (put s t) = s)
    (hR : ∀ s t, R (part t) s → R' t (put s t)) {x : Job σ α} {t : τ} (hx : x.Only R (part t)) :
    (x.zoom part put).Only R' t := by
  suffices h : ∀ seen : Option τ, (∀ u ∈ seen, u = t) → (x.zoomSince part put seen).Only R' t from
    h none nofun
  induction x generalizing t with
  | done a => exact fun _ _ => trivial
  | read k ih => exact fun _ _ => ih (part t) hx (some t) fun u hu => (Option.some.inj hu).symm
  | write s k ih =>
    have hk : (k.zoomSince part put none).Only R' (put s t) :=
      ih ((hpart s t).symm ▸ hx.2) none nofun
    rintro (_ | u) hseen
    · exact ⟨hR s t hx.1, hk⟩
    · obtain rfl := hseen u rfl
      exact ⟨hR s u hx.1, hk⟩
  | wait ms k ih => exact fun _ _ t => ih (hx (part t)) none nofun

/-- What holds of the part during a job on it, together with what neither the job nor others touch. -/
theorem Always.zoom (hpart : ∀ s t, part (put s t) = s) (hput : ∀ s t, K t → K (put s t))
    (ho : ∀ t u, others' t u → others (part t) (part u) ∧ (K t → K u)) {x : Job σ α} {t : τ}
    (hx : x.Always others I Q (part t)) (ht : K t) :
    (x.zoom part put).Always others' (fun t => I (part t) ∧ K t) (fun a t => Q a (part t) ∧ K t) t := by
  suffices h : ∀ seen : Option τ, (∀ u ∈ seen, u = t) → (x.zoomSince part put seen).Always others'
      (fun t => I (part t) ∧ K t) (fun a t => Q a (part t) ∧ K t) t from h none nofun
  induction x generalizing t with
  | done a => exact fun _ _ => ⟨hx, ht⟩
  | read k ih => exact fun _ _ => ih (part t) hx ht (some t) fun u hu => (Option.some.inj hu).symm
  | write s k ih =>
    have hk : (k.zoomSince part put none).Always others' (fun t => I (part t) ∧ K t)
        (fun a t => Q a (part t) ∧ K t) (put s t) :=
      ih ((hpart s t).symm ▸ hx) (hput s t ht) none nofun
    rintro (_ | u) hseen
    · exact hk
    · obtain rfl := hseen u rfl
      exact hk
  | wait ms k ih =>
    refine fun _ _ => ⟨⟨hx.1, ht⟩, fun u hu => ?_⟩
    obtain ⟨hs, hK⟩ := ho t u hu
    exact ih (hx.2 (part u) hs) (hK ht) none nofun

end Zoom

end EntityStore.Job
