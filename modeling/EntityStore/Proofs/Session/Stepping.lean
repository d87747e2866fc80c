import EntityStore.Session.Driver

/-!
# Running jobs step by step

Between any two steps of a job others may change the state. A step reads the state, replaces it or
waits; to replace the state right after reading it is one step (`Job.step`).

`Job.Keeps r Q x j`: whatever others do between its steps, as long as each step finds a state in which
`r.holds`, the job `x` takes only steps that are allowed, and `Q` holds of its result. What is allowed
may depend on a journal, in which each step is noted and which now is `j`.

`Keeps` follows a job through what it is put together from (`Keeps.read`, `Keeps.bind`), into a part of
the state (`Keeps.zoom`), under a deadline (`Keeps.deadline`) and to other rules (`Keeps.weaken`). Jobs
whose steps are the same whatever stands in the journal have a simpler form (`Job.Steps`,
`Steps.keeps`).
-/

namespace EntityStore.Job

variable {σ τ α β J : Type}

/-! ## Steps -/

/-- A job that has just read the state `s`: if it replaces the state, it does so at once. -/
def settle : Job σ α → σ → Job σ α × σ
  | write t x, _ => (x, t)
  | x, s => (x, s)

/-- One step of a job: what is left of it, and the state. -/
def step : Job σ α → σ → Job σ α × σ
  | done a, s => (done a, s)
  | read k, s => (k s).settle s
  | write t x, _ => (x, t)
  | wait _ x, s => (x, s)

def isDone : Job σ α → Bool
  | done _ => true
  | _ => false

/-- Whether a job begins by replacing the state. -/
def isWrite : Job σ α → Bool
  | write _ _ => true
  | _ => false

theorem settle_of_not_isWrite {x : Job σ α} (hx : x.isWrite = false) (s : σ) : x.settle s = (x, s) := by
  cases x with
  | write => cases hx
  | _ => rfl

theorem isWrite_bind {x : Job σ α} {f : α → Job σ β} (hx : x.isWrite = false)
    (hf : ∀ a, (f a).isWrite = false) : (x.bind f).isWrite = false := by
  cases x with
  | done a => exact hf a
  | write => cases hx
  | _ => rfl

theorem isDone_bind {x : Job σ α} (f : α → Job σ β) (hx : x.isDone = false) :
    (x.bind f).isDone = false := by
  cases x with
  | done a => cases hx
  | _ => rfl

/-- What comes behind a job is not begun by its last step. -/
theorem step_bind {x : Job σ α} {f : α → Job σ β} (hx : x.isDone = false)
    (hf : ∀ a, (f a).isWrite = false) (s : σ) :
    (x.bind f).step s = ((x.step s).1.bind f, (x.step s).2) := by
  cases x with
  | done a => cases hx
  | write t x => rfl
  | wait ms x => rfl
  | read k =>
    change ((k s).bind f).settle s = (((k s).settle s).1.bind f, ((k s).settle s).2)
    cases k s with
    | done a => exact settle_of_not_isWrite (hf a) s
    | _ => rfl

theorem isWrite_deadline (x : Job σ α) (limit : Nat) : (x.deadline limit).isWrite = x.isWrite := by
  cases x with
  | wait ms x =>
    rw [deadline]
    split <;> rfl
  | _ => rfl

theorem isWrite_withDeadline {x : Job σ (Except Error α)} (hx : x.isWrite = false)
    (limit : Option Duration) : (withDeadline limit x).isWrite = false := by
  cases limit with
  | none => exact hx
  | some d =>
    refine isWrite_bind ((isWrite_deadline x _).trans hx) fun result => ?_
    cases result <;> rfl

theorem isDone_deadline {x : Job σ α} (hx : x.isDone = false) (limit : Nat) :
    (x.deadline limit).isDone = false := by
  cases x with
  | done a => cases hx
  | wait ms x =>
    rw [deadline]
    split <;> rfl
  | _ => rfl

/-- A deadline takes the steps of a job, and cuts it short at a wait. -/
theorem step_deadline {x : Job σ α} (hx : x.isDone = false) (limit : Nat) (s : σ) :
    ((x.deadline limit).step s).2 = (x.step s).2 ∧
      (((x.deadline limit).step s).1 = done none ∨
        ∃ rest, ((x.deadline limit).step s).1 = (x.step s).1.deadline rest) := by
  cases x with
  | done a => cases hx
  | write t x => exact ⟨rfl, .inr ⟨limit, rfl⟩⟩
  | wait ms x =>
    rw [deadline]
    split
    · exact ⟨rfl, .inr ⟨limit - ms, rfl⟩⟩
    · exact ⟨rfl, .inl rfl⟩
  | read k =>
    have hsettle : ((k s).deadline limit).settle s =
        (((k s).settle s).1.deadline limit, ((k s).settle s).2) := by
      cases k s with
      | wait ms x => exact settle_of_not_isWrite (isWrite_deadline (.wait ms x) limit) s
      | _ => rfl
    exact ⟨congrArg Prod.snd hsettle, .inr ⟨limit, congrArg Prod.fst hsettle⟩⟩

/-- A job that never waits. -/
def Prompt : Job σ α → Prop
  | done _ => True
  | read k => ∀ s, (k s).Prompt
  | write _ x => x.Prompt
  | wait _ _ => False

theorem prompt_modify (f : σ → σ) : (modify f).Prompt := fun _ => trivial

theorem Prompt.bind {x : Job σ α} {f : α → Job σ β} (hx : x.Prompt) (hf : ∀ a, (f a).Prompt) :
    (x.bind f).Prompt := by
  induction x with
  | done a => exact hf a
  | read k ih => exact fun s => ih s (hx s)
  | write t x ih => exact ih hx
  | wait ms x => exact hx.elim

/-- A deadline runs from the first wait on. -/
theorem Prompt.deadline_bind {x : Job σ α} (hx : x.Prompt) (f : α → Job σ β) (limit : Nat) :
    (x.bind f).deadline limit = x.bind fun a => (f a).deadline limit := by
  induction x with
  | done a => rfl
  | read k ih => exact congrArg Job.read (funext fun s => ih s (hx s))
  | write t x ih => exact congrArg (Job.write t) (ih hx)
  | wait ms x => exact hx.elim

theorem Prompt.withDeadline_bind {x : Job σ α} (hx : x.Prompt) (f : α → Job σ (Except Error β))
    (limit : Option Duration) :
    withDeadline limit (x.bind f) = x.bind fun a => withDeadline limit (f a) := by
  cases limit with
  | none => rfl
  | some d =>
    simp only [withDeadline]
    rw [hx.deadline_bind, bind_assoc]

/-- A deadline does not cut short what comes behind the last wait. -/
theorem deadline_bind_of_prompt {f : α → Job σ β} (hf : ∀ a, (f a).Prompt) (x : Job σ α) (limit : Nat) :
    (x.bind f).deadline limit =
      (x.deadline limit).bind fun
        | some a => (f a).bind fun b => .done (some b)
        | none => .done none := by
  induction x generalizing limit with
  | done a =>
    have h := (hf a).deadline_bind done limit
    rwa [bind_done] at h
  | read k ih => exact congrArg Job.read (funext fun s => ih s limit)
  | write t x ih => exact congrArg (Job.write t) (ih limit)
  | wait ms x ih =>
    change (Job.wait ms (x.bind f)).deadline limit = _
    unfold deadline
    split
    · exact congrArg (Job.wait ms) (ih (limit - ms))
    · rfl

theorem withDeadline_bind_of_prompt {f : α → Job σ (Except Error β)} (hf : ∀ a, (f a).Prompt)
    (x : Job σ α) (d : Duration) :
    withDeadline (some d) (x.bind f) =
      (x.deadline d.millisUp).bind fun
        | some a => f a
        | none => .done (.error (.connectivity (.timeout d.millis))) := by
  simp only [withDeadline]
  rw [deadline_bind_of_prompt hf, bind_assoc]
  congr 1
  funext a
  cases a with
  | none => rfl
  | some a =>
    dsimp only
    rw [bind_assoc]
    exact bind_done (f a)

/-! ## Parts of a state -/

section Zoom

variable {part : τ → σ} {put : σ → τ → τ}

theorem isWrite_zoom (x : Job σ α) : (x.zoom part put).isWrite = false := by cases x <;> rfl

theorem isDone_zoom (x : Job σ α) : (x.zoom part put).isDone = x.isDone := by cases x <;> rfl

/-- What has been seen of the state matters only to a job that replaces it at once. -/
theorem zoomSince_of_not_isWrite {x : Job σ α} (hx : x.isWrite = false) (seen : Option τ) :
    x.zoomSince part put seen = x.zoom part put := by
  cases x with
  | write => cases hx
  | _ => cases seen <;> rfl

/-- A step on a part of the state is a step on the state. -/
theorem step_zoom (hput : ∀ t, put (part t) t = t) (x : Job σ α) (t : τ) :
    (x.zoom part put).step t = ((x.step (part t)).1.zoom part put, put (x.step (part t)).2 t) := by
  cases x with
  | done a => exact Prod.ext rfl (hput t).symm
  | write s x => rfl
  | wait ms x => exact Prod.ext rfl (hput t).symm
  | read k =>
    change ((k (part t)).zoomSince part put (some t)).settle t =
      (((k (part t)).settle (part t)).1.zoom part put, put ((k (part t)).settle (part t)).2 t)
    by_cases hk : (k (part t)).isWrite
    · cases hks : k (part t) with
      | write s x => rfl
      | _ => rw [hks] at hk; cases hk
    · rw [Bool.not_eq_true] at hk
      rw [zoomSince_of_not_isWrite hk, settle_of_not_isWrite (isWrite_zoom _),
        settle_of_not_isWrite hk, hput]

theorem zoom_bind {x : Job σ α} {f : α → Job σ β} (hf : ∀ a, (f a).isWrite = false) :
    (x.bind f).zoom part put = (x.zoom part put).bind fun a => (f a).zoom part put := by
  suffices h : ∀ seen, (x.bind f).zoomSince part put seen =
      (x.zoomSince part put seen).bind fun a => (f a).zoom part put from h none
  induction x with
  | done a =>
    intro seen
    rw [done_bind, zoomSince_of_not_isWrite (hf a)]
    cases seen <;> rfl
  | read k ih =>
    intro seen
    have hread : ∀ t, ((k (part t)).bind f).zoomSince part put (some t) =
      ((k (part t)).zoomSince part put (some t)).bind fun a => (f a).zoom part put :=
        fun t => ih (part t) (some t)
    cases seen <;> exact congrArg Job.read (funext hread)
  | write s x ih =>
    intro seen
    cases seen with
    | none => exact congrArg Job.read (funext fun t => congrArg (Job.write (put s t)) (ih none))
    | some t => exact congrArg (Job.write (put s t)) (ih none)
  | wait ms x ih =>
    intro seen
    cases seen <;> exact congrArg (Job.wait ms) (ih none)

end Zoom

/-! ## What a job keeps to -/

/-- What a job may do among others: the steps that it is allowed to take from a state that `holds`, with
the journal in which they are noted. -/
structure Rules (σ J : Type) where
  holds : σ → Prop
  allows : J → σ → σ → Prop
  note : J → σ → σ → J

/-- Each step of a job is allowed, and its result satisfies `Q`. -/
inductive Keeps (r : Rules σ J) (Q : J → α → Prop) : Job σ α → J → Prop where
  | done {a : α} {j : J} : Q j a → Keeps r Q (.done a) j
  | step {x : Job σ α} {j : J} : x.isDone = false →
      (∀ s, r.holds s → r.allows j s (x.step s).2) →
      (∀ s, r.holds s → Keeps r Q (x.step s).1 (r.note j s (x.step s).2)) → Keeps r Q x j

/-- Each step of a job is one of `R`, and its result satisfies `Q`. -/
def Steps (holds : σ → Prop) (R : σ → σ → Prop) (Q : α → Prop) (x : Job σ α) : Prop :=
  Keeps ⟨holds, fun _ => R, fun _ _ _ => ()⟩ (fun _ => Q) x ()

namespace Keeps

variable {r : Rules σ J} {Q : J → α → Prop} {x : Job σ α} {j : J}

theorem of_done {a : α} (h : Keeps r Q (.done a) j) : Q j a := by
  cases h with
  | done hq => exact hq
  | step hx => cases hx

theorem next (hx : Keeps r Q x j) (hrest : x.isDone = false) {s : σ} (hs : r.holds s) :
    r.allows j s (x.step s).2 ∧ Keeps r Q (x.step s).1 (r.note j s (x.step s).2) := by
  cases hx with
  | done => cases hrest
  | step _ hallows hnext => exact ⟨hallows s hs, hnext s hs⟩

/-- A step that only reads. -/
theorem read {k : σ → Job σ α} (hk : ∀ s, (k s).isWrite = false)
    (h : ∀ s, r.holds s → r.allows j s s ∧ Keeps r Q (k s) (r.note j s s)) :
    Keeps r Q (.read k) j := by
  have hstep : ∀ s, (Job.read k).step s = (k s, s) := fun s => settle_of_not_isWrite (hk s) s
  refine .step rfl (fun s hs => ?_) fun s hs => ?_
  · rw [hstep]
    exact (h s hs).1
  · rw [hstep]
    exact (h s hs).2

theorem mono {P : J → α → Prop} (hx : Keeps r Q x j) (hQ : ∀ j a, Q j a → P j a) :
    Keeps r P x j := by
  induction hx with
  | done hq => exact .done (hQ _ _ hq)
  | step hx hstep _ ih => exact .step hx hstep ih

/-- What is kept in more states, and by stricter rules, is kept in fewer and by others. -/
theorem weaken {holds' : σ → Prop} {allows' : J → σ → σ → Prop} (hx : Keeps r Q x j)
    (hholds : ∀ s, holds' s → r.holds s)
    (hallows : ∀ j s t, r.allows j s t → allows' j s t) :
    Keeps ⟨holds', allows', r.note⟩ Q x j := by
  induction hx with
  | done hq => exact .done hq
  | step hx hstep _ ih =>
    exact .step hx (fun s hs => hallows _ s _ (hstep s (hholds s hs))) fun s hs => ih s (hholds s hs)

theorem bind {P : J → β → Prop} {f : α → Job σ β} (hx : Keeps r Q x j)
    (hf : ∀ a, (f a).isWrite = false) (hQ : ∀ j a, Q j a → Keeps r P (f a) j) :
    Keeps r P (x.bind f) j := by
  induction hx with
  | done hq => exact hQ _ _ hq
  | step hx hstep _ ih =>
    refine .step (isDone_bind f hx) ?_ ?_
    · intro s hs
      rw [step_bind hx hf]
      exact hstep s hs
    · intro s hs
      rw [step_bind hx hf]
      exact ih s hs

/-- A job under a deadline keeps to the same rules, if what is noted of its steps is enough for being cut
short. -/
theorem deadline {P : J → Option α → Prop} (hx : Keeps r Q x j) (hQ : ∀ j a, Q j a → P j (some a))
    (hcut : ∀ j s t, r.allows j s t → P (r.note j s t) none) (limit : Nat) :
    Keeps r P (x.deadline limit) j := by
  induction hx generalizing limit with
  | done hq => exact .done (hQ _ _ hq)
  | @step x j hx hstep _ ih =>
    refine .step (isDone_deadline hx limit) ?_ ?_
    · intro s hs
      rw [(step_deadline hx limit s).1]
      exact hstep s hs
    · intro s hs
      obtain ⟨hstate, hnone | ⟨rest, hrest⟩⟩ := step_deadline hx limit s
      all_goals rw [hstate]
      · rw [hnone]
        exact .done (hcut j s _ (hstep s hs))
      · rw [hrest]
        exact ih s hs rest

/-- What a job on a part of a state keeps to, as rules for the whole: the journal of the whole tells that
of the part, as long as `P` holds of it. -/
theorem zoom {part : τ → σ} {put : σ → τ → τ} {J' : Type} {r' : Rules τ J'} {P : J' → Prop}
    {proj : J' → J} (hput : ∀ t, put (part t) t = t) (hholds : ∀ t, r'.holds t → r.holds (part t))
    (hstep : ∀ j t s, P j → r'.holds t → r.allows (proj j) (part t) s → r'.allows j t (put s t) ∧
      P (r'.note j t (put s t)) ∧ proj (r'.note j t (put s t)) = r.note (proj j) (part t) s)
    {j' : J'} (hx : Keeps r Q x (proj j')) (hj : P j') :
    Keeps r' (fun j a => P j ∧ Q (proj j) a) (x.zoom part put) j' := by
  generalize hproj : proj j' = j at hx
  induction hx generalizing j' with
  | done hq => exact .done ⟨hj, hproj ▸ hq⟩
  | @step x j hx hallows _ ih =>
    subst hproj
    refine .step ((isDone_zoom _).trans hx) (fun t ht => ?_) (fun t ht => ?_)
    all_goals
      rw [step_zoom hput]
      obtain ⟨hallowed, hP, hnote⟩ := hstep j' t _ hj ht (hallows (part t) (hholds t ht))
    · exact hallowed
    · exact ih (part t) (hholds t ht) hP hnote

theorem withDeadline {Q : J → Except Error α → Prop} {x : Job σ (Except Error α)} (hx : Keeps r Q x j)
    (hcut : ∀ j s t e, r.allows j s t → Q (r.note j s t) (.error e)) (limit : Option Duration) :
    Keeps r Q (EntityStore.withDeadline limit x) j := by
  cases limit with
  | none => exact hx
  | some d =>
    refine (hx.deadline (P := fun j result =>
      ∀ e, Q j (result.getD (.error e))) (fun _ _ hq _ => hq) (fun j s t h e => hcut j s t e h) _).bind
        ?_ ?_
    · intro result
      cases result <;> rfl
    · intro j result h
      cases result with
      | none => exact .done (h _)
      | some a => exact .done (h (.connectivity (.timeout d.millis)))

end Keeps

namespace Steps

variable {holds : σ → Prop} {R : σ → σ → Prop} {Q : α → Prop} {x : Job σ α}

/-- Steps that keep what stands in the journal in order are allowed. -/
theorem keeps {r : Rules σ J} (hx : Steps r.holds R Q x) {P : J → Prop} {j : J} (hj : P j)
    (hP : ∀ j s t, r.holds s → R s t → P j → r.allows j s t ∧ P (r.note j s t)) :
    Keeps r (fun j a => P j ∧ Q a) x j := by
  unfold Steps at hx
  generalize () = u at hx
  induction hx generalizing j with
  | done hq => exact .done ⟨hj, hq⟩
  | step hx hstep _ ih =>
    refine .step hx (fun s hs => (hP j s _ hs (hstep s hs) hj).1) fun s hs => ?_
    exact ih s hs (hP j s _ hs (hstep s hs) hj).2

theorem mono {R' : σ → σ → Prop} {P : α → Prop} (hx : Steps holds R Q x)
    (hR : ∀ s t, R s t → R' s t) (hQ : ∀ a, Q a → P a) : Steps holds R' P x := by
  have h := hx.keeps (r := ⟨holds, fun _ => R', fun _ _ _ => ()⟩) (P := fun _ => True) (j := ())
    trivial fun _ s t _ hst _ => ⟨hR s t hst, trivial⟩
  exact h.mono fun _ a ha => hQ a ha.2

theorem done {a : α} (h : Q a) : Steps holds R Q (.done a) := Keeps.done h

theorem modify {f : σ → σ} (h : ∀ s, R s (f s)) : Steps holds R (fun _ => True) (Job.modify f) :=
  Keeps.step rfl (fun s _ => h s) fun _ _ => Keeps.done trivial

theorem read {k : σ → Job σ α} (hk : ∀ s, (k s).isWrite = false)
    (h : ∀ s, holds s → R s s ∧ Steps holds R Q (k s)) : Steps holds R Q (.read k) :=
  Keeps.read hk h

/-- What is done in more states is done in fewer. -/
theorem narrow {holds' : σ → Prop} (h : ∀ s, holds' s → holds s) (hx : Steps holds R Q x) :
    Steps holds' R Q x :=
  Keeps.weaken hx h fun _ _ _ => id

theorem bind {P : β → Prop} {f : α → Job σ β} (hx : Steps holds R Q x)
    (hf : ∀ a, (f a).isWrite = false) (hQ : ∀ a, Q a → Steps holds R P (f a)) :
    Steps holds R P (x.bind f) :=
  Keeps.bind hx hf fun _ a ha => hQ a ha

theorem withDeadline {x : Job σ (Except Error α)} (hx : Steps holds R (fun _ => True) x)
    (limit : Option Duration) : Steps holds R (fun _ => True) (EntityStore.withDeadline limit x) :=
  Keeps.withDeadline hx (fun _ _ _ _ _ => trivial) limit

theorem of_true (x : Job σ α) : Steps (fun _ => True) (fun _ _ => True) (fun _ => True) x := by
  -- a job that has just read may replace the state in the same step
  suffices h : Steps (fun _ => True) (fun _ _ => True) (fun _ => True) x ∧
      ∀ s, Steps (fun _ => True) (fun _ _ => True) (fun _ => True) (x.settle s).1 from h.1
  induction x with
  | done a => exact ⟨done trivial, fun _ => done trivial⟩
  | read k ih =>
    have hread : Steps (fun _ => True) (fun _ _ => True) (fun _ => True) (.read k) :=
      Keeps.step rfl (fun _ _ => trivial) fun s _ => (ih s).2 s
    exact ⟨hread, fun _ => hread⟩
  | write t x ih => exact ⟨Keeps.step rfl (fun _ _ => trivial) fun _ _ => ih.1, fun _ => ih.1⟩
  | wait ms x ih =>
    have hwait : Steps (fun _ => True) (fun _ _ => True) (fun _ => True) (.wait ms x) :=
      Keeps.step rfl (fun _ _ => trivial) fun _ _ => ih.1
    exact ⟨hwait, fun _ => hwait⟩

/-- The steps of a job on a part, as steps of the whole. -/
theorem zoom {part : τ → σ} {put : σ → τ → τ} {holds' : τ → Prop} {R' : τ → τ → Prop}
    (hput : ∀ t, put (part t) t = t) (hholds : ∀ t, holds' t → holds (part t))
    (hR : ∀ t s, R (part t) s → R' t (put s t)) (hx : Steps holds R Q x) :
    Steps holds' R' Q (x.zoom part put) := by
  unfold Steps at hx ⊢
  generalize () = u at hx
  induction hx with
  | done hq => exact .done hq
  | step hx hstep _ ih =>
    refine .step ((isDone_zoom _).trans hx) ?_ ?_
    · intro t ht
      rw [step_zoom hput]
      exact hR t _ (hstep (part t) (hholds t ht))
    · intro t ht
      rw [step_zoom hput]
      exact ih (part t) (hholds t ht)

end Steps

end EntityStore.Job
