import EntityStore.Proofs.Session.Stepping
import Mathlib.Data.List.Forall2

/-!
# Jobs at a time

Jobs that run at a time take their steps in turn, and each sees the steps of the others as steps of
others. So each keeps to its rules in a journal of its own, and the journal of all of them is put
together from these (`Job.Merges`). Two jobs end with both results, or with the failure of one of them
(`Keeps.beside`); a list of jobs with all results in the order of the list, whichever of them ends
first, or with the failure of one of them (`Keeps.together`). A job that has failed may leave others
unfinished.

`x.Leads holds note j a j'`: the job `x` can end with `a`, while others do what they like as long as
each step finds a state that `holds`; its steps are noted from `j` on, which becomes `j'`. What a job
keeps to is true of all its ends (`Keeps.of_leads`), and it has an end (`Keeps.exists_leads`).
-/

namespace EntityStore.Job

variable {σ α ε J : Type}

/-! ## Steps of jobs at a time -/

/-- Whether a job begins by waiting. -/
def isWait : Job σ α → Bool
  | wait _ _ => true
  | _ => false

section

variable {eager : Bool} {left : Job σ (Except ε (List α))} {right : Job σ (Except ε α)}

theorem isWrite_besideWaiting {t : Nat} {resume : Job σ (Except ε α) → Job σ (Except ε (List α))}
    (hright : right.isWrite = false) : (besideWaiting eager t left resume right).isWrite = false := by
  cases right with
  | done r =>
    unfold besideWaiting
    split <;> rfl
  | read k => rfl
  | write => cases hright
  | wait u k =>
    unfold besideWaiting
    split <;> rfl

theorem isWrite_beside (hleft : left.isWrite = false) (hright : right.isWrite = false) :
    (beside eager left right).isWrite = false := by
  cases left with
  | done as =>
    cases as with
    | ok as => exact isWrite_bind hright fun _ => rfl
    | error e => rfl
  | read k => rfl
  | write => cases hleft
  | wait t k => exact isWrite_besideWaiting hright

theorem isWrite_together {jobs : List (Job σ (Except ε α))} (hjobs : ∀ x ∈ jobs, x.isWrite = false) :
    (together jobs).isWrite = false := by
  unfold together
  generalize decide (jobs.length ≤ eagerLimit) = eager
  refine List.foldlRecOn jobs (beside eager) (motive := fun x => x.isWrite = false) ?_ ?_
  · rfl
  · exact fun x hx y hy => isWrite_beside hx (hjobs y hy)

/-- While the left job waits, the right one takes its steps up to its next wait. -/
theorem step_besideWaiting {t : Nat} {resume : Job σ (Except ε α) → Job σ (Except ε (List α))}
    (hdone : right.isDone = false) (hwait : right.isWait = false) (s : σ) :
    (besideWaiting eager t left resume right).step s =
      (besideWaiting eager t left resume (right.step s).1, (right.step s).2) := by
  cases right with
  | done => cases hdone
  | wait => cases hwait
  | write u k => rfl
  | read k =>
    change (besideWaiting eager t left resume (k s)).settle s =
      (besideWaiting eager t left resume ((k s).settle s).1, ((k s).settle s).2)
    cases hk : k s with
    | write u k => rfl
    | _ => exact settle_of_not_isWrite (isWrite_besideWaiting rfl) s

/-- The left job takes its steps up to its next wait, while the right one is not in the middle of a
step. -/
theorem step_beside (hdone : left.isDone = false) (hwait : left.isWait = false)
    (hright : right.isWrite = false) (s : σ) :
    (beside eager left right).step s = (beside eager (left.step s).1 right, (left.step s).2) := by
  cases left with
  | done => cases hdone
  | wait => cases hwait
  | write u k => rfl
  | read k =>
    change (beside eager (k s) right).settle s =
      (beside eager ((k s).settle s).1 right, ((k s).settle s).2)
    cases hk : k s with
    | write u k => rfl
    | _ => exact settle_of_not_isWrite (isWrite_beside rfl hright) s

end

/-! ## Two jobs at a time -/

/-- How the journal of two jobs is put together from their own: a step that one of them may take may be
taken, and is noted in both. -/
structure Merges (r : Rules σ J) (M : J → J → J → Prop) : Prop where
  left {j jl jr : J} {s t : σ} : M j jl jr → r.allows jl s t →
    r.allows j s t ∧ M (r.note j s t) (r.note jl s t) jr
  right {j jl jr : J} {s t : σ} : M j jl jr → r.allows jr s t →
    r.allows j s t ∧ M (r.note j s t) jl (r.note jr s t)

/-- How two jobs end: with both results, or with the failure of one. -/
inductive Collected (M : J → J → J → Prop) (Ql : J → Except ε (List α) → Prop)
    (Qr : J → Except ε α → Prop) (j : J) : Except ε (List α) → Prop where
  | both {jl jr : J} {as : List α} {a : α} : M j jl jr → Ql jl (.ok as) → Qr jr (.ok a) →
      Collected M Ql Qr j (.ok (as ++ [a]))
  | left {jl jr : J} {e : ε} : M j jl jr → Ql jl (.error e) → Collected M Ql Qr j (.error e)
  | right {jl jr : J} {e : ε} : M j jl jr → Qr jr (.error e) → Collected M Ql Qr j (.error e)

/-- Two jobs that have ended. -/
theorem collected_collect {M : J → J → J → Prop} {Ql : J → Except ε (List α) → Prop}
    {Qr : J → Except ε α → Prop} {j jl jr : J} (hj : M j jl jr) {as : Except ε (List α)}
    {a : Except ε α} (hl : Ql jl as) (hr : Qr jr a) : Collected M Ql Qr j (collect as a) := by
  cases as with
  | error e => exact .left hj hl
  | ok as =>
    cases a with
    | error e => exact .right hj hr
    | ok a => exact .both hj hl hr

namespace Keeps

variable {r : Rules σ J} {M : J → J → J → Prop} {jl jr j : J}

/-- What a job keeps to in its own journal it keeps to in a larger one. -/
theorem within {T : J → J → Prop} {Q : J → α → Prop} {x : Job σ α} {j' : J}
    (hT : ∀ j j' s t, T j j' → r.allows j' s t → r.allows j s t ∧ T (r.note j s t) (r.note j' s t))
    (hx : Keeps r Q x j') (hj : T j j') : Keeps r (fun j a => ∃ j', T j j' ∧ Q j' a) x j := by
  induction hx generalizing j with
  | done hq => exact .done ⟨_, hj, hq⟩
  | step hx hallows _ ih =>
    exact .step hx (fun s hs => (hT _ _ s _ hj (hallows s hs)).1) fun s hs =>
      ih s hs (hT _ _ s _ hj (hallows s hs)).2

/-- It does not matter for how long a job waits. -/
theorem wait_of_wait {Q : J → α → Prop} {x : Job σ α} {t : Nat} (hx : Keeps r Q (.wait t x) j)
    (u : Nat) : Keeps r Q (.wait u x) j :=
  .step rfl (fun _ hs => (hx.next rfl hs).1) fun _ hs => (hx.next rfl hs).2

variable {Ql : J → Except ε (List α) → Prop} {Qr : J → Except ε α → Prop} {eager : Bool}
  {left : Job σ (Except ε (List α))} {right : Job σ (Except ε α)}

/-- What two jobs keep to while the left one waits, if they keep to it once that goes on. -/
theorem besideWaiting (hM : Merges r M) {t : Nat} (hleft : Keeps r Ql (.wait t left) jl)
    {resume : Job σ (Except ε α) → Job σ (Except ε (List α))}
    (hresume : ∀ {s j right jr}, r.holds s → right.isWrite = false → Keeps r Qr right jr →
      M j (r.note jl s s) jr → Keeps r (Collected M Ql Qr) (resume right) j)
    (hright : Keeps r Qr right jr) (hj : M j jl jr) :
    Keeps r (Collected M Ql Qr) (Job.besideWaiting eager t left resume right) j := by
  induction hright generalizing t j with
  | @done b jr hq =>
    -- the left job goes on by itself, unless the failure of the right one ends both
    have hboth : Keeps r (Collected M Ql Qr)
        ((Job.wait t left).bind fun as => .done (collect as b)) j := by
      refine (hleft.within (T := fun j jl => M j jl jr) (fun _ _ _ _ => hM.left) hj).bind
        (fun _ => rfl) fun j as h => ?_
      obtain ⟨jl, hj, hql⟩ := h
      exact .done (collected_collect hj hql hq)
    unfold Job.besideWaiting
    split
    · exact .done (.right hj hq)
    · exact hboth
  | @step right jr hdone hallows hnext ih =>
    cases hwait : right.isWait with
    | false =>
      refine .step ?_ (fun s hs => ?_) fun s hs => ?_
      · cases right with
        | done => cases hdone
        | wait => cases hwait
        | _ => rfl
      all_goals rw [step_besideWaiting hdone hwait]
      · exact (hM.right hj (hallows s hs)).1
      · exact ih s hs hleft (hM.right hj (hallows s hs)).2
    | true =>
      cases right with
      | done => cases hdone
      | read => cases hwait
      | write => cases hwait
      | wait u k =>
        -- whichever wait is over first is the step of its job, and leaves the other job waiting
        unfold Job.besideWaiting
        split
        · refine .step rfl (fun s hs => ?_) fun s hs => ?_
          · exact (hM.left hj (hleft.next rfl hs).1).1
          · refine hresume hs rfl ?_ (hM.left hj (hleft.next rfl hs).1).2
            exact .step rfl hallows hnext
        · refine .step rfl (fun s hs => ?_) fun s hs => ?_
          · exact (hM.right hj (hallows s hs)).1
          · exact ih s hs (hleft.wait_of_wait _) (hM.right hj (hallows s hs)).2

/-- Two jobs at a time. -/
theorem beside (hM : Merges r M) (hleft : Keeps r Ql left jl) (hright : Keeps r Qr right jr)
    (hwrite : right.isWrite = false) (hj : M j jl jr) :
    Keeps r (Collected M Ql Qr) (Job.beside eager left right) j := by
  induction hleft generalizing j jr right with
  | @done as jl hq =>
    cases as with
    | error e => exact .done (.left hj hq)
    | ok as =>
      refine (hright.within (T := fun j jr => M j jl jr) (fun _ _ _ _ => hM.right) hj).bind
        (fun _ => rfl) fun j b h => ?_
      obtain ⟨jr, hj, hqr⟩ := h
      exact .done (collected_collect hj hq hqr)
  | @step left jl hdone hallows hnext ih =>
    cases hwait : left.isWait with
    | false =>
      refine .step ?_ (fun s hs => ?_) fun s hs => ?_
      · cases left with
        | done => cases hdone
        | wait => cases hwait
        | _ => rfl
      all_goals rw [step_beside hdone hwait hwrite]
      · exact (hM.left hj (hallows s hs)).1
      · exact ih s hs hright hwrite (hM.left hj (hallows s hs)).2
    | true =>
      cases left with
      | done => cases hdone
      | read => cases hwait
      | write => cases hwait
      | wait t k =>
        exact besideWaiting hM (.step rfl hallows hnext)
          (fun hs hw hr hj => ih _ hs hr hw hj) hright hj

end Keeps

/-! ## A list of jobs at a time -/

/-- How a list of jobs ends: each with a result and lines of its own, or with the failure of one of
them. -/
inductive Gathered {ι ℓ : Type} (Q : ι → List ℓ → Except ε α → Prop) (ps : List ι) (lines : List ℓ) :
    Except ε (List α) → Prop where
  | all {ends : List (List ℓ × α)} : List.Forall₂ (fun p e => Q p e.1 (.ok e.2)) ps ends →
      lines.Perm (ends.flatMap (·.1)) → Gathered Q ps lines (.ok (ends.map (·.2)))
  | one {p : ι} {own rest : List ℓ} {e : ε} : p ∈ ps → Q p own (.error e) → lines.Perm (own ++ rest) →
      Gathered Q ps lines (.error e)

section

variable {ι ℓ : Type} {Q : ι → List ℓ → Except ε α → Prop} {ps : List ι} {p : ι}

/-- One job more beside those before it. -/
theorem Gathered.concat {A : List ℓ → Prop} {lines : List ℓ} {result : Except ε (List α)}
    (h : Collected (fun j jl jr => j.Perm (jl ++ jr) ∧ A j)
      (fun lines result => A lines ∧ Gathered Q ps lines result) (Q p) lines result) :
    A lines ∧ Gathered Q (ps ++ [p]) lines result := by
  cases h with
  | @both jl jr as a hlines hall hp =>
    cases hall.2 with
    | @all ends hends hjl =>
      have hconcat : Gathered Q (ps ++ [p]) lines (.ok ((ends ++ [(jr, a)]).map (·.2))) := by
        refine .all (List.rel_append hends (.cons hp .nil)) ?_
        rw [List.flatMap_append, List.flatMap_singleton]
        exact hlines.1.trans (hjl.append_right jr)
      rw [List.map_append] at hconcat
      exact ⟨hlines.2, hconcat⟩
  | @left jl jr e hlines hfailed =>
    cases hfailed.2 with
    | @one q own rest e hq hown hjl =>
      have hmixed : lines.Perm (own ++ (rest ++ jr)) := by
        rw [← List.append_assoc]
        exact hlines.1.trans (hjl.append_right jr)
      exact ⟨hlines.2, .one (List.mem_append_left _ hq) hown hmixed⟩
  | right hlines hfailed =>
    exact ⟨hlines.2, .one (List.mem_append_right _ (List.mem_singleton.2 rfl)) hfailed
      (hlines.1.trans List.perm_append_comm)⟩

/-- A list of jobs at a time, whose lines are put together in any order. -/
theorem Keeps.together {r : Rules σ (List ℓ)} {A : List ℓ → Prop}
    (hM : Merges r fun j jl jr => j.Perm (jl ++ jr) ∧ A j) (hA : A [])
    {job : ι → Job σ (Except ε α)} (ps : List ι)
    (hjobs : ∀ p ∈ ps, (job p).isWrite = false ∧ Keeps r (Q p) (job p) []) :
    Keeps r (fun lines result => A lines ∧ Gathered Q ps lines result)
      (Job.together (ps.map job)) [] := by
  -- the jobs run beside those in front of them, from left to right
  suffices h : ∀ (eager : Bool) (before after : List ι) (x : Job σ (Except ε (List α))),
      (∀ p ∈ after, (job p).isWrite = false ∧ Keeps r (Q p) (job p) []) →
      Keeps r (fun lines result => A lines ∧ Gathered Q before lines result) x [] →
        Keeps r (fun lines result => A lines ∧ Gathered Q (before ++ after) lines result)
          ((after.map job).foldl (Job.beside eager) x) [] from
    h _ [] ps _ hjobs (.done ⟨hA, Gathered.all List.Forall₂.nil .nil⟩)
  intro eager before after
  induction after generalizing before with
  | nil =>
    intro x _ hx
    rwa [List.append_nil]
  | cons p after ih =>
    intro x hjobs hx
    obtain ⟨hwrite, hp⟩ := hjobs p List.mem_cons_self
    rw [List.append_cons]
    refine ih (before ++ [p]) _ (fun q hq => hjobs q (List.mem_cons_of_mem _ hq)) ?_
    exact (Keeps.beside hM hx hp hwrite ⟨.nil, hA⟩).mono fun _ _ => Gathered.concat

end

/-! ## Ends among others -/

/-- A job can end with a result, while others do what they like between its steps. -/
inductive Leads (holds : σ → Prop) (note : J → σ → σ → J) : Job σ α → J → α → J → Prop where
  | done (a : α) (j : J) : Leads holds note (.done a) j a j
  | step {x : Job σ α} {s : σ} {j j' : J} {a : α} : x.isDone = false → holds s →
      Leads holds note (x.step s).1 (note j s (x.step s).2) a j' → Leads holds note x j a j'

theorem run_step (x : Job σ α) (s : σ) : (x.step s).1.run (x.step s).2 = x.run s := by
  cases x with
  | read k =>
    change ((k s).settle s).1.run ((k s).settle s).2 = (k s).run s
    cases k s <;> rfl
  | _ => rfl

namespace Keeps

variable {r : Rules σ J} {Q : J → α → Prop} {x : Job σ α} {j j' : J}

theorem of_leads {a : α} (hx : Keeps r Q x j) (h : x.Leads r.holds r.note j a j') : Q j' a := by
  induction h with
  | done a j => exact hx.of_done
  | step hdone hs _ ih => exact ih (hx.next hdone hs).2

/-- A job comes to its end while others do nothing. -/
theorem exists_leads (hx : Keeps r Q x j) (hr : ∀ j s t, r.allows j s t → r.holds t) {s : σ}
    (hs : r.holds s) : ∃ j', x.Leads r.holds r.note j (x.run s).1 j' := by
  induction hx generalizing s with
  | @done a j _ => exact ⟨j, .done a j⟩
  | @step x j hdone hallows _ ih =>
    obtain ⟨j', hj'⟩ := ih s hs (hr j s _ (hallows s hs))
    rw [run_step] at hj'
    exact ⟨j', .step hdone hs hj'⟩

end Keeps

end EntityStore.Job
