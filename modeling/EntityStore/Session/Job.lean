/-!
# Jobs

A job works on a shared state and may wait in between: it reads the state, replaces it, waits for some
milliseconds, or is done. While it waits, others may change the state.

* `Job.deadline` gives up a job that is still waiting when its time is over; a job that ends at that
  very moment still counts.
* `Job.beside` runs two jobs at a time. Both run as far as they can before time goes on; whenever both
  can run, the left one goes first.
* `Job.together` runs a list of jobs at a time and collects their results in the order of the list.
-/

namespace EntityStore

/-- Work on a state `σ` with a result `α`. -/
inductive Job (σ α : Type) where
  /-- The job has ended. -/
  | done (a : α)
  /-- The job reads the state. -/
  | read (next : σ → Job σ α)
  /-- The job replaces the state. -/
  | write (s : σ) (next : Job σ α)
  /-- The job waits for a number of milliseconds. -/
  | wait (ms : Nat) (next : Job σ α)

namespace Job

variable {σ τ α β ε : Type}

/-- A job that goes on with the result of another. -/
def bind (f : α → Job σ β) : Job σ α → Job σ β
  | done a => f a
  | read k => read fun s => (k s).bind f
  | write s k => write s (k.bind f)
  | wait t k => wait t (k.bind f)

instance : Monad (Job σ) where
  pure := done
  bind x f := x.bind f

/-- The state. -/
def get : Job σ σ := read done

/-- Changes the state. -/
def modify (f : σ → σ) : Job σ Unit := read fun s => write (f s) (done ())

/-- Waits for a number of milliseconds. -/
def sleep (ms : Nat) : Job σ Unit := wait ms (done ())

@[simp] theorem pure_eq (a : α) : (pure a : Job σ α) = done a := rfl

@[simp] theorem bind_eq (x : Job σ α) (f : α → Job σ β) : x >>= f = x.bind f := rfl

@[simp] theorem done_bind (a : α) (f : α → Job σ β) : (done a : Job σ α).bind f = f a := rfl

theorem bind_done (x : Job σ α) : x.bind done = x := by
  induction x with
  | done a => rfl
  | read k ih => simp [bind, ih]
  | write s k ih => simp [bind, ih]
  | wait t k ih => simp [bind, ih]

theorem bind_assoc {γ : Type} (x : Job σ α) (f : α → Job σ β) (g : β → Job σ γ) :
    (x.bind f).bind g = x.bind fun a => (f a).bind g := by
  induction x with
  | done a => rfl
  | read k ih => simp [bind, ih]
  | write s k ih => simp [bind, ih]
  | wait t k ih => simp [bind, ih]

/-- Work on a part of a larger state, after the state in `seen` has just been read. -/
def zoomSince (part : τ → σ) (put : σ → τ → τ) : Job σ α → (seen : Option τ) → Job τ α
  | done a, _ => done a
  | read k, _ => read fun t => (k (part t)).zoomSince part put (some t)
  | write s k, some t => write (put s t) (k.zoomSince part put none)
  | write s k, none => read fun t => write (put s t) (k.zoomSince part put none)
  | wait ms k, _ => wait ms (k.zoomSince part put none)

/-- Work on a part of a larger state. To read the part and write it at once is to read the whole and
write it at once. -/
def zoom (part : τ → σ) (put : σ → τ → τ) (x : Job σ α) : Job τ α := x.zoomSince part put none

/-! ## Deadlines -/

/-- The result of a job, unless it is still waiting after `limit` milliseconds. -/
def deadline (limit : Nat) : Job σ α → Job σ (Option α)
  | done a => done (some a)
  | read k => read fun s => (k s).deadline limit
  | write s k => write s (k.deadline limit)
  | wait t k =>
    if t ≤ limit then wait t (k.deadline (limit - t)) else wait limit (done none)

/-! ## Several jobs at a time -/

/-- Puts a result behind those collected so far. -/
def collect : Except ε (List α) → Except ε α → Except ε (List α)
  | .ok as, .ok a => .ok (as ++ [a])
  | .error e, _ => .error e
  | _, .error e => .error e

/-- The right job of two, while the left one still waits for `t` milliseconds before it goes on as
`left`. `resume` runs both once the left one can go on. A failure of the right job ends both at once
if `eager`, and else waits for the left one. -/
def besideWaiting (eager : Bool) (t : Nat) (left : Job σ (Except ε (List α)))
    (resume : Job σ (Except ε α) → Job σ (Except ε (List α))) :
    Job σ (Except ε α) → Job σ (Except ε (List α))
  | done r =>
    match eager, r with
    | true, .error e => done (.error e)
    | _, r => (wait t left).bind fun as => done (collect as r)
  | read k => read fun s => besideWaiting eager t left resume (k s)
  | write s k => write s (besideWaiting eager t left resume k)
  | wait u k =>
    if t ≤ u then wait t (resume (wait (u - t) k))
    else wait u (besideWaiting eager (t - u) left resume k)

/-- Two jobs at a time. A failure of the left one ends both. -/
def beside (eager : Bool) : Job σ (Except ε (List α)) → Job σ (Except ε α) →
    Job σ (Except ε (List α))
  | done (.error e) => fun _ => done (.error e)
  | done (.ok as) => fun right => right.bind fun a => done (collect (.ok as) a)
  | read k => fun right => read fun s => beside eager (k s) right
  | write s k => fun right => write s (beside eager k right)
  | wait t k => besideWaiting eager t k (beside eager k)

/-- The number of jobs up to which a failure of one ends all at once. -/
def eagerLimit : Nat := 30

/-- A list of jobs at a time, with their results in order. Among at most `eagerLimit` jobs the first
failure in time ends all; among more the first failure in order does. -/
def together (jobs : List (Job σ (Except ε α))) : Job σ (Except ε (List α)) :=
  jobs.foldl (beside (jobs.length ≤ eagerLimit)) (done (.ok []))

/-! ## Without waiting -/

/-- Runs a job to its end; waiting takes no time. -/
def run : Job σ α → σ → α × σ
  | done a, s => (a, s)
  | read k, s => (k s).run s
  | write s k, _ => k.run s
  | wait _ k, s => k.run s

@[simp] theorem run_done (a : α) (s : σ) : (done a : Job σ α).run s = (a, s) := rfl

theorem run_bind (x : Job σ α) (f : α → Job σ β) (s : σ) :
    (x.bind f).run s = (f (x.run s).1).run (x.run s).2 := by
  induction x generalizing s with
  | done a => rfl
  | read k ih => exact ih s s
  | write t k ih => exact ih t
  | wait t k ih => exact ih s

end Job

end EntityStore
