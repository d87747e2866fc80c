import EntityStore.Session.Database

/-!
# Time

A clock counts milliseconds. It stands still while anything can run and goes on to the next moment at
which somebody has to act. While the job in front waits, the replica list is refreshed behind it: a
tick is due every interval from the start of the selector, one refresh runs at a time, and ticks that
were missed meanwhile are made up for. What is due at the very end of a wait runs in the next one.
Once the selector is closed, the refreshing stops where it would look for the next tick.
-/

namespace EntityStore

/-- What goes on behind the job in front. Ticks are moments in nanoseconds. -/
inductive Background (β : Type) where
  /-- Nothing. -/
  | off
  /-- The next refresh waits for its tick. -/
  | idle (tick : Nat)
  /-- A refresh waits until a moment, in milliseconds, to go on. -/
  | refreshing (tick : Nat) (wake : Nat) (rest : Work β Unit)

/-- A session in time. -/
structure Timeline (β : Type) where
  /-- The time in milliseconds. -/
  now : Nat := 0
  /-- The state of the session. -/
  site : Site β
  /-- What goes on in the background. -/
  background : Background β := .off

namespace Timeline

variable {β α : Type} [Driver β]

/-- How far work in the background came. -/
inductive Progress (β : Type) where
  /-- It ended at a moment. -/
  | ended (at_ : Nat)
  /-- It waits until a moment. -/
  | waits (wake : Nat) (rest : Work β Unit)

/-- Runs work from the moment `at_` on, until it ends or waits for a moment not before `target`. -/
def advance (target at_ : Nat) : Work β Unit → Site β → Progress β × Site β
  | .done (), s => (.ended at_, s)
  | .read k, s => advance target at_ (k s) s
  | .write s k, _ => advance target at_ k s
  | .wait t k, s =>
    if at_ + t < target then advance target (at_ + t) k s else (.waits (at_ + t) k, s)

/-- Whether refreshing has been stopped. -/
def isClosed (s : Site β) : Bool :=
  match s.selector with
  | some sel => sel.closed
  | none => true

/-- The interval of the ticks, in nanoseconds. -/
def interval (s : Site β) : Nat :=
  match s.selector with
  | some sel => sel.interval.nanos
  | none => 0

/-- The note of refreshing that stops. -/
def stopNote : Note := ⟨.debug, "Replica selector shutting down", []⟩

/-- The millisecond at which a moment in nanoseconds is reached. -/
def millisOf (tick : Nat) : Nat := (tick + 999_999) / 1_000_000

/-- Waits for the next tick from the moment `at_` on and refreshes, again and again up to `target`; at
most `fuel` ticks. -/
def tickUntil (target : Nat) : Nat → Nat → Nat → Site β → Background β × Site β
  | 0, tick, _, s => (.idle tick, s)
  | fuel + 1, tick, at_, s =>
    if isClosed s then (.off, ((Site.note stopNote).run s).2)
    else
      let start := max at_ (millisOf tick)
      if start < target then
        match advance target start Selector.refreshQuietly s with
        | (.ended at', s') => tickUntil target fuel (tick + interval s) at' s'
        | (.waits wake rest, s') => (.refreshing (tick + interval s) wake rest, s')
      else (.idle tick, s)

/-- A bound on the ticks before a moment. -/
def tickBound (target tick : Nat) (s : Site β) : Nat :=
  (target * 1_000_000 - tick) / interval s + 2

/-- What goes on in the background before the moment `target`. -/
def backgroundUntil (target now : Nat) (b : Background β) (s : Site β) : Background β × Site β :=
  match b with
  | .off => (.off, s)
  | .idle tick => tickUntil target (tickBound target tick s) tick now s
  | .refreshing tick wake rest =>
    if wake < target then
      match advance target wake rest s with
      | (.ended at', s') => tickUntil target (tickBound target tick s) tick at' s'
      | (.waits wake rest, s') => (.refreshing tick wake rest, s')
    else (.refreshing tick wake rest, s)

/-- Lets time pass, in the background and for the driver. -/
def elapse (t : Timeline β) (ms : Nat) : Timeline β :=
  if ms = 0 then t
  else
    let (background, site) := backgroundUntil (t.now + ms) t.now t.background t.site
    ⟨t.now + ms, { site with driver := Driver.elapse ms site.driver }, background⟩

/-- Runs a job in front to its end. -/
def run : Work β α → Timeline β → α × Timeline β
  | .done a, t => (a, t)
  | .read k, t => run (k t.site) t
  | .write s k, t => run k { t with site := s }
  | .wait ms k, t => run k (t.elapse ms)

/-- Begins to refresh the replica list in the background, if there is one and its interval is not
zero. -/
def watch (t : Timeline β) : Timeline β :=
  match t.site.selector with
  | some sel =>
    if sel.interval.isZero then t
    else { t with background := .idle (t.now * 1_000_000 + sel.interval.nanos) }
  | none => t

@[simp] theorem elapse_zero (t : Timeline β) : t.elapse 0 = t := rfl

end Timeline

end EntityStore
