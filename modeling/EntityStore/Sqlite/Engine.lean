import EntityStore.Network.Resolver
import EntityStore.Sqlite.Pool

/-!
# Engines

An engine has a limited number of workers. An errand is queued until one of them is free, and keeps
that one to its end. Whenever anything changes, the errands that can go on do so, the oldest first.

Who sends somebody waits for the answer, and may stop waiting; the errand does not know about that. The
rollback with which the holder of a transaction lets go is no errand: the holder carries it out at once
when nobody is on the connection.
-/

namespace EntityStore.Sqlite

namespace Errand

def pool (e : Engine) : Errand → ConnectionId
  | statement c _ _ => c
  | beginOn c => c
  | within t _ => (e.lease t).pool

/-- Tries to do what an errand is about on a connection. -/
def attempt (e : Engine) (n : Nat) : Errand → Attempt Reply × Engine
  | statement c true q => e.perform c n (.query q)
  | statement c false q => e.perform c n (.exec q)
  | beginOn c => e.begin_ c n
  | within t a => e.perform (e.lease t).pool n a

def error : Errand → Refusal → Error
  | beginOn _, r => .beginFailed r.message
  | within _ .commit, r => .commitFailed r.message
  | _, r => Engine.internal r

end Errand

namespace Engine

/-! ## One errand -/

/-- Changes how far an errand has come. -/
def setStage (e : Engine) (i : Nat) (stage : Stage) : Engine :=
  { e with tasks := e.tasks.modify i fun t => { t with stage } }

/-- Whether an errand of a transaction is at a stage of some kind. -/
def anyWithin (e : Engine) (t : TransactionId) (p : Stage → Bool) : Bool :=
  e.tasks.any fun task => task.isWithin t && p task.stage

/-- Gives the connection of a transaction back if its holder has let go and no errand needs it. -/
def vacate (e : Engine) (t : TransactionId) : Engine :=
  let l := e.lease t
  if l.held || e.anyWithin t Stage.isOpen then e else e.giveBack l.pool l.connection

/-- Gives the connection of an errand back, unless a transaction keeps it. -/
def leave (e : Engine) (n : Nat) : Errand → Except Error Reply → Engine
  | .statement c _ _, _ => e.giveBack c n
  | .beginOn c, .error _ => e.giveBack c n
  | .beginOn _, .ok _ => e
  | .within t _, _ => e.vacate t

/-- An errand comes to its end, and its worker is free again. -/
def finish (e : Engine) (i : Nat) (r : Except Error Reply) : Engine :=
  { e.setStage i (.ended r) with workers := e.workers + 1 }

/-- Works on an errand that has a connection, if it is not blocked. Who is still blocked at the given
moment is refused. -/
def work? (e : Engine) (i : Nat) (x : Errand) (n limit : Nat) : Option Engine :=
  match x.attempt e n with
  | (.done a, e) => some ((e.finish i (.ok a)).leave n x (.ok a))
  | (.refused r, e) => some ((e.finish i (.error (x.error r))).leave n x (.error (x.error r)))
  | (.blocked, e) =>
    if (e.pool (x.pool e)).inMemory || limit ≤ e.now then
      some ((e.finish i (.error (x.error .locked))).leave n x (.error (x.error .locked)))
    else none

/-- Works on an errand that has just got its connection. -/
def enter (e : Engine) (i : Nat) (x : Errand) (n : Nat) : Engine :=
  let limit := e.now + (e.pool (x.pool e)).config.busyTimeoutMs.toNat
  (e.work? i x n limit).getD (e.setStage i (.blocked n limit))

/-- The first stage of an errand that has a worker. -/
def firstStage (e : Engine) : Errand → Stage
  | .within _ _ => .entering
  | x => .connecting (e.now + (e.pool (x.pool e)).config.connectionTimeoutMs.toNat)

/-- Goes on with an errand, if that is possible. -/
def advance? (e : Engine) (i : Nat) : Option Engine :=
  match e.tasks[i]? with
  | some ⟨x, .queued⟩ =>
    if e.workers = 0 then none
    else some { e.setStage i (e.firstStage x) with workers := e.workers - 1 }
  | some ⟨x, .connecting limit⟩ =>
    match e.take? (x.pool e) with
    | some (n, e) => some (e.enter i x n)
    | none => if limit ≤ e.now then some (e.finish i (.error exhausted)) else none
  | some ⟨.within t a, .entering⟩ =>
    if e.anyWithin t Stage.isBlocked then none
    else some (e.enter i (.within t a) (e.lease t).connection)
  | some ⟨x, .blocked n limit⟩ => e.work? i x n limit
  | _ => none

/-! ## All errands -/

/-- Goes on with errands, the oldest first; at most `fuel` times. -/
def settle : Nat → Engine → Engine
  | 0, e => e
  | fuel + 1, e =>
    match (List.range e.tasks.size).findSome? e.advance? with
    | some e => settle fuel e
    | none => e

/-- Goes on with all errands as far as possible. Every errand goes on at most three times. -/
def settled (e : Engine) : Engine := settle (3 * e.tasks.size) e

/-- The next moment at which an errand stops waiting. -/
def nextLimit? (e : Engine) : Option Nat := (e.tasks.toList.filterMap (·.stage.limit?)).min?

/-- Lets time pass up to the moment `target`, with at most `fuel` stops. -/
def elapseTo (target : Nat) : Nat → Engine → Engine
  | 0, e => { e with now := target }
  | fuel + 1, e =>
    match e.nextLimit? with
    | some moment =>
      if moment ≤ target then elapseTo target fuel { e with now := max e.now moment }.settled
      else { e with now := target }
    | none => { e with now := target }

/-- A bound on the stops: an errand waits until a moment at most twice. -/
def stops (e : Engine) : Nat := 2 * e.tasks.size

/-- Lets time pass. -/
def elapse (ms : Nat) (e : Engine) : Engine := elapseTo (e.now + ms) e.stops e

/-- The moment at which an errand comes to its end if nothing else happens; at most `fuel` stops are
looked at. -/
def endOf (i : Nat) : Nat → Engine → Nat
  | 0, e => e.now
  | fuel + 1, e =>
    match e.tasks[i]?.map (·.stage.isOpen), e.nextLimit? with
    | some true, some moment => endOf i fuel { e with now := max e.now moment }.settled
    | _, _ => e.now

/-- How long it takes until an errand comes to its end. -/
def timeLeft (e : Engine) (i : Nat) : Nat := endOf i e.stops e - e.now

/-! ## Sending somebody -/

/-- What came back from an errand. -/
def outcome (e : Engine) (i : Nat) : Except Error Reply :=
  match e.tasks[i]? with
  | some ⟨_, .ended r⟩ => r
  | _ => .error (.connectivity (.internal backend "no answer"))

/-- The engine after somebody was sent. -/
def sending (e : Engine) (x : Errand) : Engine :=
  { e with tasks := e.tasks.push { errand := x } }.settled

/-- Sends somebody from a given state on and waits for the answer, which takes a moment even if there
is nothing to wait for. -/
def sendFrom {α : Type} (e : Engine) (x : Errand) (answer : Reply → α) :
    Job Engine (Except Error α) :=
  let i := e.tasks.size
  let e := e.sending x
  .write e (.wait (e.timeLeft i + 1) (Job.read fun e => .done ((e.outcome i).map answer)))

/-- Sends somebody and waits for the answer. -/
def send {α : Type} (x : Errand) (answer : Reply → α) : Job Engine (Except Error α) :=
  Job.read fun e => e.sendFrom x answer

/-- A call on a transaction: refused by its handle, or carried out. -/
def call {α : Type} (t : TransactionId) (c : Call) (answer : Reply → α) :
    Job Engine (Except Error α) :=
  Job.read fun e =>
    let l := e.lease t
    match l.handle.start c with
    | (none, _) => .done (.error .invalidTransaction)
    | (some a, handle) => (e.setLease t { l with handle }).sendFrom (.within t a) answer

/-- How long it takes until nobody is on the connection of a transaction or waits in front of it. -/
def timeInside (e : Engine) (t : TransactionId) : Nat :=
  let inside := (List.range e.tasks.size).filter fun i =>
    e.tasks[i]?.any fun task => task.isWithin t && task.stage.isInside
  (inside.map e.timeLeft).foldl max 0

/-- The engine after the holder of a transaction has let go: the transaction is rolled back if it has
not ended, and its connection is free again once no errand needs it. -/
def letGo (e : Engine) (t : TransactionId) : Engine :=
  let l := e.lease t
  let (action, handle) := l.handle.start .release
  let e :=
    match action with
    | some a => (e.perform l.pool l.connection a).2
    | none => e
  ((e.setLease t { l with handle, held := false }).vacate t).settled

/-- Lets go of a transaction. Who has to roll it back waits for the connection first. -/
def release (t : TransactionId) : Job Engine Unit :=
  Job.read fun e =>
    let rest : Job Engine Unit := Job.modify fun e => e.letGo t
    if (e.lease t).handle.live then .wait (e.timeInside t) rest else rest

/-! ## Without a worker -/

/-- Work with a free connection, for which a caller may have to wait. The work gives it back. -/
def withConnection {α : Type} (c : ConnectionId) (work : Nat → Job Engine (Except Error α)) :
    Job Engine (Except Error α) :=
  Job.read fun e =>
    match e.take? c with
    | some (n, e) => .write e (work n)
    | none =>
      .wait (e.pool c).config.connectionTimeoutMs.toNat <|
        Job.read fun e =>
          match e.take? c with
          | some (n, e) => .write e (work n)
          | none => .done (.error exhausted)

/-- Gives a connection back and hands a result on. -/
def returning {α : Type} (c : ConnectionId) (n : Nat) (r : α) : Job Engine α :=
  (Job.modify fun e => (e.giveBack c n).settled).bind fun _ => .done r

/-- Runs a statement on a connection, without arguments and without its results; `blocked` is for who
is blocked. -/
def runOnce (c : ConnectionId) (n : Nat) (st : Statement) (blocked : Job Engine (Except Error Unit)) :
    Job Engine (Except Error Unit) :=
  Job.read fun e =>
    match e.tryOn c (·.run n [] st) with
    | (.done _, e) => .write e (.done (.ok ()))
    | (.refused r, e) => .write e (.done (.error (internal r)))
    | (.blocked, _) => blocked

/-- Runs a statement on a connection; in a file, who is blocked waits and tries again. -/
def runStatement (c : ConnectionId) (n : Nat) (st : Statement) : Job Engine (Except Error Unit) :=
  let locked := .done (.error (internal .locked))
  runOnce c n st <| Job.read fun e =>
    if (e.pool c).inMemory then locked
    else .wait (e.pool c).config.busyTimeoutMs.toNat (runOnce c n st locked)

/-- Runs all statements among some lexemes until one is refused; at most `fuel` of them. Placeholders
stand for nothing. -/
def runAll (c : ConnectionId) (n : Nat) : Nat → List Lexeme → Job Engine (Except Error Unit)
  | 0, _ => .done (.ok ())
  | fuel + 1, s =>
    match Parsed.ofLexemes s with
    | .nothing => .done (.ok ())
    | .malformed => .done (.error (internal .malformed))
    | .statement st _ rest =>
      (runStatement c n st).bind fun
        | .ok () => runAll c n fuel rest
        | .error e => .done (.error e)

/-- Runs all statements of a text until one is refused. -/
def batch (c : ConnectionId) (text : String) : Job Engine (Except Error Unit) :=
  withConnection c fun n =>
    (runAll c n (text.length + 1) (Lexeme.ofString text)).bind (returning c n)

instance : Driver Engine where
  name e c := (e.pool c).name
  note _ e := e
  elapse := elapse
  connect := connect
  resolve domain port := .done (resolveLiteral domain port)
  query c q _ := send (.statement c true q) Reply.toRows
  exec c q _ := send (.statement c false q) Reply.toResult
  beginOn c := send (.beginOn c) Reply.toTransaction
  queryIn t q := call t (.query q) Reply.toRows
  execIn t q := call t (.exec q) Reply.toResult
  commit t := call t .commit fun _ => ()
  rollback t := call t .rollback fun _ => ()
  release := release

end Engine

end EntityStore.Sqlite
