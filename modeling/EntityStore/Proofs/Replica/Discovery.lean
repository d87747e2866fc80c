import EntityStore.Proofs.Network.Dsn
import EntityStore.Proofs.Session.Recorder
import EntityStore.Replica.Selector
import Mathlib.Data.List.Nodup

/-!
# One discovery

What a discovery that succeeds has asked of the driver, and the list that comes of it
(`Discovery.From`): the domain is resolved once, every address has an entry at its place, and a
connection is opened for each entry whose data source name was not known before and for no other.
A discovery that does not succeed was let down by the driver (`Broken`): the resolver took too long, or
its last request failed, and the discovery ends with that error.

`always_connectAll` follows the list of data source names, and `always_discoverAll` puts the resolver in
front of it.
-/

namespace EntityStore

/-- A discovery that succeeded. -/
structure Discovery where
  /-- What was asked of the driver and answered by it. -/
  log : List Entry
  replicas : List Replica

namespace Discovery

/-- The addresses that the resolver answered. -/
def addresses (d : Discovery) : List IpAddr :=
  (d.log.findSome? fun
    | .answered _ (.addresses found) => some found
    | _ => none).getD []

/-- A log at the end of which a discovery can only fail with an error. -/
inductive Broken (dsn : Dsn) : List Entry → Error → Prop where
  /-- The last request has failed. -/
  | failed (before : List Entry) (q : Request) (e : Error) :
      Broken dsn (before ++ q.answeredBy (.failed e)) e
  /-- The resolver has not answered in time. -/
  | late (ms : Nat) :
      Broken dsn [.asked (.resolve dsn.host dsn.port)] (.connectivity (.timeout ms))

end Discovery

namespace Selector

/-! ## Known connections -/

theorem connectionFor?_of_nodup {known : List Replica} (h : (known.map (·.dsn)).Nodup)
    {r : Replica} (hr : r ∈ known) : connectionFor? known r.dsn = some r.connection := by
  unfold connectionFor?
  cases hf : known.reverse.find? (·.dsn == r.dsn) with
  | none =>
    have hnone := List.find?_eq_none.mp hf r (List.mem_reverse.mpr hr)
    simp at hnone
  | some q =>
    have hq := List.mem_reverse.mp (List.mem_of_find?_eq_some hf)
    have hdsn : q.dsn = r.dsn := by simpa using List.find?_some hf
    rw [List.inj_on_of_nodup_map h hq hr hdsn]
    rfl

/-- The entries whose data source names are not known. -/
def fresh (known replicas : List Replica) : List Replica :=
  replicas.filter fun r => (connectionFor? known r.dsn).isNone

theorem fresh_cons_of_some {known rest : List Replica} {r : Replica} {c : ConnectionId}
    (h : connectionFor? known r.dsn = some c) : fresh known (r :: rest) = fresh known rest := by
  rw [fresh, List.filter_cons_of_neg (by rw [h]; exact Bool.false_ne_true), fresh]

theorem fresh_cons_of_none {known rest : List Replica} {r : Replica}
    (h : connectionFor? known r.dsn = none) : fresh known (r :: rest) = r :: fresh known rest := by
  rw [fresh, List.filter_cons_of_pos (by rw [h]; rfl), fresh]

/-- What is asked and answered when the connection of an entry is opened. -/
def opening (r : Replica) : List Entry :=
  (Request.connect r.name r.dsn).answeredBy (.connection r.connection)

/-- A list has the given data source names, from place `i` on, and the known connections. -/
structure Lists (known : List Replica) (i : Nat) (dsns : List Dsn) (replicas : List Replica) :
    Prop where
  entries : (replicas.map fun r => (r.name, r.dsn)) =
    (dsns.zipIdx i).map fun d => (replicaName d.2, d.1.text)
  kept : ∀ r ∈ replicas, ∀ c, connectionFor? known r.dsn = some c → r.connection = c

theorem lists_nil (known : List Replica) (i : Nat) : Lists known i [] [] :=
  ⟨rfl, fun _ h => absurd h List.not_mem_nil⟩

theorem Lists.cons {known replicas : List Replica} {i : Nat} {dsns : List Dsn}
    (h : Lists known (i + 1) dsns replicas) {d : Dsn} {c : ConnectionId}
    (hc : ∀ c', connectionFor? known d.text = some c' → c = c') :
    Lists known i (d :: dsns) (⟨replicaName i, d.text, c⟩ :: replicas) := by
  constructor
  · rw [List.map_cons, h.entries, List.zipIdx_cons, List.map_cons]
  · intro r hr
    rcases List.mem_cons.mp hr with rfl | hr
    · exact hc
    · exact h.kept r hr

/-! ## Connecting -/

variable {β : Type} [Driver β]

open Recorder (SameLog)

/-- What connecting to a list comes to: all is open, or the last request has failed. -/
def Connected (known : List Replica) (i : Nat) (dsns : List Dsn) (since : List Entry)
    (result : Except Error (List Replica)) (s : Recorder β) : Prop :=
  match result with
  | .ok replicas => Lists known i dsns replicas ∧
      s.log = since ++ (fresh known replicas).flatMap opening
  | .error e => ∃ before q, s.log = since ++ (before ++ Request.answeredBy q (.failed e))

/-- A list that is connected to has opened exactly the connections of its fresh entries, in order. -/
theorem always_connectAll (known : List Replica) (i : Nat) (dsns : List Dsn) (r : Recorder β) :
    (connectAll known i dsns).Always SameLog (fun _ => True) (Connected known i dsns r.log) r := by
  -- The log grows from the front of the list, so the recorder is general while the rest is connected.
  induction dsns generalizing i r with
  | nil => exact ⟨lists_nil known i, (List.append_nil _).symm⟩
  | cons d dsns ih =>
    unfold connectAll
    cases hc : connectionFor? known d.text with
    | some c =>
      dsimp only
      rw [Job.always_bind]
      refine (ih (i + 1) r).mono (fun _ h => h) ?_
      intro result s h
      cases result with
      | error e => exact h
      | ok rest =>
        obtain ⟨hlists, hlog⟩ := h
        refine ⟨hlists.cons (by rw [hc]; rintro c' ⟨⟩; rfl), ?_⟩
        change s.log = r.log ++ (fresh known (⟨replicaName i, d.text, c⟩ :: rest)).flatMap opening
        rw [hlog, fresh_cons_of_some hc]
    | none =>
      dsimp only
      rw [Job.always_bind]
      refine (Recorder.always_forward _ _ _ r).mono (fun _ _ => trivial) ?_
      intro result s hs
      cases result with
      | error e => exact ⟨[], _, hs⟩
      | ok c =>
        dsimp only
        rw [Job.always_bind]
        refine (ih (i + 1) s).mono (fun _ h => h) ?_
        intro result t h
        cases result with
        | error e =>
          obtain ⟨before, q, hlog⟩ := h
          exact ⟨_, q, by rw [hlog, hs, List.append_assoc, List.append_assoc]⟩
        | ok rest =>
          obtain ⟨hlists, hlog⟩ := h
          refine ⟨hlists.cons (by rw [hc]; exact nofun), ?_⟩
          change t.log = r.log ++ (fresh known (⟨replicaName i, d.text, c⟩ :: rest)).flatMap opening
          rw [hlog, hs, fresh_cons_of_none hc, List.flatMap_cons, List.append_assoc]
          rfl

end Selector

/-! ## The whole discovery -/

/-- A discovery that has started from the list `known`: what it has asked for, and what came of it. -/
structure Discovery.From (dsn : Dsn) (known : List Replica) (d : Discovery) : Prop where
  /-- The domain was resolved, and a connection was opened for each fresh entry. -/
  log : d.log = (Request.resolve dsn.host dsn.port).answeredBy (.addresses d.addresses) ++
    (Selector.fresh known d.replicas).flatMap Selector.opening
  /-- Each address has its entry. -/
  entries : (d.replicas.map fun r => (r.name, r.dsn)) =
    d.addresses.zipIdx.map fun a => (Selector.replicaName a.2, (dsn.withAddress a.1).text)
  /-- The other entries have kept their connections. -/
  kept : ∀ r ∈ d.replicas, ∀ c, Selector.connectionFor? known r.dsn = some c → r.connection = c

theorem Discovery.from_of_lists {dsn : Dsn} {known replicas : List Replica}
    {addresses : List IpAddr}
    (h : Selector.Lists known 0 (addresses.map dsn.withAddress) replicas) {log : List Entry}
    (hlog : log = (Request.resolve dsn.host dsn.port).answeredBy (.addresses addresses) ++
      (Selector.fresh known replicas).flatMap Selector.opening) :
    Discovery.From dsn known ⟨log, replicas⟩ := by
  have haddresses : Discovery.addresses ⟨log, replicas⟩ = addresses := by
    rw [Discovery.addresses, hlog]
    rfl
  constructor
  · rw [haddresses]
    exact hlog
  · rw [haddresses, h.entries, List.zipIdx_map, List.map_map]
    rfl
  · exact h.kept

namespace Selector

variable {β : Type} [Driver β]

open Recorder (SameLog)

/-- What resolving the domain comes to. -/
def Resolved (dsn : Dsn) (since : List Entry) (result : Except Error (List Dsn))
    (s : Recorder β) : Prop :=
  match result with
  | .ok dsns => ∃ addresses, dsns = addresses.map dsn.withAddress ∧
      s.log = since ++ (Request.resolve dsn.host dsn.port).answeredBy (.addresses addresses)
  | .error e => ∃ log, s.log = since ++ log ∧ Discovery.Broken dsn log e

theorem always_discover (dsn : Dsn) (timeout : Duration) (r : Recorder β) :
    (discover dsn timeout).Always SameLog (fun _ => True) (Resolved dsn r.log) r := by
  unfold discover withDeadline
  rw [Job.always_bind, Job.always_bind]
  refine (Job.Always.deadline
    (I := fun s => s.log = r.log ++ [.asked (.resolve dsn.host dsn.port)]) ?_ ?_ _).mono
    (fun _ _ => trivial) fun _ _ h => h
  · refine (Recorder.always_forward _ _ _ r).mono (fun _ h => h) ?_
    intro result s hs
    cases result with
    | error e => exact ⟨_, hs, .failed [] _ e⟩
    | ok addresses => exact ⟨addresses, rfl, hs⟩
  · intro s t hs hlog
    exact ⟨_, hlog.trans hs, .late _⟩

/-- What a discovery comes to. -/
def Discovered (dsn : Dsn) (known : List Replica) (since : List Entry)
    (result : Except Error (List Replica)) (s : Recorder β) : Prop :=
  ∃ log, s.log = since ++ log ∧
    match result with
    | .ok replicas => Discovery.From dsn known ⟨log, replicas⟩
    | .error e => Discovery.Broken dsn log e

/-- A discovery that succeeds has asked for and listed what it should, and one that fails was let down
by the driver. -/
theorem always_discoverAll (dsn : Dsn) (timeout : Duration) (known : List Replica)
    (r : Recorder β) :
    (discoverAll dsn timeout known).Always SameLog (fun _ => True)
      (Discovered dsn known r.log) r := by
  unfold discoverAll
  rw [Job.always_bind]
  refine (always_discover dsn timeout r).mono (fun _ h => h) ?_
  intro result s hs
  cases result with
  | error e => exact hs
  | ok dsns =>
    obtain ⟨addresses, rfl, hresolve⟩ := hs
    refine (always_connectAll known 0 _ s).mono (fun _ h => h) ?_
    intro result t ht
    cases result with
    | error e =>
      obtain ⟨before, q, hlog⟩ := ht
      refine ⟨_, ?_, .failed
        ((Request.resolve dsn.host dsn.port).answeredBy (.addresses addresses) ++ before) q e⟩
      rw [hlog, hresolve, List.append_assoc, List.append_assoc]
    | ok replicas =>
      obtain ⟨hlists, hlog⟩ := ht
      refine ⟨_, ?_, Discovery.from_of_lists hlists rfl⟩
      rw [hlog, hresolve, List.append_assoc]

end Selector

/-! ## Lists of different addresses -/

namespace Discovery.From

variable {dsn : Dsn} {known : List Replica} {d : Discovery}

theorem map_dsn (h : d.From dsn known) :
    d.replicas.map (·.dsn) = d.addresses.map fun a => (dsn.withAddress a).text := by
  have hentries := congrArg (List.map Prod.snd) h.entries
  rw [List.map_map, List.map_map] at hentries
  calc d.replicas.map (·.dsn)
      = d.addresses.zipIdx.map ((fun a => (dsn.withAddress a).text) ∘ Prod.fst) := hentries
    _ = (d.addresses.zipIdx.map Prod.fst).map fun a => (dsn.withAddress a).text :=
        List.map_map.symm
    _ = d.addresses.map fun a => (dsn.withAddress a).text := by rw [List.zipIdx_map_fst]

theorem exists_replica (h : d.From dsn known) {a : IpAddr} (ha : a ∈ d.addresses) :
    ∃ r ∈ d.replicas, r.dsn = (dsn.withAddress a).text := by
  have hmem : (dsn.withAddress a).text ∈ d.replicas.map (·.dsn) := by
    rw [h.map_dsn]
    exact List.mem_map_of_mem ha
  obtain ⟨r, hr, hdsn⟩ := List.mem_map.mp hmem
  exact ⟨r, hr, hdsn⟩

theorem nodup_dsn (h : d.From dsn known) (ha : d.addresses.Nodup) :
    (d.replicas.map (·.dsn)).Nodup := by
  rw [h.map_dsn]
  exact ha.map dsn.withAddress_text_injective

end Discovery.From

end EntityStore
