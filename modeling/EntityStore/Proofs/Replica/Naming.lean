import EntityStore.Proofs.Number.Numeral
import EntityStore.Proofs.Replica.Watch

/-!
# The names of connections

A replica is named by its place in the list, and so is the connection that is opened for it. An address
that is found again keeps its connection, though its place may be another one then. So the connection of
a replica has the name of the place at which its address came into the list (`Discovery.entered`).

1. The connection of an entry was asked for under the name of that place, in one of the discoveries so
   far (`Discovery.Linked.exists_opening`).
2. If connections report the names that they were asked for, this gives all of their names
   (`Discovery.Linked.map_replicas`).
3. They agree with those of the replicas iff each address is where it came in, and differ from each other
   iff no two addresses came in at one place (`Watch.names_agree_iff`). Neither has to be so
   (`Watch.names_clash`).
-/

namespace EntityStore

/-! ## Places -/

namespace Selector

theorem replicaName_inj {i j : Nat} : replicaName i = replicaName j ↔ i = j := by
  rw [replicaName, replicaName, String.append_right_inj, Number.toString_inj]

theorem exists_of_connectionFor? {known : List Replica} {dsn : String} {c : ConnectionId}
    (h : connectionFor? known dsn = some c) : ∃ q ∈ known, q.dsn = dsn := by
  obtain ⟨q, hq, -⟩ := Option.map_eq_some_iff.1 h
  exact ⟨q, List.mem_reverse.1 (List.mem_of_find?_eq_some hq), by simpa using List.find?_some hq⟩

end Selector

namespace Discovery

/-- The addresses of the newest discovery. -/
def newestAddresses : List Discovery → List IpAddr
  | [] => []
  | d :: _ => d.addresses

/-- The place at which an address came into the list when it was found first and since then always. -/
def entered (a : IpAddr) : List Discovery → Nat
  | [] => 0
  | d :: before =>
    if a ∈ newestAddresses before then entered a before else d.addresses.idxOf a

variable {dsn : Dsn} {known : List Replica} {d : Discovery}

theorem From.map_getElem? (h : d.From dsn known) (i : Nat) :
    (d.replicas[i]?.map fun r => (r.name, r.dsn)) =
      d.addresses[i]?.map fun a => (Selector.replicaName i, (dsn.withAddress a).text) := by
  rw [← List.getElem?_map, h.entries, List.getElem?_map, List.getElem?_zipIdx, Option.map_map]
  simp only [Nat.zero_add]
  rfl

/-- Each entry stands at the place of its address. -/
theorem From.exists_address (h : d.From dsn known) {r : Replica} (hr : r ∈ d.replicas) :
    ∃ a i, d.addresses[i]? = some a ∧ r.name = Selector.replicaName i ∧
      r.dsn = (dsn.withAddress a).text := by
  obtain ⟨i, hi⟩ := List.getElem?_of_mem hr
  have hat := h.map_getElem? i
  rw [hi, Option.map_some, eq_comm, Option.map_eq_some_iff] at hat
  obtain ⟨a, ha, heq⟩ := hat
  obtain ⟨hname, hdsn⟩ := Prod.mk.inj heq
  exact ⟨a, i, ha, hname.symm, hdsn.symm⟩

theorem exists_address_of_newest {found : List Discovery} (h : Linked dsn found) {q : Replica}
    (hq : q ∈ newest found) : ∃ a ∈ newestAddresses found, q.dsn = (dsn.withAddress a).text := by
  cases found with
  | nil => exact absurd hq List.not_mem_nil
  | cons d before =>
    obtain ⟨a, i, ha, -, hdsn⟩ := h.1.exists_address hq
    exact ⟨a, List.mem_of_getElem? ha, hdsn⟩

/-- The connection of an entry was opened under the name of the place at which its address came in. -/
theorem Linked.exists_opening {found : List Discovery} (h : Linked dsn found)
    (hnodup : ∀ d ∈ found, d.addresses.Nodup) {r : Replica} (hr : r ∈ newest found) {a : IpAddr}
    (hdsn : r.dsn = (dsn.withAddress a).text) :
    ∃ d ∈ found, .answered (.connect (Selector.replicaName (entered a found)) r.dsn)
      (.connection r.connection) ∈ d.log := by
  -- From the oldest discovery on: an address that was there before has kept its connection.
  induction found generalizing r with
  | nil => exact absurd hr List.not_mem_nil
  | cons d before ih =>
    obtain ⟨hd, hlinked⟩ := h
    obtain ⟨hdnodup, hbefore⟩ := List.forall_mem_cons.1 hnodup
    by_cases ha : a ∈ newestAddresses before
    · cases before with
      | nil => exact absurd ha List.not_mem_nil
      | cons e older =>
        obtain ⟨q, hq, hqdsn⟩ := hlinked.1.exists_replica ha
        have hconnection : r.connection = q.connection :=
          hlinked.1.connection_eq hd (hbefore e List.mem_cons_self) hq hr (hdsn.trans hqdsn.symm)
        obtain ⟨d', hd', hopened⟩ := ih hlinked hbefore hq hqdsn
        refine ⟨d', List.mem_cons_of_mem d hd', ?_⟩
        rw [entered, if_pos ha, hdsn, ← hqdsn, hconnection]
        exact hopened
    · obtain ⟨b, i, hb, hname, hbdsn⟩ := hd.exists_address hr
      obtain rfl : a = b := dsn.withAddress_text_injective (hdsn.symm.trans hbdsn)
      have hplace : d.addresses.idxOf a = i := by
        obtain ⟨hi, rfl⟩ := List.getElem?_eq_some_iff.1 hb
        exact hdnodup.idxOf_getElem i hi
      have hunknown : Selector.connectionFor? (newest before) r.dsn = none := by
        rw [← Option.not_isSome_iff_eq_none]
        intro hsome
        obtain ⟨c, hc⟩ := Option.isSome_iff_exists.1 hsome
        obtain ⟨q, hq, hqdsn⟩ := Selector.exists_of_connectionFor? hc
        obtain ⟨b, hb, hbdsn'⟩ := exists_address_of_newest hlinked hq
        obtain rfl : a = b := dsn.withAddress_text_injective (hdsn.symm.trans (hqdsn.symm.trans hbdsn'))
        exact ha hb
      refine ⟨d, List.mem_cons_self, ?_⟩
      rw [entered, if_neg ha, hplace, ← hname, hd.log]
      refine List.mem_append_right _ (List.mem_flatMap.2 ⟨r, ?_, List.mem_cons_of_mem _ List.mem_cons_self⟩)
      exact List.mem_filter.2 ⟨hr, by rw [hunknown]; rfl⟩

end Discovery

/-! ## Names that are reported -/

/-- If a line is about a connection that was opened, that has the name it was asked for. -/
def Entry.Reports (name : ConnectionId → String) : Entry → Prop
  | answered (.connect n _) (.connection c) => name c = n
  | _ => True

instance (name : ConnectionId → String) : DecidablePred (Entry.Reports name) := fun line => by
  unfold Entry.Reports
  split <;> infer_instance

namespace Discovery

/-- The list by places: a replica is named by its place, and its connection by the place at which its
address came in. -/
theorem Linked.map_replicas {dsn : Dsn} {found : List Discovery} (h : Linked dsn found)
    (hnodup : ∀ d ∈ found, d.addresses.Nodup) {name : ConnectionId → String}
    (hreports : ∀ d ∈ found, ∀ line ∈ d.log, line.Reports name) :
    ((newest found).map fun r => (r.name, r.dsn, name r.connection)) =
      (newestAddresses found).zipIdx.map fun a => (Selector.replicaName a.2,
        (dsn.withAddress a.1).text, Selector.replicaName (entered a.1 found)) := by
  cases found with
  | nil => rfl
  | cons d before =>
    refine List.ext_getElem? fun i => ?_
    have hat := h.1.map_getElem? i
    rw [List.getElem?_map, List.getElem?_map, List.getElem?_zipIdx, Option.map_map]
    change d.replicas[i]?.map _ = d.addresses[i]?.map _
    cases hr : d.replicas[i]? with
    | none =>
      rw [hr, Option.map_none, eq_comm, Option.map_eq_none_iff] at hat
      rw [hat]
      rfl
    | some r =>
      rw [hr, Option.map_some, eq_comm, Option.map_eq_some_iff] at hat
      obtain ⟨a, ha, heq⟩ := hat
      obtain ⟨hname, hdsn⟩ := Prod.mk.inj heq
      obtain ⟨e, he, hopened⟩ := h.exists_opening hnodup (List.mem_of_getElem? hr) hdsn.symm
      have hconnection : name r.connection = _ := hreports e he _ hopened
      rw [ha, Option.map_some, Option.map_some, hconnection, ← hname, ← hdsn]
      simp only [Function.comp_apply, Nat.zero_add]

theorem Linked.map_connections {dsn : Dsn} {found : List Discovery} (h : Linked dsn found)
    (hnodup : ∀ d ∈ found, d.addresses.Nodup) {name : ConnectionId → String}
    (hreports : ∀ d ∈ found, ∀ line ∈ d.log, line.Reports name) :
    ((newest found).map fun r => name r.connection) =
      ((newestAddresses found).map (entered · found)).map Selector.replicaName := by
  have hmap := congrArg (List.map fun p => p.2.2) (h.map_replicas hnodup hreports)
  simp only [List.map_map, Function.comp_def] at hmap ⊢
  rw [hmap]
  conv_rhs => rw [← List.zipIdx_map_fst 0 (newestAddresses found)]
  simp only [List.map_map, Function.comp_def]

end Discovery

namespace Watch

open Discovery (newest newestAddresses entered)

variable {β : Type} [Driver β] {w : Watch β}

/-- The name that a connection reports. -/
def connectionName (w : Watch β) (c : ConnectionId) : String := Driver.name w.site.driver c

/-- Each connection that was opened for the list reports the name it was asked for. -/
def Reports (w : Watch β) : Prop := ∀ d ∈ w.found, ∀ line ∈ d.log, line.Reports w.connectionName

instance : Decidable w.Reports :=
  inferInstanceAs (Decidable (∀ d ∈ w.found, ∀ line ∈ d.log, line.Reports w.connectionName))

/-- If no answer repeats an address and connections report the names they were asked for, then in every
watch of a selector that has started:
* the list has, for each address of the last answer, a replica with the name of its place and a
  connection with the name of the place at which the address came in;
* the names of all replicas are those of their connections iff each address is where it came in;
* no two connections of the list have one name iff no two of its addresses came in at one place. -/
theorem names_agree_iff {text : String} {interval timeout : Duration}
    (h : Reachable text interval timeout w) (hnodup : ∀ d ∈ w.found, d.addresses.Nodup)
    (hreports : w.Reports) :
    ∃ dsn, Dsn.parse text = .ok dsn ∧ w.site.list = some (dsn, newest w.found) ∧
      ((newest w.found).map fun r => (r.name, r.dsn, w.connectionName r.connection)) =
        ((newestAddresses w.found).zipIdx.map fun a => (Selector.replicaName a.2,
          (dsn.withAddress a.1).text, Selector.replicaName (entered a.1 w.found))) ∧
      ((∀ r ∈ newest w.found, r.name = w.connectionName r.connection) ↔
        ∀ i a, (newestAddresses w.found)[i]? = some a → entered a w.found = i) ∧
      (((newest w.found).map fun r => w.connectionName r.connection).Nodup ↔
        ((newestAddresses w.found).map (entered · w.found)).Nodup) := by
  obtain ⟨dsn, hparse, hw⟩ := follows_of_reachable h
  have hmap := hw.linked.map_replicas hnodup hreports
  refine ⟨dsn, hparse, hw.list, hmap, ?_, ?_⟩
  · have hall := congrArg (fun l => ∀ p ∈ l, p.1 = p.2.2) hmap
    simp only [List.forall_mem_map, Selector.replicaName_inj] at hall
    rw [hall]
    constructor
    · intro hplaces i a ha
      exact (hplaces (a, i) (List.mem_zipIdx_iff_getElem?.2 ha)).symm
    · rintro hplaces ⟨a, i⟩ ha
      exact (hplaces i a (List.mem_zipIdx_iff_getElem?.1 ha)).symm
  · rw [hw.linked.map_connections hnodup hreports,
      List.nodup_map_iff fun _ _ => Selector.replicaName_inj.1]

end Watch

/-! ## A list that has moved -/

/-- A driver whose connections report the names that they were opened with. -/
structure Labelled (β : Type) where
  /-- The state of the driver that opens them. -/
  base : β
  /-- The names, the newest first. -/
  names : List (ConnectionId × String) := []

namespace Labelled

variable {α β : Type}

/-- Work of the driver behind the names. -/
def behind (x : Job β α) : Job (Labelled β) α := x.zoom (·.base) fun b l => { l with base := b }

def label (c : ConnectionId) (name : String) : Job (Labelled β) Unit :=
  Job.modify fun l => { l with names := (c, name) :: l.names }

instance [Driver β] : Driver (Labelled β) where
  name l c := (l.names.lookup c).getD (Driver.name l.base c)
  note n l := { l with base := Driver.note n l.base }
  elapse ms l := { l with base := Driver.elapse ms l.base }
  connect name dsn := (behind (Driver.connect name dsn)).bind fun
    | .ok c => (label c name).bind fun _ => .done (.ok c)
    | .error e => .done (.error e)
  resolve domain port := behind (Driver.resolve domain port)
  query c q o := behind (Driver.query c q o)
  exec c q o := behind (Driver.exec c q o)
  beginOn c := behind (Driver.beginOn c)
  queryIn t q := behind (Driver.queryIn t q)
  execIn t q := behind (Driver.execIn t q)
  commit t := behind (Driver.commit t)
  rollback t := behind (Driver.rollback t)
  release t := behind (Driver.release t)

end Labelled

namespace Watch

open Discovery (newest newestAddresses entered)
open Site (SameLog)

/-- A session with names, whose domain has given addresses. -/
def labelledHosts (addresses : List IpAddr) : Site (Recorder (Labelled Simulation)) :=
  ⟨{}, none, { base := { base := { resolver := { addresses } } } }⟩

/-- A selector with names that has started on two hosts. -/
def labelled : Watch (Labelled Simulation) :=
  let before := labelledHosts [.v4 10 0 0 1, .v4 10 0 0 2]
  let site := ((Selector.start clusterName .second .second).run before).2
  { site, found := [discovered before.log site] }

/-- The same session when the first host is gone and there is another one at the end. -/
def advancedSite : Site (Recorder (Labelled Simulation)) :=
  { labelled.site with driver :=
    { labelled.site.driver with base :=
      { labelled.site.driver.base with base :=
        { labelled.site.driver.base.base with resolver :=
          { addresses := [.v4 10 0 0 2, .v4 10 0 0 3] } } } } }

/-- The selector after a refresh. -/
def advanced : Watch (Labelled Simulation) :=
  let site := (Selector.refresh.untilWait advancedSite).2
  { site, found := discovered advancedSite.log site :: labelled.found }

theorem reachable_advanced : Reachable clusterName .second .second advanced := by
  have hstarted : ((Selector.start clusterName .second .second).run
      (labelledHosts [.v4 10 0 0 1, .v4 10 0 0 2])).1 = .ok () := by decide +kernel
  have hlog : ∀ s : Site (Recorder (Labelled Simulation)), SameLog s s := fun _ => rfl
  have hends := Job.ends_run hlog (Selector.start clusterName .second .second)
    (labelledHosts [.v4 10 0 0 1, .v4 10 0 0 2])
  rw [hstarted] at hends
  have hstart : Reachable clusterName .second .second labelled := .start hends
  have hmoves : Step labelled { labelled with site := advancedSite } := .others rfl rfl
  have hok : (Selector.refresh.untilWait advancedSite).1.getLeft? = some (.ok ()) := by decide +kernel
  have hrun : Selector.refresh.untilWait advancedSite = (.inl (.ok ()), advanced.site) :=
    Prod.ext (Sum.getLeft?_eq_some_iff.mp hok) rfl
  exact ((hstart.step hmoves).step (.begins rfl)).step (.succeeds rfl hrun)

theorem nodup_advanced : ∀ d ∈ advanced.found, d.addresses.Nodup := by decide +kernel

theorem reports_advanced : advanced.Reports := by decide +kernel

theorem names_agree_iff_advanced :
    Reachable clusterName .second .second advanced ∧
      (∀ d ∈ advanced.found, d.addresses.Nodup) ∧ advanced.Reports ∧
      ∃ dsn, advanced.site.list = some (dsn, newest advanced.found) ∧
        ((newest advanced.found).map fun r => (r.name, r.dsn, advanced.connectionName r.connection)) =
          [("replica_0", (dsn.withAddress (.v4 10 0 0 2)).text, "replica_1"),
            ("replica_1", (dsn.withAddress (.v4 10 0 0 3)).text, "replica_1")] := by
  obtain ⟨dsn, -, hlist, hmap, -⟩ :=
    names_agree_iff reachable_advanced nodup_advanced reports_advanced
  refine ⟨reachable_advanced, nodup_advanced, reports_advanced, dsn, hlist, ?_⟩
  have haddresses : newestAddresses advanced.found = [.v4 10 0 0 2, .v4 10 0 0 3] := by
    decide +kernel
  have hkept : entered (.v4 10 0 0 2) advanced.found = 1 := by decide +kernel
  have hadded : entered (.v4 10 0 0 3) advanced.found = 1 := by decide +kernel
  rw [hmap, haddresses]
  simp only [List.zipIdx_cons, List.zipIdx_nil, List.map_cons, List.map_nil, hkept, hadded]
  rfl

/-- Connections report the names they were asked for, and yet a replica has another name than its
connection, and two connections of the list have one name. -/
theorem names_clash :
    ∃ w : Watch (Labelled Simulation), Reachable clusterName .second .second w ∧
      (∀ d ∈ w.found, d.addresses.Nodup) ∧ w.Reports ∧
      ¬ (∀ r ∈ newest w.found, r.name = w.connectionName r.connection) ∧
      ¬ ((newest w.found).map fun r => w.connectionName r.connection).Nodup := by
  refine ⟨advanced, reachable_advanced, nodup_advanced, reports_advanced, ?_, ?_⟩
  · decide +kernel
  · decide +kernel

end Watch

end EntityStore
