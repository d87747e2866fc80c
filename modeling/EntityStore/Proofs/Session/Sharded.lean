import EntityStore.Proofs.Model.Registry
import EntityStore.Proofs.Placement.Pruning
import EntityStore.Proofs.Statement.Sharded
import EntityStore.Session.Database
import EntityStore.Session.Simulation

/-!
# Sharded selects of a database

Whatever models a registry keeps already, building a statement comes to parsing the description of the
type and building the statement from the model (`Session.run_buildSelect`, `Session.run_buildDelete`,
`Session.run_buildInsert`, `Database.run_buildSharded`). So a sharded select of a database is the plain
select from each of its targets, and it fails where the plain select does
(`Database.sharded_select_per_target`), at whatever moments the two are built.
-/

namespace EntityStore

open TableModel (ofDescriptor)

variable {β : Type}

theorem Session.run_andThen {α γ : Type} (x : Work β (Except Error α))
    (f : α → Except Error γ) (s : Site β) :
    ((Session.andThen x fun a => .done (f a)).run s).1 = (x.run s).1.bind f := by
  rw [Session.andThen, Job.run_bind]
  cases (x.run s).1 <;> rfl

variable [Driver β] {s : Site β}

/-- The model a session works with, or why there is none. -/
def MappedType.model (t : MappedType) : Except Error TableModel :=
  (ofDescriptor t.descriptor).mapError .schema

theorem MappedType.model_eq_ok_iff {t : MappedType} {m : TableModel} :
    t.model = .ok m ↔ ofDescriptor t.descriptor = .ok m := by
  rw [model]
  cases ofDescriptor t.descriptor with
  | error e => exact ⟨nofun, nofun⟩
  | ok m' => exact ⟨fun h => congrArg _ (Except.ok.inj h), fun h => congrArg _ (Except.ok.inj h)⟩

/-- The model of a record type is that of its own description. -/
theorem Stored.ofDescriptor_of_model {ρ : Type} [Stored ρ] {m : TableModel}
    (h : (Stored.mapped ρ).model = .ok m) : ofDescriptor (Record.descriptor ρ) = .ok m := by
  rw [← Stored.descriptor_mapped]
  exact MappedType.model_eq_ok_iff.1 h

/-- A look-up at a site with a valid registry finds the model of the type's description, and leaves the
registry valid. -/
theorem Site.run_modelOf (hs : s.registry.Valid) (t : MappedType) :
    ((Site.modelOf t : Work β (Except Error TableModel)).run s).1 = t.model ∧
      ((Site.modelOf t : Work β (Except Error TableModel)).run s).2.registry.Valid := by
  have hmodel := hs.map_model_get t
  have hvalid := hs.get t
  rw [MappedType.model, ← hmodel]
  unfold Site.modelOf
  rw [Job.run]
  cases hget : s.registry.get t with
  | mk answer r =>
    rw [hget] at hvalid
    cases answer with
    | error e => exact ⟨rfl, hs⟩
    | ok found =>
      rw [Job.run]
      split
      · rw [Job.run_bind]
        exact ⟨rfl, hvalid⟩
      · exact ⟨rfl, hvalid⟩

theorem Session.run_buildSelect (hs : s.registry.Valid) (t : MappedType) (c : Clauses) :
    ((Session.buildSelect t c : Work β (Except Error Query)).run s).1 =
      t.model.bind fun m => c.select m := by
  rw [Session.buildSelect, Session.run_andThen, (Site.run_modelOf hs t).1]

theorem Session.run_buildDelete (hs : s.registry.Valid) (t : MappedType) (c : Clauses) :
    ((Session.buildDelete t c : Work β (Except Error Query)).run s).1 =
      t.model.bind fun m => c.delete m := by
  rw [Session.buildDelete, Session.run_andThen, (Site.run_modelOf hs t).1]

theorem Session.run_buildInsert {ρ : Type} [Stored ρ] (hs : s.registry.Valid) (session : Session β)
    (i : Insert ρ) :
    ((session.buildInsert ρ i).run s).1 =
      if i.rows.isEmpty then .error (.query .zeroRows)
      else (Stored.mapped ρ).model.bind fun m =>
        i.query session.core.dialect session.core.materializer m := by
  unfold Session.buildInsert
  split
  · rfl
  · rw [Session.entityModel, Session.run_andThen, (Site.run_modelOf hs _).1]

namespace Database

variable {db : Database β} {a : Placement}

theorem run_buildSharded (ha : db.core.scheme = some a) (hs : s.registry.Valid) (t : MappedType)
    (c : Clauses) :
    ((db.buildSharded t c).run s).1 = t.model.bind fun m => c.selectSharded a m := by
  unfold buildSharded
  rw [ha]
  exact (Session.run_andThen _ _ s).trans (by rw [(Site.run_modelOf hs t).1])

/-- A sharded select is the plain select run on each target of its route: it succeeds iff it is routed
and the selects from the targets can be written, and then these are its statements. There is one for
each target, in ascending order, and all have the same arguments. Where the plain select fails, the
sharded one does. -/
theorem sharded_select_per_target (ha : db.core.scheme = some a) (hs : s.registry.Valid)
    {s' : Site β} (hs' : s'.registry.Valid) (t : MappedType) (c : Clauses) :
    (∀ qs, ((db.buildSharded t c).run s).1 = .ok qs ↔
      (∃ m, ofDescriptor t.descriptor = .ok m ∧
        a.route m c.condition = .ok (qs.map (·.1))) ∧
      ∀ p ∈ qs, ((Session.buildSelect t (c.fromTable p.1.text)).run s').1 = .ok p.2) ∧
    (∀ qs, ((db.buildSharded t c).run s).1 = .ok qs →
      TargetSet.Ascending (qs.map (·.1)) ∧ ∀ p ∈ qs, ∀ q ∈ qs, p.2.args = q.2.args) ∧
    ∀ table e, ((Session.buildSelect t (c.fromTable table)).run s').1 = .error e →
      ∃ e', ((db.buildSharded t c).run s).1 = .error e' := by
  simp only [run_buildSharded ha hs, Session.run_buildSelect hs', MappedType.model]
  cases ofDescriptor t.descriptor with
  | error e => exact ⟨fun qs => ⟨nofun, fun h => nomatch h.1⟩, nofun, fun _ _ _ => ⟨_, rfl⟩⟩
  | ok m =>
    refine ⟨fun qs => ?_, fun qs hqs => ?_, fun table e he => ?_⟩
    · simpa [Except.mapError, Except.bind] using Clauses.selectSharded_eq_ok_iff_select
    · obtain ⟨hroute, -⟩ := Clauses.selectSharded_eq_ok_iff_select.1 hqs
      exact ⟨Placement.ascending_route hroute,
        fun p hp q hq => Clauses.args_eq_of_selectSharded hqs hp hq⟩
    · cases hqs : c.selectSharded a m with
      | ok qs => exact absurd hqs (Clauses.selectSharded_ne_ok he)
      | error e' => exact ⟨e', hqs⟩

/-- A database whose orders are split by their user. -/
def orderDatabase : Database Simulation where
  core := { scheme := some HashScheme.orderScheme }
  connection := .single 0

/-- The first orders of two users, without those of some amount. -/
def orderSearch : Clauses where
  conditions := [HashScheme.orderCondition]
  limit := some 5

/-- A condition on a field that there is not, where no route looks. -/
def hiddenSearch : Clauses where
  conditions := [.not (.compare (.column "price") .gt (.value (.int 2)))]

/-- A site at which nothing has been done yet. -/
def newSite : Site Simulation := ⟨{}, none, {}⟩

theorem sharded_select_per_target_orders :
    orderDatabase.core.scheme = some HashScheme.orderScheme.placement ∧
    newSite.registry.Valid ∧
    (∃ qs, ((orderDatabase.buildSharded orderType orderSearch).run newSite).1 = .ok qs ∧
      qs.map (·.1) = [⟨"order_db_1", "order_tab_1"⟩, ⟨"order_db_2", "order_tab_0"⟩] ∧
      ∀ p ∈ qs, ((Session.buildSelect orderType (orderSearch.fromTable p.1.text)).run
        newSite).1 = .ok p.2) ∧
    ∃ e, ((orderDatabase.buildSharded orderType hiddenSearch).run newSite).1 = .error e := by
  have ha : orderDatabase.core.scheme = some HashScheme.orderScheme.placement := rfl
  have hs : newSite.registry.Valid := Registry.valid_empty
  have h := sharded_select_per_target ha hs hs orderType
  have hqs : ∃ qs, ((orderDatabase.buildSharded orderType orderSearch).run newSite).1 = .ok qs :=
    ⟨_, rfl⟩
  obtain ⟨qs, hqs⟩ := hqs
  obtain ⟨⟨m, hm, hroute⟩, hselect⟩ := ((h orderSearch).1 qs).1 hqs
  obtain rfl : orderModel = m := Except.ok.inj (ofDescriptor_orderType.symm.trans hm)
  exact ⟨ha, hs, ⟨qs, hqs, (Except.ok.inj hroute).symm, hselect⟩,
    (h hiddenSearch).2.2 "orders" (.query (.illegalField "price")) rfl⟩

end Database

end EntityStore
