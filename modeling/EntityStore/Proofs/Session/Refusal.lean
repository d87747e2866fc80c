import EntityStore.Proofs.Session.Running
import EntityStore.Proofs.Session.Sharded
import EntityStore.Proofs.Statement.Refusal

/-!
# Bad queries do not leave the session

If a statement cannot be built, the query is at fault. Running such a statement comes to nothing but a
look-up of its model and the failure (`Refused`): no interceptor is run and no connection is asked, so
it makes no difference what these would have done.

1. A model that has been looked up is found again at once (`Site.untilWait_modelOf_again`), so the
   second look-up of a builder changes nothing.
2. What comes behind the look-up decides whether a statement is refused (`Refused.of_model`,
   `Refused.of_next`).
3. `bad_query_refused`: selects, deletes, sharded selects and inserts that cannot be built are refused.
-/

namespace EntityStore

open TableModel (ofDescriptor)

/-! ## Work without waiting -/

theorem Job.untilWait_bind {σ α γ : Type} (x : Job σ α) (f : α → Job σ γ) (s : σ) :
    (x.bind f).untilWait s =
      match x.untilWait s with
      | (.inl a, t) => (f a).untilWait t
      | (.inr rest, t) => (.inr (rest.bind f), t) := by
  induction x generalizing s with
  | done a => rfl
  | read k ih => exact ih s s
  | write t k ih => exact ih t
  | wait ms k ih => rfl

variable {α γ β : Type} {s t : Site β}

theorem Session.untilWait_andThen_ok {x : Work β (Except Error α)} {a : α}
    (h : x.untilWait s = (.inl (.ok a), t)) (f : α → Work β (Except Error γ)) :
    (andThen x f).untilWait s = (f a).untilWait t := by
  rw [andThen, Job.untilWait_bind, h]

theorem Session.untilWait_andThen_error {x : Work β (Except Error α)} {e : Error}
    (h : x.untilWait s = (.inl (.error e), t)) (f : α → Work β (Except Error γ)) :
    (andThen x f).untilWait s = (.inl (.error e), t) := by
  rw [andThen, Job.untilWait_bind, h]
  rfl

variable [Driver β] {ty : MappedType} {m : TableModel} {e : Error}

namespace Site

/-- The state after a look-up. -/
def afterLookUp (ty : MappedType) (s : Site β) : Site β :=
  ((modelOf ty : Work β (Except Error TableModel)).run s).2

/-- A look-up may make a model and note it; it does nothing else. -/
theorem afterLookUp_eq (ty : MappedType) (s : Site β) :
    ∃ registry driver, afterLookUp ty s = { s with registry, driver } ∧
      (driver = s.driver ∨ ∃ n, driver = Driver.note n s.driver) := by
  unfold afterLookUp modelOf
  rw [Job.run]
  cases s.registry.get ty with
  | mk answer r =>
    cases answer with
    | error e => exact ⟨_, _, rfl, .inl rfl⟩
    | ok found =>
      rw [Job.run]
      split
      · exact ⟨_, _, rfl, .inr ⟨_, rfl⟩⟩
      · exact ⟨_, _, rfl, .inl rfl⟩

theorem untilWait_modelOf (hs : s.registry.Valid) (ty : MappedType) :
    (modelOf ty : Work β (Except Error TableModel)).untilWait s =
      (.inl ty.model, afterLookUp ty s) := by
  rw [← (run_modelOf hs ty).1]
  unfold afterLookUp modelOf
  rw [Job.untilWait, Job.run]
  cases s.registry.get ty with
  | mk answer r =>
    cases answer with
    | error e => rfl
    | ok found =>
      rw [Job.untilWait, Job.run]
      split <;> rfl

theorem untilWait_modelOf_found {f : Registry.Found} (h : s.registry.get ty = (.ok f, s.registry))
    (hf : f.isNew = false) :
    (modelOf ty : Work β (Except Error TableModel)).untilWait s = (.inl (.ok f.model), s) := by
  rw [modelOf, Job.untilWait, h]
  dsimp only
  rw [hf]
  rfl

/-- A model that has been looked up is found again, and nothing changes. -/
theorem untilWait_modelOf_again (hs : s.registry.Valid) (hm : ty.model = .ok m) :
    (modelOf ty : Work β (Except Error TableModel)).untilWait (afterLookUp ty s) =
      (.inl (.ok m), afterLookUp ty s) := by
  have hmodel := hs.map_model_get ty
  rw [MappedType.model_eq_ok_iff.1 hm] at hmodel
  cases hget : s.registry.get ty with
  | mk answer r =>
    rw [hget] at hmodel
    cases answer with
    | error e => cases hmodel
    | ok f =>
      cases hmodel
      have hregistry : (afterLookUp ty s).registry = r := by
        unfold afterLookUp modelOf
        rw [Job.run, hget]
        dsimp only
        rw [Job.run]
        split <;> rfl
      have hagain := hs.get_again hget
      rw [← hregistry] at hagain
      exact untilWait_modelOf_found (f := { f with isNew := false }) hagain rfl

end Site

/-! ## Refusals -/

/-- Some work fails at once, and has done nothing but look up a model. -/
def Refused (ty : MappedType) (e : Error) (s : Site β) (x : Work β (Except Error α)) : Prop :=
  x.untilWait s = (.inl (.error e), Site.afterLookUp ty s)

namespace Refused

open Session (andThen)

/-- A type that cannot be mapped is refused, whatever comes behind its look-up. -/
theorem of_model (hs : s.registry.Valid) (h : ty.model = .error e)
    (f : TableModel → Work β (Except Error α)) : Refused ty e s (andThen (Site.modelOf ty) f) := by
  refine Session.untilWait_andThen_error ?_ f
  rw [Site.untilWait_modelOf hs, h]

/-- Where there is a model, what comes behind the look-up decides. -/
theorem of_next (hs : s.registry.Valid) (hm : ty.model = .ok m)
    {f : TableModel → Work β (Except Error α)}
    (hf : (f m).untilWait (Site.afterLookUp ty s) = (.inl (.error e), Site.afterLookUp ty s)) :
    Refused ty e s (andThen (Site.modelOf ty) f) := by
  have hlook := Site.untilWait_modelOf hs ty
  rw [hm] at hlook
  exact (Session.untilWait_andThen_ok hlook f).trans hf

/-- What cannot be built from the model is refused, if what comes behind the look-up fails at once for
the same reason. -/
theorem of_build (hs : s.registry.Valid) {build : TableModel → Except Error γ}
    (h : ty.model.bind build = .error e) {f : TableModel → Work β (Except Error α)}
    (hf : ∀ m, ty.model = .ok m → build m = .error e →
      (f m).untilWait (Site.afterLookUp ty s) = (.inl (.error e), Site.afterLookUp ty s)) :
    Refused ty e s (andThen (Site.modelOf ty) f) := by
  cases hm : ty.model with
  | error e' =>
    rw [hm] at h
    cases h
    exact of_model hs hm f
  | ok m =>
    rw [hm] at h
    exact of_next hs hm (hf m hm h)

end Refused

namespace MappedType

theorem isQueryError_of_model (h : ty.model = .error e) : e.isQueryError = true := by
  rw [model] at h
  cases hd : ofDescriptor ty.descriptor with
  | error e' =>
    rw [hd] at h
    cases h
    rfl
  | ok m =>
    rw [hd] at h
    cases h

theorem isQueryError_of_bind {build : TableModel → Except Error γ}
    (hbuild : ∀ m, ty.model = .ok m → build m = .error e → e.isQueryError = true)
    (h : ty.model.bind build = .error e) : e.isQueryError = true := by
  cases hm : ty.model with
  | error e' =>
    rw [hm] at h
    cases h
    exact isQueryError_of_model hm
  | ok m =>
    rw [hm] at h
    exact hbuild m hm h

end MappedType

/-! ## Builders -/

section Builders

variable {ρ : Type} [Stored ρ] (hs : s.registry.Valid) (ht : t.registry.Valid)

include hs ht

namespace Session

/-- A select that cannot be built is refused for the same reason, by whichever session. -/
theorem refused_select {c : Clauses}
    (h : ((buildSelect (Stored.mapped ρ) c).run s).1 = .error e) :
    e.isQueryError = true ∧ ∀ session : Session β,
      Refused (Stored.mapped ρ) e t (session.select ρ c) := by
  rw [run_buildSelect hs] at h
  refine ⟨MappedType.isQueryError_of_bind (fun m _ => Clauses.isQueryError_of_select) h,
    fun session => .of_build ht h fun m _ hm => ?_⟩
  rw [hm]
  rfl

/-- A delete that cannot be built is refused for the same reason, by whichever session. -/
theorem refused_delete {c : Clauses}
    (h : ((buildDelete (Stored.mapped ρ) c).run s).1 = .error e) :
    e.isQueryError = true ∧ ∀ session : Session β,
      Refused (Stored.mapped ρ) e t (session.delete ρ c) := by
  rw [run_buildDelete hs] at h
  refine ⟨MappedType.isQueryError_of_bind (fun m _ => Clauses.isQueryError_of_delete) h,
    fun session => .of_build ht h fun m _ hm => ?_⟩
  rw [hm]
  rfl

/-- An insert that cannot be built is refused, and never for a value of a record. It is run by looking
its model up first, so an insert without records may be refused for its type. -/
theorem exists_refused_insert {session : Session β} {i : Insert ρ}
    (hi : ∀ r ∈ i.rows, Record.Filled r)
    (h : ((session.buildInsert ρ i).run s).1 = .error e) :
    e.isQueryError = true ∧ ∃ e', e'.isQueryError = true ∧ ∀ session' : Session β,
      session'.core.dialect = session.core.dialect →
      session'.core.materializer = session.core.materializer →
        Refused (Stored.mapped ρ) e' t (session'.insert ρ i) := by
  rw [run_buildInsert hs] at h
  by_cases hempty : i.rows.isEmpty
  · rw [if_pos hempty] at h
    cases h
    refine ⟨rfl, ?_⟩
    cases hm : (Stored.mapped ρ).model with
    | error e' => exact ⟨e', MappedType.isQueryError_of_model hm, fun _ _ _ => .of_model ht hm _⟩
    | ok m =>
      refine ⟨.query .zeroRows, rfl, fun session' _ _ => .of_next ht hm ?_⟩
      rw [buildInsert, if_pos hempty]
      rfl
  · rw [if_neg hempty] at h
    have hclass := MappedType.isQueryError_of_bind
      (fun m hm => Insert.isQueryError_of_query (Stored.ofDescriptor_of_model hm) hi) h
    refine ⟨hclass, e, hclass, fun session' hdialect hmaterializer => ?_⟩
    refine .of_build ht h fun m hm hquery => ?_
    have hbuild : (session'.buildInsert ρ i).untilWait (Site.afterLookUp (Stored.mapped ρ) t) =
        (.inl (.error e), Site.afterLookUp (Stored.mapped ρ) t) := by
      rw [buildInsert, if_neg hempty, hdialect, hmaterializer]
      refine (untilWait_andThen_ok (Site.untilWait_modelOf_again ht hm) _).trans ?_
      rw [hquery]
      rfl
    exact untilWait_andThen_error hbuild _

end Session

namespace Database

/-- A sharded select that cannot be built is refused as a whole, also where some of its statements can
be written. It is run by looking its model up first, so without a placement scheme it may be refused
for its type. -/
theorem exists_refused_selectSharded {db : Database β} {c : Clauses}
    (h : ((db.buildSharded (Stored.mapped ρ) c).run s).1 = .error e) :
    e.isQueryError = true ∧ ∃ e', e'.isQueryError = true ∧ ∀ db' : Database β,
      db'.core.scheme = db.core.scheme →
        Refused (Stored.mapped ρ) e' t (db'.selectSharded ρ c) := by
  cases ha : db.core.scheme with
  | none =>
    rw [buildSharded, ha] at h
    cases h
    refine ⟨rfl, ?_⟩
    cases hm : (Stored.mapped ρ).model with
    | error e' => exact ⟨e', MappedType.isQueryError_of_model hm, fun _ _ => .of_model ht hm _⟩
    | ok m =>
      refine ⟨.query .noShardingAlgorithm, rfl, fun db' hdb' => .of_next ht hm ?_⟩
      rw [buildSharded, hdb']
      rfl
  | some a =>
    rw [run_buildSharded ha hs] at h
    have hclass := MappedType.isQueryError_of_bind
      (fun m _ => Clauses.isQueryError_of_selectSharded) h
    refine ⟨hclass, e, hclass, fun db' hdb' => ?_⟩
    refine .of_build ht h fun m hm hstatements => ?_
    have hbuild : (db'.buildSharded (Stored.mapped ρ) c).untilWait
        (Site.afterLookUp (Stored.mapped ρ) t) =
          (.inl (.error e), Site.afterLookUp (Stored.mapped ρ) t) := by
      rw [buildSharded, hdb']
      refine (Session.untilWait_andThen_ok (Site.untilWait_modelOf_again ht hm) _).trans ?_
      rw [hstatements]
      rfl
    exact Session.untilWait_andThen_error hbuild _

end Database

/-- If a statement cannot be built, be it a select, a delete, a sharded select or an insert of filled
records, then the query is at fault; and whatever the interceptors and the connections of a session
would do, running the statement only looks a model up and fails with the query at fault. -/
theorem bad_query_refused (ρ : Type) [Stored ρ] :
    (∃ registry driver, Site.afterLookUp (Stored.mapped ρ) t = { t with registry, driver } ∧
      (driver = t.driver ∨ ∃ n, driver = Driver.note n t.driver)) ∧
    (∀ c e, ((Session.buildSelect (Stored.mapped ρ) c).run s).1 = .error e →
      e.isQueryError = true ∧ ∀ session : Session β,
        Refused (Stored.mapped ρ) e t (session.select ρ c) ∧
          Refused (Stored.mapped ρ) e t (Session.firstOf (session.select ρ c))) ∧
    (∀ c e, ((Session.buildDelete (Stored.mapped ρ) c).run s).1 = .error e →
      e.isQueryError = true ∧ ∀ session : Session β,
        Refused (Stored.mapped ρ) e t (session.delete ρ c)) ∧
    (∀ (db : Database β) c e, ((db.buildSharded (Stored.mapped ρ) c).run s).1 = .error e →
      e.isQueryError = true ∧ ∃ e', e'.isQueryError = true ∧ ∀ db' : Database β,
        db'.core.scheme = db.core.scheme →
          Refused (Stored.mapped ρ) e' t (db'.selectSharded ρ c)) ∧
    (∀ (session : Session β) (i : Insert ρ), (∀ r ∈ i.rows, Record.Filled r) → ∀ e,
      ((session.buildInsert ρ i).run s).1 = .error e →
        e.isQueryError = true ∧ ∃ e', e'.isQueryError = true ∧ ∀ session' : Session β,
          session'.core.dialect = session.core.dialect →
          session'.core.materializer = session.core.materializer →
            Refused (Stored.mapped ρ) e' t (session'.insert ρ i)) ∧
    ∀ m, (Stored.mapped ρ).model = .ok m → ∀ (k : Materializer) (r : ρ), Record.Filled r →
      ∀ name, (∃ f, m.field? name = some f) → ∃ v, k.readColumn m r name = .ok v := by
  refine ⟨Site.afterLookUp_eq _ t, fun c e h => ?_, fun c e h => ?_, fun db c e h => ?_,
    fun session i hi e h => ?_, fun m hm k r hr name hname => ?_⟩
  · obtain ⟨hclass, hrefused⟩ := Session.refused_select hs ht h
    exact ⟨hclass, fun session =>
      ⟨hrefused session, Session.untilWait_andThen_error (hrefused session) _⟩⟩
  · exact Session.refused_delete hs ht h
  · exact Database.exists_refused_selectSharded hs ht h
  · exact Session.exists_refused_insert hs ht hi h
  · obtain ⟨f, hf⟩ := hname
    exact Insert.exists_readColumn (Stored.ofDescriptor_of_model hm) k hr hf

end Builders

namespace Database

/-- A session with an interceptor that would note each statement. -/
def loggedSession : Session Simulation :=
  { orderDatabase.session with core := { interceptors := [.ofBuiltin .accessLog] } }

/-- An order to be written with a field that orders do not have. -/
def pricedInsert : Insert orderType where
  rows := [⟨[.int 10, .int 3, .null]⟩]
  fields := ["amount", "price"]

theorem bad_query_refused_orders :
    newSite.registry.Valid ∧
      (∃ e, ((Session.buildSelect orderType hiddenSearch).run newSite).1 = .error e ∧
        e.isQueryError = true ∧
          Refused orderType e newSite (loggedSession.select orderType hiddenSearch)) ∧
      (∃ e, ((orderDatabase.buildSharded orderType hiddenSearch).run newSite).1 = .error e ∧
        ∃ e', e'.isQueryError = true ∧
          Refused orderType e' newSite (orderDatabase.selectSharded orderType hiddenSearch)) ∧
      ∃ e, ((loggedSession.buildInsert orderType pricedInsert).run newSite).1 = .error e ∧
        ∃ e', e'.isQueryError = true ∧
          Refused orderType e' newSite (loggedSession.insert orderType pricedInsert) := by
  have hs : newSite.registry.Valid := Registry.valid_empty
  obtain ⟨-, hselect, -, hsharded, hinsert, -⟩ := bad_query_refused hs hs orderType
  refine ⟨hs, ⟨.query (.illegalField "price"), rfl, ?_⟩, ⟨.query (.illegalField "price"), rfl, ?_⟩,
    .query (.illegalField "price"), rfl, ?_⟩
  · obtain ⟨hclass, hrefused⟩ := hselect hiddenSearch _ rfl
    exact ⟨hclass, (hrefused loggedSession).1⟩
  · obtain ⟨-, e', hclass, hrefused⟩ := hsharded orderDatabase hiddenSearch _ rfl
    exact ⟨e', hclass, hrefused orderDatabase rfl⟩
  · have hfilled : ∀ r ∈ pricedInsert.rows, Record.Filled r := by
      intro r hr
      rw [List.mem_singleton.1 hr]
      exact Entity.filled_iff.2 (Nat.le_refl 3)
    obtain ⟨-, e', hclass, hrefused⟩ := hinsert loggedSession pricedInsert hfilled _ rfl
    exact ⟨e', hclass, hrefused loggedSession rfl rfl⟩

end Database

end EntityStore
