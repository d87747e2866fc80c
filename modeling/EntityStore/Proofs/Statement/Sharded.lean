import EntityStore.Proofs.Placement.Routing
import EntityStore.Proofs.Statement.Filling
import EntityStore.Statement.Clauses

/-!
# One statement per target

A sharded select has one statement for each target it is routed to, in their order, and each is the
select from that target (`Clauses.selectSharded_eq_ok_iff_select`).

The route and the statements look at a condition with different eyes: what stands below a negation is
not routed, and comparisons of aggregates can be written but not routed. But the table is all that the
statements differ in, and it can always be written. So a select that fails from one table fails from
every table, and since a route has at least one target, the sharded select then fails too
(`Clauses.selectSharded_ne_ok`).
-/

namespace EntityStore

namespace Clauses

variable {c : Clauses} {m : TableModel}

theorem selectFrom_cons_eq_ok_iff {t : Target} {rest : TargetSet} {qs : List (Target × Query)} :
    c.selectFrom m (t :: rest) = .ok qs ↔
      ∃ q tail, (c.selectTemplate t.text).toQuery m = .ok q ∧ c.selectFrom m rest = .ok tail ∧
        (t, q) :: tail = qs := by
  rw [selectFrom]
  cases (c.selectTemplate t.text).toQuery m <;> cases c.selectFrom m rest <;> simp

/-- The statements are the selects from the targets, in the order of the targets. -/
theorem selectFrom_eq_ok_iff {targets : TargetSet} {qs : List (Target × Query)} :
    c.selectFrom m targets = .ok qs ↔
      qs.map (·.1) = targets ∧ ∀ p ∈ qs, (c.selectTemplate p.1.text).toQuery m = .ok p.2 := by
  induction targets generalizing qs with
  | nil =>
    rw [selectFrom, Except.ok.injEq, List.map_eq_nil_iff]
    constructor
    · rintro rfl
      exact ⟨rfl, nofun⟩
    · rintro ⟨rfl, -⟩
      rfl
  | cons t rest ih =>
    rw [selectFrom_cons_eq_ok_iff]
    constructor
    · rintro ⟨q, tail, hq, htail, rfl⟩
      obtain ⟨hmap, hall⟩ := ih.1 htail
      rw [List.map_cons, hmap]
      exact ⟨rfl, List.forall_mem_cons.2 ⟨hq, hall⟩⟩
    · rintro ⟨hmap, hall⟩
      obtain ⟨p, tail, rfl, rfl, hrest⟩ := List.map_eq_cons_iff.1 hmap
      obtain ⟨hp, htail⟩ := List.forall_mem_cons.1 hall
      exact ⟨p.2, tail, hp, ih.2 ⟨hrest, htail⟩, rfl⟩

/-- A sharded select succeeds iff it is routed and all of its statements can be written. -/
theorem selectSharded_eq_ok_iff {a : Placement} {qs : List (Target × Query)} :
    c.selectSharded a m = .ok qs ↔
      a.route m c.condition = .ok (qs.map (·.1)) ∧
        ∀ p ∈ qs, (c.selectTemplate p.1.text).toQuery m = .ok p.2 := by
  unfold selectSharded
  cases a.route m c.condition with
  | error e => simp
  | ok targets =>
    simp only [selectFrom_eq_ok_iff, Except.ok.injEq]
    rw [eq_comm]

/-! ## The table of a select -/

theorem selectTemplate_fromTable (x y : String) :
    (c.fromTable x).selectTemplate y = c.selectTemplate y :=
  rfl

/-- Which table is named does not matter for what else can be written. -/
theorem failure?_selectTemplate (x y : String) :
    (c.selectTemplate x).failure? m = (c.selectTemplate y).failure? m :=
  rfl

theorem args_selectTemplate_table (x y : String) :
    (c.selectTemplate x).args = (c.selectTemplate y).args :=
  rfl

theorem select_fromTable {table : String} (h : table ≠ "") :
    (c.fromTable table).select m = (c.selectTemplate table).toQuery m := by
  have ht : (c.fromTable table).tableText m = table := by
    simp [fromTable, tableText, h]
  rw [select, ht, selectTemplate_fromTable]

/-- A select fails from one table as from another. -/
theorem select_fromTable_eq_error_iff {x y : String} {e : Error} :
    (c.fromTable x).select m = .error e ↔ (c.selectTemplate y).failure? m = some e := by
  rw [select, Template.toQuery_eq, selectTemplate_fromTable, c.failure?_selectTemplate _ y]
  cases (c.selectTemplate y).failure? m <;> simp

/-! ## Sharded selects -/

variable {a : Placement} {qs : List (Target × Query)}

/-- A sharded select succeeds iff it is routed and the selects from its targets can be written. -/
theorem selectSharded_eq_ok_iff_select :
    c.selectSharded a m = .ok qs ↔
      a.route m c.condition = .ok (qs.map (·.1)) ∧
        ∀ p ∈ qs, (c.fromTable p.1.text).select m = .ok p.2 := by
  simp only [selectSharded_eq_ok_iff, select_fromTable (Target.text_ne_empty _)]

/-- The statements of a sharded select have the same arguments. -/
theorem args_eq_of_selectSharded (h : c.selectSharded a m = .ok qs) {p q : Target × Query}
    (hp : p ∈ qs) (hq : q ∈ qs) : p.2.args = q.2.args := by
  have hall := (selectSharded_eq_ok_iff.1 h).2
  obtain ⟨-, -, hargs⟩ := Template.toQuery_eq_ok_iff.1 (hall p hp)
  obtain ⟨-, -, hargs'⟩ := Template.toQuery_eq_ok_iff.1 (hall q hq)
  rw [hargs, hargs', c.args_selectTemplate_table p.1.text q.1.text]

/-- If the select from some table fails, the sharded one does. -/
theorem selectSharded_ne_ok {table : String} {e : Error}
    (h : (c.fromTable table).select m = .error e) : c.selectSharded a m ≠ .ok qs := by
  intro hs
  obtain ⟨hroute, hall⟩ := selectSharded_eq_ok_iff.1 hs
  -- There is a target, and the failure of the select does not depend on which.
  have hne : qs ≠ [] := by
    rintro rfl
    exact (Placement.route_eq_ok_iff.1 hroute).2 rfl
  obtain ⟨p, rest, rfl⟩ := List.exists_cons_of_ne_nil hne
  obtain ⟨hf, -⟩ := Template.toQuery_eq_ok_iff.1 (hall p (List.mem_cons_self ..))
  rw [select_fromTable_eq_error_iff.1 h] at hf
  cases hf

end Clauses

end EntityStore
