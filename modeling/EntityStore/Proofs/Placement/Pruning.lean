import EntityStore.Proofs.Model.Entity
import EntityStore.Proofs.Placement.Routing
import EntityStore.Proofs.Placement.TargetSet
import EntityStore.Sqlite.Condition

/-!
# Pruning keeps every row

`Predicate.truth` gives a condition its meaning on one row: the comparisons may say anything
(`Reading`), and `AND`, `OR` and `NOT` treat what is not known as an engine does. A row that
satisfies a condition lies in one of the targets the condition is routed to (`place_mem_route`),
provided that equality of the key with an integer holds of no row with another key
(`StoredRow.Faithful`).

The invariant of the recursion is `place_mem_routePredicate`: where a part of the condition is true
of the row, the targets of that part hold the place of the row's key. A set that becomes empty on
the way therefore belongs to a part that is true of no row, which is why an empty set in the middle
of a condition needs no error.
-/

namespace EntityStore

open Sqlite (Truth)

/-! ## The meaning of a condition -/

/-- What each comparison says about one row. -/
abbrev Reading := Operand → Comparison → Expr → Truth

/-- What a condition says about one row. -/
def Predicate.truth (r : Reading) : Predicate → Truth
  | compare l op t => r l op (.term t)
  | compareTruth l op p => r l op (.predicate p)
  | and p q => (p.truth r).and (q.truth r)
  | or p q => (p.truth r).or (q.truth r)
  | not p => (p.truth r).not

/-- A row as conditions see it. -/
structure StoredRow where
  key : Int64
  /-- What each comparison says about it. -/
  reading : Reading

/-- Equality of the field `f` with an integer holds of the row only if that integer is its key. -/
def StoredRow.Faithful (row : StoredRow) (m : TableModel) (f : Field) : Prop :=
  ∀ name v, m.field? name = some f →
    row.reading (.column name) .eq (.term (.value (.int v))) = some true → row.key = v

/-- The field `f` is the only one of a model that a scheme can split by. -/
structure HashScheme.IsKeyOf (s : HashScheme) (m : TableModel) (f : Field) : Prop where
  mem : f ∈ m.fields
  isKey : s.isKey f = true
  unique : ∀ g ∈ m.fields, s.isKey g = true → g = f

theorem Sqlite.Truth.and_eq_true_iff {a b : Truth} :
    a.and b = some true ↔ a = some true ∧ b = some true := by
  rcases a with _ | _ | _ <;> rcases b with _ | _ | _ <;> decide

theorem Sqlite.Truth.or_eq_true_iff {a b : Truth} :
    a.or b = some true ↔ a = some true ∨ b = some true := by
  rcases a with _ | _ | _ <;> rcases b with _ | _ | _ <;> decide

namespace HashScheme

variable {s : HashScheme} {m : TableModel} {f : Field} {row : StoredRow}

/-! ## Comparisons -/

theorem routeCompare_ne_noDataSource {l : Operand} {op : Comparison} {v : Option Value} :
    s.routeCompare m l op v ≠ .error .noDataSource := by
  intro h
  unfold routeCompare Placement.routeCompare at h
  repeat' split at h
  all_goals cases h

/-- The targets of a comparison that is true of a row hold the place of the row's key. -/
theorem place_mem_routeCompare (hf : s.IsKeyOf m f) (hrow : row.Faithful m f) {l : Operand}
    {op : Comparison} {v : Value} {targets : TargetSet}
    (h : s.routeCompare m l op (some v) = .ok targets)
    (ht : row.reading l op (.term (.value v)) = some true) : s.place row.key ∈ targets := by
  obtain ⟨name, g, rfl, hg, rfl | ⟨hk, i, rfl, hi⟩⟩ := Placement.routeCompare_some_eq_ok h
  · exact place_mem_broadcast s row.key
  · cases hi
    cases op with
    | eq =>
      -- The only field that counts as the key is `f`, and of `f` the row is faithful.
      have hgf : g = f := hf.unique g (TableModel.field?_mem hg) hk
      rw [hgf] at hg
      rw [hrow name i hg ht]
      exact List.mem_singleton_self _
    | lt => exact place_mem_broadcast s row.key
    | gt => exact place_mem_broadcast s row.key

/-! ## Conditions -/

/-- The targets of a condition that is true of a row hold the place of the row's key. -/
theorem place_mem_routePredicate (hf : s.IsKeyOf m f) (hrow : row.Faithful m f) (p : Predicate) :
    ∀ {targets : TargetSet}, s.routePredicate m p = .ok targets →
      p.truth row.reading = some true → s.place row.key ∈ targets := by
  induction p with
  | compare l op t =>
    intro targets h ht
    cases t with
    | value v => exact place_mem_routeCompare hf hrow h ht
    | operand o => exact absurd h Placement.routeCompare_none_ne_ok
    | order d name => exact absurd h Placement.routeCompare_none_ne_ok
  | compareTruth l op q ih =>
    intro targets h ht
    exact absurd h Placement.routeCompare_none_ne_ok
  | and p q ihp ihq =>
    intro targets h ht
    obtain ⟨a, b, ha, hb, rfl⟩ := Placement.routePredicate_and_eq_ok_iff.1 h
    obtain ⟨hp, hq⟩ := Truth.and_eq_true_iff.1 ht
    exact TargetSet.mem_inter.2 ⟨ihp ha hp, ihq hb hq⟩
  | or p q ihp ihq =>
    intro targets h ht
    obtain ⟨a, b, ha, hb, rfl⟩ := Placement.routePredicate_or_eq_ok_iff.1 h
    exact TargetSet.mem_union.2 ((Truth.or_eq_true_iff.1 ht).imp (ihp ha) (ihq hb))
  | not p ih =>
    intro targets h ht
    cases h
    exact place_mem_broadcast s row.key

/-- That no targets are left is found out at the end only. -/
theorem routePredicate_ne_noDataSource (p : Predicate) :
    s.routePredicate m p ≠ .error .noDataSource := by
  induction p with
  | compare l op t => cases t <;> exact routeCompare_ne_noDataSource
  | compareTruth l op q ih => exact routeCompare_ne_noDataSource
  | and p q ihp ihq =>
    intro h
    exact (Placement.routePredicate_and_eq_error_iff.1 h).elim ihp fun h => ihq h.2
  | or p q ihp ihq =>
    intro h
    exact (Placement.routePredicate_or_eq_error_iff.1 h).elim ihp fun h => ihq h.2
  | not p ih => exact nofun

theorem route_some_eq_noDataSource_iff {p : Predicate} :
    s.route m (some p) = .error .noDataSource ↔ s.routePredicate m p = .ok [] := by
  have hne := routePredicate_ne_noDataSource (s := s) (m := m) p
  unfold route Placement.route Placement.candidates
  cases h : s.routePredicate m p with
  | error e =>
    rw [h] at hne
    simpa [h] using hne
  | ok found => cases found <;> simp [h]

/-- No row is lost: a row that satisfies a condition lies in a target the condition is routed to,
and if there is no such target, no row satisfies it. -/
theorem place_mem_route (hf : s.IsKeyOf m f) (hrow : row.Faithful m f) (p : Predicate) :
    (∀ targets, s.route m (some p) = .ok targets → p.truth row.reading = some true →
      ∀ t ∈ s.targets .eq row.key, t ∈ targets) ∧
    (s.route m (some p) = .error .noDataSource → p.truth row.reading ≠ some true) := by
  constructor
  · intro targets h ht t hmem
    rw [List.mem_singleton.1 hmem]
    exact place_mem_routePredicate hf hrow p (Placement.route_eq_ok_iff.1 h).1 ht
  · intro h ht
    have hmem := place_mem_routePredicate hf hrow p (route_some_eq_noDataSource_iff.1 h) ht
    exact List.not_mem_nil hmem

/-- Orders split by their user over four databases with two tables each. -/
def orderScheme : HashScheme where
  key := "user_id"
  database := .sharded "order_db" 4
  table := .sharded "order_tab" 2
  key_ne := by decide
  database_valid := by decide
  table_valid := by decide

/-- An order of the user 13, of which nothing else is known. -/
def orderRow : StoredRow where
  key := 13
  reading
    | .column "user_id", .eq, .term (.value (.int v)) => some (v == 13)
    | .column "amount", .lt, _ => some true
    | _, _, _ => none

/-- The orders of two users, without those of some amount. -/
def orderCondition : Predicate :=
  .and
    (.or (.compare (.column "user_id") .eq (.value (.int 10)))
      (.compare (.column "user_id") .eq (.value (.int 13))))
    (.compare (.column "amount") .lt (.value (.int 3)))

/-- The order of the user 13 lies in one of the two targets out of eight that its condition is
routed to. -/
theorem place_mem_route_order :
    orderScheme.IsKeyOf orderModel orderKey ∧ orderRow.Faithful orderModel orderKey ∧
      orderScheme.route orderModel (some orderCondition) =
        .ok [⟨"order_db_1", "order_tab_1"⟩, ⟨"order_db_2", "order_tab_0"⟩] ∧
      orderCondition.truth orderRow.reading = some true ∧
      ∀ t ∈ orderScheme.targets .eq 13,
        t ∈ [⟨"order_db_1", "order_tab_1"⟩, ⟨"order_db_2", "order_tab_0"⟩] := by
  have hf : orderScheme.IsKeyOf orderModel orderKey := ⟨by decide, by decide, by decide⟩
  have hrow : orderRow.Faithful orderModel orderKey := by
    intro name v hname h
    obtain rfl : "user_id" = name := TableModel.field?_name hname
    have hv : some (v == 13) = some true := h
    exact (beq_iff_eq.1 (Option.some.inj hv)).symm
  exact ⟨hf, hrow, rfl, rfl, (place_mem_route hf hrow orderCondition).1 _ rfl rfl⟩

end HashScheme

end EntityStore
