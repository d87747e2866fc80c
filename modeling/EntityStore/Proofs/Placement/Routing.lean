import EntityStore.Placement.Route

/-!
# What a route is made of

A route is found from the comparisons upwards (`Placement.routePredicate_and_eq_ok_iff`,
`Placement.routePredicate_or_eq_ok_iff`), and whatever the placement is, it ends in a set with at
least one target, in ascending order (`Placement.ascending_route`, `Placement.route_eq_ok_iff`).
-/

namespace EntityStore.Placement

variable {a : Placement} {m : TableModel}

/-! ## Comparisons -/

/-- A comparison with a literal is routed only if it has a known column on its left; then its targets
are those of the key's value, or all. -/
theorem routeCompare_some_eq_ok {l : Operand} {op : Comparison} {v : Value} {targets : TargetSet}
    (h : a.routeCompare m l op (some v) = .ok targets) :
    ∃ name g, l = .column name ∧ m.field? name = some g ∧
      (targets = a.broadcast () ∨
        a.isKey g = true ∧ ∃ i, v = .int i ∧ a.targets op i = .ok targets) := by
  cases l with
  | aggregate f name => cases h
  | column name =>
    cases hg : m.field? name with
    | none => simp [routeCompare, hg] at h
    | some g =>
      refine ⟨name, g, rfl, hg, ?_⟩
      cases hk : a.isKey g with
      | false =>
        left
        simpa [routeCompare, hg, hk] using h.symm
      | true =>
        cases v with
        | int i => exact .inr ⟨rfl, i, rfl, by simpa [routeCompare, hg, hk, Value.asInt?] using h⟩
        | _ =>
          left
          simpa [routeCompare, hg, hk, Value.asInt?] using h.symm

theorem routeCompare_none_ne_ok {l : Operand} {op : Comparison} {targets : TargetSet} :
    a.routeCompare m l op none ≠ .ok targets := by
  intro h
  cases l with
  | aggregate f name => cases h
  | column name =>
    unfold routeCompare at h
    cases hg : m.field? name <;> simp [hg] at h

theorem ascending_routeCompare {l : Operand} {op : Comparison} {v : Option Value}
    {targets : TargetSet} (h : a.routeCompare m l op v = .ok targets) : targets.Ascending := by
  cases v with
  | none => exact absurd h routeCompare_none_ne_ok
  | some v =>
    obtain ⟨-, -, -, -, rfl | ⟨-, i, -, hi⟩⟩ := routeCompare_some_eq_ok h
    · exact a.broadcast_ascending
    · exact a.targets_ascending hi

/-! ## Conditions -/

theorem routePredicate_and_eq_ok_iff {p q : Predicate} {targets : TargetSet} :
    a.routePredicate m (.and p q) = .ok targets ↔
      ∃ s t, a.routePredicate m p = .ok s ∧ a.routePredicate m q = .ok t ∧ s.inter t = targets := by
  rw [routePredicate]
  cases a.routePredicate m p <;> cases a.routePredicate m q <;> simp

theorem routePredicate_or_eq_ok_iff {p q : Predicate} {targets : TargetSet} :
    a.routePredicate m (.or p q) = .ok targets ↔
      ∃ s t, a.routePredicate m p = .ok s ∧ a.routePredicate m q = .ok t ∧ s.union t = targets := by
  rw [routePredicate]
  cases a.routePredicate m p <;> cases a.routePredicate m q <;> simp

/-- A conjunction fails as its leftmost failing side does. -/
theorem routePredicate_and_eq_error_iff {p q : Predicate} {e : QueryError} :
    a.routePredicate m (.and p q) = .error e ↔
      a.routePredicate m p = .error e ∨
        (∃ s, a.routePredicate m p = .ok s) ∧ a.routePredicate m q = .error e := by
  rw [routePredicate]
  cases a.routePredicate m p <;> cases a.routePredicate m q <;> simp

/-- A disjunction fails as its leftmost failing side does. -/
theorem routePredicate_or_eq_error_iff {p q : Predicate} {e : QueryError} :
    a.routePredicate m (.or p q) = .error e ↔
      a.routePredicate m p = .error e ∨
        (∃ s, a.routePredicate m p = .ok s) ∧ a.routePredicate m q = .error e := by
  rw [routePredicate]
  cases a.routePredicate m p <;> cases a.routePredicate m q <;> simp

theorem ascending_routePredicate {p : Predicate} {targets : TargetSet}
    (h : a.routePredicate m p = .ok targets) : targets.Ascending := by
  induction p generalizing targets with
  | compare l op t => cases t <;> exact ascending_routeCompare h
  | compareTruth l op q ih => exact ascending_routeCompare h
  | and p q ihp ihq =>
    obtain ⟨s, t, hs, -, rfl⟩ := routePredicate_and_eq_ok_iff.1 h
    exact (ihp hs).inter t
  | or p q ihp ihq =>
    obtain ⟨s, t, -, ht, rfl⟩ := routePredicate_or_eq_ok_iff.1 h
    exact (ihq ht).union s
  | not p ih =>
    cases h
    exact a.broadcast_ascending

/-! ## Routes -/

theorem route_eq_ok_iff {p : Option Predicate} {targets : TargetSet} :
    a.route m p = .ok targets ↔ a.candidates m p = .ok targets ∧ targets ≠ [] := by
  unfold route
  cases h : a.candidates m p with
  | error e => simp
  | ok found =>
    cases found with
    | nil => simp +contextual
    | cons t rest =>
      simp only [Except.ok.injEq, iff_self_and]
      rintro rfl
      exact List.cons_ne_nil t rest

/-- The targets of a route are in ascending order, so there is no target twice. -/
theorem ascending_route {p : Option Predicate} {targets : TargetSet}
    (h : a.route m p = .ok targets) : targets.Ascending := by
  have hc := (route_eq_ok_iff.1 h).1
  cases p with
  | none =>
    cases hc
    exact a.broadcast_ascending
  | some p => exact ascending_routePredicate hc

end EntityStore.Placement
