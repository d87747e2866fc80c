import EntityStore.Proofs.Placement.Outcome
import EntityStore.Statement.Clauses
import Mathlib.Data.Set.Lattice
import Mathlib.Logic.Relation

/-!
# Routes of rewritten conditions

Conjunctions and disjunctions can be written in many ways: in another order, grouped otherwise,
distributed over each other, with a side repeated. Below a negation anything may change. A route sees
none of this. One rewriting keeps both what decides a route (`HashScheme.routeAlike_of_rewrite`): whether
there is a comparison at fault, and the targets that the condition concerns. Which fault is found may
change, since it is the leftmost one.
-/

namespace EntityStore

/-- One change in how a condition is written. -/
inductive Predicate.Rewrite : Predicate → Predicate → Prop where
  | and_comm (p q : Predicate) : Rewrite (.and p q) (.and q p)
  | or_comm (p q : Predicate) : Rewrite (.or p q) (.or q p)
  | and_assoc (p q r : Predicate) : Rewrite (.and (.and p q) r) (.and p (.and q r))
  | or_assoc (p q r : Predicate) : Rewrite (.or (.or p q) r) (.or p (.or q r))
  | and_or (p q r : Predicate) : Rewrite (.and p (.or q r)) (.or (.and p q) (.and p r))
  | or_and (p q r : Predicate) : Rewrite (.or p (.and q r)) (.and (.or p q) (.or p r))
  | and_self (p : Predicate) : Rewrite (.and p p) p
  | or_self (p : Predicate) : Rewrite (.or p p) p
  /-- Anything may change below a negation. -/
  | not (p q : Predicate) : Rewrite (.not p) (.not q)
  | and_left {p q : Predicate} (r : Predicate) : Rewrite p q → Rewrite (.and p r) (.and q r)
  | and_right {p q : Predicate} (r : Predicate) : Rewrite p q → Rewrite (.and r p) (.and r q)
  | or_left {p q : Predicate} (r : Predicate) : Rewrite p q → Rewrite (.or p r) (.or q r)
  | or_right {p q : Predicate} (r : Predicate) : Rewrite p q → Rewrite (.or r p) (.or r q)
  | compareTruth {p q : Predicate} (l : Operand) (op : Comparison) :
      Rewrite p q → Rewrite (.compareTruth l op p) (.compareTruth l op q)

/-- Two ways to write the same condition, by any number of changes there and back. -/
def Predicate.Rewritten : Predicate → Predicate → Prop := Relation.EqvGen Predicate.Rewrite

namespace Predicate

variable {m : TableModel} {p q : Predicate}

@[simp] theorem fault?_and_eq_none_iff :
    (and p q).fault? m = none ↔ p.fault? m = none ∧ q.fault? m = none := by
  rw [fault?_and, Option.or_eq_none_iff]

@[simp] theorem fault?_or_eq_none_iff :
    (or p q).fault? m = none ↔ p.fault? m = none ∧ q.fault? m = none := by
  rw [fault?_or, Option.or_eq_none_iff]

@[simp] theorem fault?_not : (not p).fault? m = none := rfl

@[simp] theorem fault?_compareTruth_ne_none {l : Operand} {op : Comparison} :
    (compareTruth l op p).fault? m ≠ none := by
  rw [fault?_compareTruth]
  exact Compared.fault?_predicate_ne_none

theorem conjunction_eq_none_iff {conditions : List Predicate} :
    conjunction conditions = none ↔ conditions = [] := by
  cases conditions <;> simp [conjunction]

/-- What holds of a conjunction iff it holds of both sides, holds of a conjunction of many iff it holds
of each. -/
theorem conjunction_iff {P : Predicate → Prop} (hand : ∀ p q, P (and p q) ↔ P p ∧ P q)
    {conditions : List Predicate} (h : conjunction conditions = some p) :
    P p ↔ ∀ q ∈ conditions, P q := by
  cases conditions with
  | nil => cases h
  | cons first rest =>
    cases h
    induction rest generalizing first with
    | nil => simp
    | cons second rest ih =>
      rw [List.foldl_cons, ih, List.forall_mem_cons, hand, List.forall_mem_cons, List.forall_mem_cons,
        and_assoc]

theorem fault?_conjunction {conditions : List Predicate} (h : conjunction conditions = some p) :
    p.fault? m = none ↔ ∀ q ∈ conditions, q.fault? m = none :=
  conjunction_iff (P := fun p => p.fault? m = none) (fun _ _ => fault?_and_eq_none_iff) h

end Predicate

namespace HashScheme

variable {s : HashScheme} {m : TableModel} {p q r : Predicate}

/-- Two conditions agree in what decides a route. -/
structure RouteAlike (s : HashScheme) (m : TableModel) (p q : Predicate) : Prop where
  fault : p.fault? m = none ↔ q.fault? m = none
  reach : s.reach m p = s.reach m q

/-! ## Rewriting -/

theorem routeAlike_of_rewrite (h : p.Rewrite q) : s.RouteAlike m p q := by
  induction h with
  | and_comm p q => exact ⟨by simp [and_comm], Set.inter_comm _ _⟩
  | or_comm p q => exact ⟨by simp [and_comm], Set.union_comm _ _⟩
  | and_assoc p q r => exact ⟨by simp [and_assoc], Set.inter_assoc _ _ _⟩
  | or_assoc p q r => exact ⟨by simp [and_assoc], Set.union_assoc _ _ _⟩
  | and_or p q r =>
    refine ⟨?_, Set.inter_union_distrib_left _ _ _⟩
    simp only [Predicate.fault?_and_eq_none_iff, Predicate.fault?_or_eq_none_iff]
    tauto
  | or_and p q r =>
    refine ⟨?_, Set.union_inter_distrib_left _ _ _⟩
    simp only [Predicate.fault?_and_eq_none_iff, Predicate.fault?_or_eq_none_iff]
    tauto
  | and_self p => exact ⟨by simp, Set.inter_self _⟩
  | or_self p => exact ⟨by simp, Set.union_self _⟩
  | not p q => exact ⟨by simp, rfl⟩
  | and_left r _ ih => exact ⟨by simp [ih.fault], congrArg (· ∩ s.reach m r) ih.reach⟩
  | and_right r _ ih => exact ⟨by simp [ih.fault], congrArg (s.reach m r ∩ ·) ih.reach⟩
  | or_left r _ ih => exact ⟨by simp [ih.fault], congrArg (· ∪ s.reach m r) ih.reach⟩
  | or_right r _ ih => exact ⟨by simp [ih.fault], congrArg (s.reach m r ∪ ·) ih.reach⟩
  | compareTruth l op _ ih => exact ⟨by simp, by simp [reach, concerned]⟩

theorem routeAlike_of_rewritten (h : p.Rewritten q) : s.RouteAlike m p q := by
  induction h with
  | rel p q h => exact routeAlike_of_rewrite h
  | refl p => exact ⟨Iff.rfl, rfl⟩
  | symm p q _ ih => exact ⟨ih.fault.symm, ih.reach.symm⟩
  | trans p q r _ _ hpq hqr => exact ⟨hpq.fault.trans hqr.fault, hpq.reach.trans hqr.reach⟩

theorem mem_reach_conjunction {conditions : List Predicate}
    (h : Predicate.conjunction conditions = some p) {t : Target} :
    t ∈ s.reach m p ↔ ∀ q ∈ conditions, t ∈ s.reach m q :=
  Predicate.conjunction_iff (P := fun p => t ∈ s.reach m p) (fun _ _ => Iff.rfl) h

/-- The order of conditions does not matter for their conjunction. -/
theorem routeAlike_of_perm {conditions others : List Predicate} (h : conditions.Perm others)
    (hp : Predicate.conjunction conditions = some p) (hq : Predicate.conjunction others = some q) :
    s.RouteAlike m p q := by
  constructor
  · rw [Predicate.fault?_conjunction hp, Predicate.fault?_conjunction hq]
    simp only [h.mem_iff]
  · ext t
    rw [mem_reach_conjunction hp, mem_reach_conjunction hq]
    simp only [h.mem_iff]

/-! ## Routes -/

/-- Two routes end alike: with the same targets, both without a data source, or both at a fault. -/
structure EndAlike (a b : Except QueryError TargetSet) : Prop where
  ok : ∀ targets, a = .ok targets ↔ b = .ok targets
  noDataSource : a = .error .noDataSource ↔ b = .error .noDataSource

theorem EndAlike.refl (a : Except QueryError TargetSet) : EndAlike a a :=
  ⟨fun _ => Iff.rfl, Iff.rfl⟩

theorem RouteAlike.candidates_eq (h : s.RouteAlike m p q) (hp : p.fault? m = none) :
    s.placement.candidates m (some p) = s.placement.candidates m (some q) := by
  obtain ⟨a, ha, hmema⟩ := exists_routePredicate_eq_ok (s := s) hp
  obtain ⟨b, hb, hmemb⟩ := exists_routePredicate_eq_ok (s := s) (h.fault.1 hp)
  have hab : a = b := by
    refine (Placement.ascending_routePredicate ha).eq_of_mem_iff
      (Placement.ascending_routePredicate hb) fun t => ?_
    rw [hmema, hmemb, h.reach]
  rw [hab] at ha
  exact ha.trans hb.symm

theorem route_fault {e : QueryError} (h : p.fault? m = some e) :
    (∀ targets, s.route m (some p) ≠ .ok targets) ∧ s.route m (some p) ≠ .error .noDataSource := by
  refine ⟨fun targets hok => ?_, fun hnone => ?_⟩
  · cases (route_eq_error h).symm.trans hok
  · cases (routePredicate_eq_error h).symm.trans (route_some_eq_noDataSource_iff.1 hnone)

theorem RouteAlike.endAlike (h : s.RouteAlike m p q) :
    EndAlike (s.route m (some p)) (s.route m (some q)) := by
  cases hp : p.fault? m with
  | none =>
    unfold route Placement.route
    rw [h.candidates_eq hp]
    exact .refl _
  | some e =>
    obtain ⟨e', hq⟩ : ∃ e', q.fault? m = some e' := by
      rw [← Option.ne_none_iff_exists', Ne, ← h.fault, hp]
      exact Option.some_ne_none e
    obtain ⟨hpok, hpnone⟩ := route_fault (s := s) hp
    obtain ⟨hqok, hqnone⟩ := route_fault (s := s) hq
    exact ⟨fun targets => iff_of_false (hpok targets) (hqok targets), iff_of_false hpnone hqnone⟩

/-- Routes do not depend on how a condition is written, nor on the order of the conditions of a
statement. -/
theorem route_rewritten (s : HashScheme) (m : TableModel) :
    (∀ p q : Predicate, p.Rewritten q → EndAlike (s.route m (some p)) (s.route m (some q))) ∧
    ∀ c d : Clauses, c.conditions.Perm d.conditions →
      EndAlike (s.route m c.condition) (s.route m d.condition) := by
  refine ⟨fun p q h => (routeAlike_of_rewritten h).endAlike, fun c d h => ?_⟩
  unfold Clauses.condition
  cases hc : Predicate.conjunction c.conditions with
  | none =>
    rw [Predicate.conjunction_eq_none_iff] at hc
    rw [hc, List.nil_perm] at h
    rw [h, Predicate.conjunction_nil]
    exact .refl _
  | some p =>
    cases hd : Predicate.conjunction d.conditions with
    | none =>
      rw [Predicate.conjunction_eq_none_iff] at hd
      rw [hd, List.perm_nil] at h
      rw [h] at hc
      cases hc
    | some q => exact (routeAlike_of_perm h hc hd).endAlike

/-- The orders of two users, without those of some amount. -/
def nestedCondition : Predicate :=
  .and (.not (.compare (.column "amount") .eq (.value (.int 7))))
    (.or (.compare (.column "user_id") .eq (.value (.int 10)))
      (.compare (.column "user_id") .eq (.value (.int 13))))

/-- The orders of either user, each without those of another amount. -/
def distributedCondition : Predicate :=
  .or
    (.and (.not (.compare (.column "amount") .eq (.value (.int 8))))
      (.compare (.column "user_id") .eq (.value (.int 13))))
    (.and (.not (.compare (.column "amount") .eq (.value (.int 8))))
      (.compare (.column "user_id") .eq (.value (.int 10))))

theorem rewritten_distributed : nestedCondition.Rewritten distributedCondition :=
  .trans _ _ _ (.rel _ _ (.and_left _ (.not _ (.compare (.column "amount") .eq (.value (.int 8))))))
    (.trans _ _ _ (.rel _ _ (.and_or _ _ _)) (.rel _ _ (.or_comm _ _)))

/-- The orders of one user that are also of another one. -/
def disjointClauses : Clauses where
  conditions := [.compare (.column "user_id") .eq (.value (.int 10)),
    .compare (.column "amount") .lt (.value (.int 3)),
    .compare (.column "user_id") .eq (.value (.int 13))]

/-- The same conditions from the last to the first. -/
def disjointClausesReversed : Clauses where
  conditions := disjointClauses.conditions.reverse

/-- A distributed condition is routed to the targets of the nested one, and conditions that exclude each
other do so in any order. -/
theorem route_rewritten_order :
    nestedCondition.Rewritten distributedCondition ∧
      orderScheme.route orderModel (some distributedCondition) =
        .ok [⟨"order_db_1", "order_tab_1"⟩, ⟨"order_db_2", "order_tab_0"⟩] ∧
      disjointClauses.conditions.Perm disjointClausesReversed.conditions ∧
      orderScheme.route orderModel disjointClausesReversed.condition = .error .noDataSource := by
  obtain ⟨hrewritten, hordered⟩ := route_rewritten orderScheme orderModel
  have hperm : disjointClauses.conditions.Perm disjointClausesReversed.conditions :=
    (List.reverse_perm disjointClauses.conditions).symm
  refine ⟨rewritten_distributed, ?_, hperm, ?_⟩
  · exact ((hrewritten _ _ rewritten_distributed).ok _).1 rfl
  · exact (hordered _ _ hperm).noDataSource.1 rfl

end HashScheme

end EntityStore
