import EntityStore.Error
import EntityStore.Expr

/-!
# Targets and placements

A target is one physical table of one physical database. Sets of targets are kept in ascending order
by database and then by table, so the order in which a set was put together cannot be seen, and no
target stands in a set twice (`TargetSet.Ascending`).

A placement spreads the rows of a logical table over targets by the integers in one of its fields, the
key. It knows all its targets and those that a comparison with the key concerns; it may also refuse
such a comparison.
-/

namespace EntityStore

/-- A physical table. -/
structure Target where
  database : String
  /-- The table in the database. -/
  table : String
deriving DecidableEq, Inhabited

namespace Target

/-- A target as it is written in a statement. -/
def text (t : Target) : String := "`" ++ t.database ++ "`.`" ++ t.table ++ "`"

/-- Targets in the order of their databases, and of their tables in one database. -/
def cmp (a b : Target) : Ordering :=
  (compareOfLessAndEq a.database b.database).then (compareOfLessAndEq a.table b.table)

instance : Std.TransCmp cmp :=
  inferInstanceAs (Std.TransCmp (compareLex (compareOn database) (compareOn table)))

/-- Only equal targets compare as equal. -/
theorem eq_of_cmp_eq {a b : Target} (h : a.cmp b = .eq) : a = b := by
  obtain ⟨hd, ht⟩ := Ordering.then_eq_eq.1 h
  cases a
  cases b
  rw [Target.mk.injEq]
  exact ⟨Std.LawfulEqOrd.eq_of_compare hd, Std.LawfulEqOrd.eq_of_compare ht⟩

/-- The text of a target is never empty. -/
theorem text_ne_empty (t : Target) : t.text ≠ "" := by
  intro h
  have hlist := congrArg String.toList h
  simp [text] at hlist

end Target

/-- A set of targets, in ascending order. -/
abbrev TargetSet := List Target

namespace TargetSet

/-- Each target of a set comes before all that follow it. -/
def Ascending (s : TargetSet) : Prop := s.Pairwise fun a b => a.cmp b = .lt

/-- A set with one more target. -/
def insert (t : Target) : TargetSet → TargetSet
  | [] => [t]
  | a :: rest =>
    match t.cmp a with
    | .lt => t :: a :: rest
    | .eq => a :: rest
    | .gt => a :: insert t rest

def ofList (l : List Target) : TargetSet := l.foldr insert []

/-- The targets in both of two sets. -/
def inter (a b : TargetSet) : TargetSet := a.filter fun t => decide (t ∈ b)

/-- The targets in either of two sets. -/
def union (a b : TargetSet) : TargetSet := a.foldr insert b

/-! ## Members -/

@[simp] theorem mem_insert {t a : Target} {s : TargetSet} : t ∈ insert a s ↔ t = a ∨ t ∈ s := by
  induction s with
  | nil => simp [insert]
  | cons b rest ih =>
    unfold insert
    split
    · exact List.mem_cons
    · next h =>
      rw [Target.eq_of_cmp_eq h, List.mem_cons, or_self_left]
    · rw [List.mem_cons, ih, List.mem_cons, or_left_comm]

theorem mem_inter {a b : TargetSet} {t : Target} : t ∈ inter a b ↔ t ∈ a ∧ t ∈ b := by
  simp [inter]

theorem mem_union {a b : TargetSet} {t : Target} : t ∈ union a b ↔ t ∈ a ∨ t ∈ b := by
  unfold union
  induction a with
  | nil => simp
  | cons x rest ih => rw [List.foldr_cons, mem_insert, ih, List.mem_cons, or_assoc]

@[simp] theorem mem_ofList {l : List Target} {t : Target} : t ∈ ofList l ↔ t ∈ l := by
  show t ∈ union l [] ↔ t ∈ l
  simp [mem_union]

/-! ## Order -/

theorem ascending_nil : Ascending [] := List.Pairwise.nil

theorem ascending_singleton (t : Target) : Ascending [t] := List.pairwise_singleton _ t

theorem Ascending.insert {s : TargetSet} (hs : s.Ascending) (t : Target) :
    (insert t s).Ascending := by
  induction s with
  | nil => exact ascending_singleton t
  | cons a rest ih =>
    obtain ⟨ha, hrest⟩ := List.pairwise_cons.1 hs
    unfold TargetSet.insert
    split
    · next h =>
      refine List.pairwise_cons.2 ⟨fun b hb => ?_, hs⟩
      rcases List.mem_cons.1 hb with rfl | hb
      · exact h
      · exact Std.TransCmp.lt_trans h (ha b hb)
    · exact hs
    · next h =>
      refine List.pairwise_cons.2 ⟨fun b hb => ?_, ih hrest⟩
      rcases mem_insert.1 hb with rfl | hb
      · exact Std.OrientedCmp.gt_iff_lt.1 h
      · exact ha b hb

theorem Ascending.inter {a : TargetSet} (ha : a.Ascending) (b : TargetSet) :
    (inter a b).Ascending :=
  List.Pairwise.filter _ ha

theorem Ascending.union {b : TargetSet} (hb : b.Ascending) (a : TargetSet) :
    (union a b).Ascending := by
  induction a with
  | nil => exact hb
  | cons x rest ih => exact ih.insert x

theorem ascending_ofList (l : List Target) : (ofList l).Ascending := ascending_nil.union l

end TargetSet

/-! ## Placements -/

/-- Where the rows of a logical table are. -/
structure Placement where
  /-- The field the rows are split by. -/
  key : String
  /-- The targets that a comparison of the key with an integer concerns. -/
  targets : Comparison → Int64 → Except QueryError TargetSet
  /-- All targets, put together when they are asked for. -/
  broadcast : Unit → TargetSet
  /-- What a reader is shown of the placement. -/
  display : String
  targets_ascending : ∀ {op v s}, targets op v = .ok s → s.Ascending
  broadcast_ascending : (broadcast ()).Ascending

end EntityStore
