import EntityStore.Proofs.Statement.Readability
import EntityStore.Proofs.Statement.Writable

/-!
# Reading conditions back

Operands, terms and conditions are readable, a condition in front of anything but the word of a
direction (`Predicate.readable`): the two sides of a comparison are told apart by what they begin
with, and a side that is a condition itself stands in parentheses. So no two conditions have the
same text and arguments.
-/

namespace EntityStore

open Template

variable {m : TableModel}

theorem Apart.symm {v w : String} (h : Apart v w) : Apart w v := ⟨h.2, h.1⟩

/-- Texts that begin with words that are apart differ. -/
theorem Rest.ne_of_begins {r r' : Rest} {v w : String} (hv : r.Begins [v]) (hw : r'.Begins [w])
    (h : Apart v w) : r ≠ r' := by
  rintro rfl
  obtain ⟨_, hmem, hr⟩ := hv
  rw [List.mem_singleton.1 hmem] at hr
  refine hw.not_prefix ?_ hr
  simpa using h

theorem begins_before_column {o f c : String} (h : failure? m [.column o f c] = none) (r : Rest) :
    (before m [.column o f c] r).Begins [o] := by
  obtain ⟨g, hg⟩ := Piece.failure?_column_eq_none_iff.1 (failure?_cons_eq_none_iff.1 h).1
  exact ⟨o, List.mem_singleton_self o, by simp [before, Piece.chars_column hg]⟩

/-- The end of the text behind a column may as well stand behind the piece. -/
theorem before_column_append {o f c d : String} (h : failure? m [.column o f c] = none) (r : Rest) :
    before m [.column o f (c ++ d)] r = before m [.column o f c] (d.toList ++ r.1, r.2) := by
  obtain ⟨g, hg⟩ := Piece.failure?_column_eq_none_iff.1 (failure?_cons_eq_none_iff.1 h).1
  simp [before, Piece.chars_column hg]

/-! ## Operands -/

theorem Aggregate.apart_quote (a : Aggregate) : Apart "`" (a.name ++ "(`") := by
  cases a <;> decide

theorem Aggregate.apart {a b : Aggregate} (h : a ≠ b) :
    Apart (a.name ++ "(`") (b.name ++ "(`") := by
  revert h
  cases a <;> cases b <;> decide

namespace Operand

/-- What an operand begins with. -/
def opening : Operand → String
  | column _ => "`"
  | aggregate a _ => a.name ++ "(`"

theorem begins (o : Operand) (h : o.template.failure? m = none) (r : Rest) :
    (o.template.before m r).Begins [o.opening] := by
  cases o with
  | column f => exact begins_before_column h r
  | aggregate a f => exact begins_before_column h r

/-- An operand does not begin as a placeholder, a parenthesis or a negation does. -/
theorem apart (o : Operand) {w : String} (hw : w ∈ ["?", "(", " NOT "]) : Apart w o.opening := by
  simp only [List.mem_cons, List.not_mem_nil, or_false] at hw
  cases o with
  | column f =>
    show Apart w "`"
    rcases hw with rfl | rfl | rfl <;> decide
  | aggregate a f =>
    show Apart w (a.name ++ "(`")
    rcases hw with rfl | rfl | rfl <;> cases a <;> decide

theorem apart_placeholder (o : Operand) : Apart "?" o.opening := o.apart (by decide)

theorem apart_parenthesis (o : Operand) : Apart "(" o.opening := o.apart (by decide)

theorem apart_not (o : Operand) : Apart " NOT " o.opening := o.apart (by decide)

theorem readable (hm : m.Unambiguous) (hq : m.FreeOf '`') (stop : Rest → Prop) :
    Readable m stop Operand.template := by
  intro x y hx hy r r' hr hr' h
  cases x with
  | column f =>
    cases y with
    | column g =>
      obtain ⟨rfl, hrest⟩ := readable_column hm hq stop "`" "" f g hx hy r r' hr hr' h
      exact ⟨rfl, hrest⟩
    | aggregate b g =>
      exact absurd h (Rest.ne_of_begins (begins _ hx r) (begins _ hy r') b.apart_quote)
  | aggregate a f =>
    cases y with
    | column g =>
      exact absurd h (Rest.ne_of_begins (begins _ hx r) (begins _ hy r') a.apart_quote.symm)
    | aggregate b g =>
      by_cases hab : a = b
      · subst hab
        obtain ⟨rfl, hrest⟩ :=
          readable_column hm hq stop (a.name ++ "(`") ")" f g hx hy r r' hr hr' h
        exact ⟨rfl, hrest⟩
      · exact absurd h (Rest.ne_of_begins (begins _ hx r) (begins _ hy r') (Aggregate.apart hab))

end Operand

/-! ## Terms -/

/-- What is left does not go on with a direction. -/
def Rest.NoDirection (r : Rest) : Prop := ∀ d : Direction, ¬ (" " ++ d.name).toList <+: r.1

theorem Rest.Begins.noDirection {words : List String} {r : Rest} (h : r.Begins words)
    (hw : ∀ w ∈ words, Apart " ASC" w ∧ Apart " DESC" w) : r.NoDirection := by
  intro d
  cases d with
  | asc => exact h.not_prefix fun w hmem => (hw w hmem).1
  | desc => exact h.not_prefix fun w hmem => (hw w hmem).2

namespace Term

/-- What a term begins with. -/
def opening : Term → String
  | operand o => o.opening
  | value _ => "?"
  | order _ _ => "`"

/-- An order is known as its column is. -/
theorem failure?_order {d : Direction} {f : String} (h : (order d f).template.failure? m = none) :
    (quotedColumn f).failure? m = none :=
  failure?_quotedColumn_eq_none_iff.2
    (Piece.failure?_column_eq_none_iff.1 (failure?_cons_eq_none_iff.1 h).1)

theorem begins (t : Term) (h : t.template.failure? m = none) (r : Rest) :
    (t.template.before m r).Begins [t.opening] := by
  cases t with
  | operand o => exact o.begins h r
  | value v => exact ⟨"?", List.mem_singleton_self _, by simp [before, template]⟩
  | order d f => exact begins_before_column h r

/-- An order is its column, and then the direction. -/
theorem before_order {d : Direction} {f : String} (h : (order d f).template.failure? m = none)
    (r : Rest) : (order d f).template.before m r =
      (quotedColumn f).before m ((" " ++ d.name).toList ++ r.1, r.2) := by
  have hclosing : "` " ++ d.name = "`" ++ (" " ++ d.name) := by
    rw [← String.append_assoc]
    rfl
  rw [template, hclosing]
  exact before_column_append (failure?_order h) r

/-- A column in front of what goes on with no direction is no order. -/
theorem before_column_ne_before_order (hm : m.Unambiguous) (hq : m.FreeOf '`') {f g : String}
    {d : Direction} (hf : (quotedColumn f).failure? m = none)
    (hg : (order d g).template.failure? m = none) {r r' : Rest} (hr : r.NoDirection) :
    (quotedColumn f).before m r ≠ (order d g).template.before m r' := by
  intro h
  rw [before_order hg] at h
  obtain ⟨-, hrest⟩ := readable_column hm hq (fun _ => True) "`" "" f g hf (failure?_order hg) _ _
    trivial trivial h
  exact hr d ⟨r'.1, (congrArg Prod.fst hrest).symm⟩

/-- A term does not begin with a parenthesis. -/
theorem apart_parenthesis (t : Term) : Apart "(" t.opening := by
  cases t with
  | operand o => exact o.apart_parenthesis
  | value v => exact (by decide : Apart "(" "?")
  | order d f => exact (by decide : Apart "(" "`")

theorem readable_order (hm : m.Unambiguous) (hq : m.FreeOf '`') (stop : Rest → Prop) :
    Readable m stop fun o : Direction × String => (order o.1 o.2).template := by
  rintro ⟨d, f⟩ ⟨e, g⟩ hf hg r r' _ _ h
  rw [before_order hf, before_order hg] at h
  obtain ⟨rfl, hrest⟩ := readable_column hm hq (fun _ => True) "`" "" f g (failure?_order hf)
    (failure?_order hg) _ _ trivial trivial h
  obtain ⟨htext, hargs⟩ := Prod.mk.inj hrest
  have hd : d = e := by
    cases d <;> cases e <;> first | rfl | exact absurd htext (by simp [Direction.name])
  subst hd
  exact ⟨rfl, Prod.ext (List.append_cancel_left htext) hargs⟩

theorem readable (hm : m.Unambiguous) (hq : m.FreeOf '`') :
    Readable m Rest.NoDirection Term.template := by
  intro x y hx hy r r' hr hr' h
  cases x with
  | operand o =>
    cases y with
    | operand o' =>
      obtain ⟨rfl, hrest⟩ := Operand.readable hm hq Rest.NoDirection o o' hx hy r r' hr hr' h
      exact ⟨rfl, hrest⟩
    | value v =>
      exact absurd h.symm
        (Rest.ne_of_begins (begins _ hy r') (begins _ hx r) o.apart_placeholder)
    | order d g =>
      cases o with
      | column f => exact absurd h (before_column_ne_before_order hm hq hx hy hr)
      | aggregate a f =>
        exact absurd h (Rest.ne_of_begins (begins _ hx r) (begins _ hy r') a.apart_quote.symm)
  | value v =>
    cases y with
    | operand o =>
      exact absurd h (Rest.ne_of_begins (begins _ hx r) (begins _ hy r') o.apart_placeholder)
    | value w =>
      obtain ⟨rfl, hrest⟩ := readable_argument Rest.NoDirection v w hx hy r r' hr hr' h
      exact ⟨rfl, hrest⟩
    | order d g =>
      exact absurd h
        (Rest.ne_of_begins (begins _ hx r) (begins _ hy r') (by decide : Apart "?" "`"))
  | order d f =>
    cases y with
    | operand o =>
      cases o with
      | column g => exact absurd h.symm (before_column_ne_before_order hm hq hy hx hr')
      | aggregate a g =>
        exact absurd h (Rest.ne_of_begins (begins _ hx r) (begins _ hy r') a.apart_quote)
    | value w =>
      exact absurd h
        (Rest.ne_of_begins (begins _ hx r) (begins _ hy r') (by decide : Apart "`" "?"))
    | order e g =>
      obtain ⟨heq, hrest⟩ := readable_order hm hq Rest.NoDirection (d, f) (e, g) hx hy r r' hr hr' h
      cases heq
      exact ⟨rfl, hrest⟩

end Term

/-! ## Conditions -/

theorem Template.before_parenthesized (t : Template) (r : Rest) :
    t.parenthesized.before m r = before m (.text "(" :: t) (before m [.text ")"] r) := by
  simp [parenthesized]

theorem Template.begins_before_parenthesized (t : Template) (r : Rest) :
    (t.parenthesized.before m r).Begins ["("] :=
  begins_before_text (List.mem_singleton_self _) _ r

namespace Predicate

/-- What a condition begins with. -/
def opening : Predicate → String
  | compare l _ _ => l.opening
  | compareTruth l _ _ => l.opening
  | and _ _ => "("
  | or _ _ => "("
  | not _ => " NOT "

/-- A comparison of `l` with what `t` stands for. -/
def comparison (l : Operand) (op : Comparison) (t : Template) : Template :=
  l.template ++ .text (" " ++ op.sign ++ " ") :: t

theorem failure?_comparison_eq_none_iff {l : Operand} {op : Comparison} {t : Template} :
    (comparison l op t).failure? m = none ↔
      l.template.failure? m = none ∧ t.failure? m = none := by
  simp [comparison]

/-- Two conditions with the word `w` between them. -/
def connective (p : Predicate) (w : String) (q : Predicate) : Template :=
  p.template.parenthesized ++ .text w :: q.template.parenthesized

theorem failure?_connective_eq_none {p q : Predicate} {w : String}
    (h : (connective p w q).failure? m = none) : q.template.parenthesized.failure? m = none :=
  (failure?_cons_eq_none_iff.1 (failure?_append_eq_none_iff.1 h).2).2

theorem begins (p : Predicate) (h : p.template.failure? m = none) (r : Rest) :
    (p.template.before m r).Begins [p.opening] := by
  cases p with
  | compare l op t =>
    rw [template, before_append]
    exact l.begins (failure?_comparison_eq_none_iff.1 h).1 _
  | compareTruth l op p =>
    rw [template, before_append]
    exact l.begins (failure?_comparison_eq_none_iff.1 h).1 _
  | and p q => exact begins_before_text (List.mem_singleton_self _) _ r
  | or p q => exact begins_before_text (List.mem_singleton_self _) _ r
  | not p => exact begins_before_text (List.mem_singleton_self _) _ r

/-- Conditions that begin differently read differently. -/
theorem before_ne_of_apart {p q : Predicate} (hp : p.template.failure? m = none)
    (hq : q.template.failure? m = none) (h : Apart p.opening q.opening) {r r' : Rest} :
    p.template.before m r ≠ q.template.before m r' :=
  Rest.ne_of_begins (p.begins hp r) (q.begins hq r') h

/-- A comparison tells its left side and its sign, and what stands on its right. -/
theorem before_comparison_inj (hm : m.Unambiguous) (hq : m.FreeOf '`') {l l' : Operand}
    {op op' : Comparison} {s t : Template} (hs : (comparison l op s).failure? m = none)
    (ht : (comparison l' op' t).failure? m = none) {r r' : Rest}
    (h : (comparison l op s).before m r = (comparison l' op' t).before m r') :
    l = l' ∧ op = op' ∧ s.before m r = t.before m r' := by
  rw [comparison, comparison, before_append, before_append] at h
  obtain ⟨rfl, hright⟩ := Operand.readable hm hq (fun _ => True) l l'
    (failure?_comparison_eq_none_iff.1 hs).1 (failure?_comparison_eq_none_iff.1 ht).1 _ _ trivial
    trivial h
  by_cases hop : op = op'
  · subst hop
    exact ⟨rfl, rfl, before_text_cons_inj.1 hright⟩
  · refine absurd hright (Rest.ne_of_begins (begins_before_text (List.mem_singleton_self _) _ r)
      (begins_before_text (List.mem_singleton_self _) _ r') ?_)
    revert hop
    cases op <;> cases op' <;> decide

/-- A readable condition is read between parentheses, too. -/
theorem before_parenthesized_inj {p q : Predicate}
    (ih : ReadableAt m Rest.NoDirection Predicate.template p)
    (hp : p.template.parenthesized.failure? m = none)
    (hq : q.template.parenthesized.failure? m = none) {r r' : Rest}
    (h : p.template.parenthesized.before m r = q.template.parenthesized.before m r') :
    p = q ∧ r = r' := by
  have hclose : ∀ r : Rest, (before m [.text ")"] r).NoDirection := fun r =>
    (begins_before_text (List.mem_singleton_self _) [] r).noDirection (by decide)
  rw [before_parenthesized, before_parenthesized] at h
  obtain ⟨rfl, hrest⟩ := ih q (failure?_parenthesized_eq_none_iff.1 hp)
    (failure?_parenthesized_eq_none_iff.1 hq) _ _ (hclose r) (hclose r') (before_text_cons_inj.1 h)
  exact ⟨rfl, before_text_cons_inj.1 hrest⟩

section Connective

variable {p p' q q' : Predicate} {w w' : String} {r r' : Rest}
  (ihp : ReadableAt m Rest.NoDirection Predicate.template p)
  (hx : (connective p w q).failure? m = none) (hy : (connective p' w' q').failure? m = none)

include ihp hx hy

/-- Two conditions with a word between them tell the left one, and what stands behind it. -/
theorem before_connective (h : (connective p w q).before m r = (connective p' w' q').before m r') :
    p = p' ∧ before m (.text w :: q.template.parenthesized) r =
      before m (.text w' :: q'.template.parenthesized) r' := by
  rw [connective, connective, before_append, before_append] at h
  exact before_parenthesized_inj ihp (failure?_append_eq_none_iff.1 hx).1
    (failure?_append_eq_none_iff.1 hy).1 h

theorem before_connective_ne (hw : Apart w w') :
    (connective p w q).before m r ≠ (connective p' w' q').before m r' := by
  intro h
  obtain ⟨-, hright⟩ := before_connective ihp hx hy h
  exact Rest.ne_of_begins (begins_before_text (List.mem_singleton_self _) _ r)
    (begins_before_text (List.mem_singleton_self _) _ r') hw hright

omit hy in
theorem before_connective_inj (hy : (connective p' w q').failure? m = none)
    (ihq : ReadableAt m Rest.NoDirection Predicate.template q)
    (h : (connective p w q).before m r = (connective p' w q').before m r') :
    p = p' ∧ q = q' ∧ r = r' := by
  obtain ⟨rfl, hright⟩ := before_connective ihp hx hy h
  obtain ⟨rfl, hrest⟩ := before_parenthesized_inj ihq (failure?_connective_eq_none hx)
    (failure?_connective_eq_none hy) (before_text_cons_inj.1 hright)
  exact ⟨rfl, rfl, hrest⟩

end Connective

theorem readable (hm : m.Unambiguous) (hq : m.FreeOf '`') :
    Readable m Rest.NoDirection Predicate.template := by
  intro x
  induction x with
  | compare l op t =>
    intro y hx hy r r' hr hr' h
    cases y with
    | compare l' op' t' =>
      obtain ⟨rfl, rfl, hright⟩ := before_comparison_inj hm hq hx hy h
      obtain ⟨rfl, hrest⟩ := t.readable hm hq t' (failure?_comparison_eq_none_iff.1 hx).2
        (failure?_comparison_eq_none_iff.1 hy).2 r r' hr hr' hright
      exact ⟨rfl, hrest⟩
    | compareTruth l' op' q =>
      obtain ⟨-, -, hright⟩ := before_comparison_inj hm hq hx hy h
      exact absurd hright (Rest.ne_of_begins (t.begins (failure?_comparison_eq_none_iff.1 hx).2 r)
        (begins_before_parenthesized _ r') t.apart_parenthesis.symm)
    | and p' q' => exact absurd h (before_ne_of_apart hx hy l.apart_parenthesis.symm)
    | or p' q' => exact absurd h (before_ne_of_apart hx hy l.apart_parenthesis.symm)
    | not p' => exact absurd h (before_ne_of_apart hx hy l.apart_not.symm)
  | compareTruth l op p ih =>
    intro y hx hy r r' _ _ h
    cases y with
    | compare l' op' t =>
      obtain ⟨-, -, hright⟩ := before_comparison_inj hm hq hx hy h
      exact absurd hright (Rest.ne_of_begins (begins_before_parenthesized _ r)
        (t.begins (failure?_comparison_eq_none_iff.1 hy).2 r') t.apart_parenthesis)
    | compareTruth l' op' q =>
      obtain ⟨rfl, rfl, hright⟩ := before_comparison_inj hm hq hx hy h
      obtain ⟨rfl, hrest⟩ := before_parenthesized_inj ih (failure?_comparison_eq_none_iff.1 hx).2
        (failure?_comparison_eq_none_iff.1 hy).2 hright
      exact ⟨rfl, hrest⟩
    | and p' q' => exact absurd h (before_ne_of_apart hx hy l.apart_parenthesis.symm)
    | or p' q' => exact absurd h (before_ne_of_apart hx hy l.apart_parenthesis.symm)
    | not p' => exact absurd h (before_ne_of_apart hx hy l.apart_not.symm)
  | and p q ihp ihq =>
    intro y hx hy r r' _ _ h
    cases y with
    | compare l op t => exact absurd h (before_ne_of_apart hx hy l.apart_parenthesis)
    | compareTruth l op p' => exact absurd h (before_ne_of_apart hx hy l.apart_parenthesis)
    | and p' q' =>
      obtain ⟨rfl, rfl, hrest⟩ := before_connective_inj ihp hx hy ihq h
      exact ⟨rfl, hrest⟩
    | or p' q' => exact absurd h (before_connective_ne ihp hx hy (by decide))
    | not p' => exact absurd h (before_ne_of_apart hx hy (by decide : Apart "(" " NOT "))
  | or p q ihp ihq =>
    intro y hx hy r r' _ _ h
    cases y with
    | compare l op t => exact absurd h (before_ne_of_apart hx hy l.apart_parenthesis)
    | compareTruth l op p' => exact absurd h (before_ne_of_apart hx hy l.apart_parenthesis)
    | and p' q' => exact absurd h (before_connective_ne ihp hx hy (by decide))
    | or p' q' =>
      obtain ⟨rfl, rfl, hrest⟩ := before_connective_inj ihp hx hy ihq h
      exact ⟨rfl, hrest⟩
    | not p' => exact absurd h (before_ne_of_apart hx hy (by decide : Apart "(" " NOT "))
  | not p ih =>
    intro y hx hy r r' _ _ h
    cases y with
    | compare l op t => exact absurd h (before_ne_of_apart hx hy l.apart_not)
    | compareTruth l op p' => exact absurd h (before_ne_of_apart hx hy l.apart_not)
    | and p' q' => exact absurd h (before_ne_of_apart hx hy (by decide : Apart " NOT " "("))
    | or p' q' => exact absurd h (before_ne_of_apart hx hy (by decide : Apart " NOT " "("))
    | not p' =>
      obtain ⟨rfl, hrest⟩ := before_parenthesized_inj ih (failure?_cons_eq_none_iff.1 hx).2
        (failure?_cons_eq_none_iff.1 hy).2 (before_text_cons_inj.1 h)
      exact ⟨rfl, hrest⟩

end Predicate

end EntityStore
