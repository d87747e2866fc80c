import EntityStore.Proofs.Model.Table
import EntityStore.Proofs.Statement.Filling

/-!
# Templates that can be read back

A family of templates is readable (`Template.Readable`) if what one of its members has written can
be split off the front of a statement again, and tells which member it was. What follows in the
statement may have to satisfy a condition, such as not to begin with the word that would continue
the member.

Readable families are put together as templates are: one behind the other, optional ones that open
with a word of their own, and lists. A column is readable since no name has a backtick and no two
fields share a column.
-/

namespace EntityStore

/-- What is left of a statement: its text and its arguments. -/
abbrev Rest := List Char × List Value

/-- The text that is left begins with one of some words. -/
def Rest.Begins (words : List String) (r : Rest) : Prop := ∃ w ∈ words, w.toList <+: r.1

/-- Neither word begins with the other. -/
def Apart (v w : String) : Prop := ¬ v.toList <+: w.toList ∧ ¬ w.toList <+: v.toList

instance (v w : String) : Decidable (Apart v w) :=
  inferInstanceAs (Decidable (¬ v.toList <+: w.toList ∧ ¬ w.toList <+: v.toList))

/-- A text begins with one of two words that are apart only. -/
theorem Rest.Begins.not_prefix {words : List String} {r : Rest} (h : r.Begins words) {v : String}
    (hv : ∀ w ∈ words, Apart v w) : ¬ v.toList <+: r.1 := by
  obtain ⟨w, hw, hr⟩ := h
  intro hvr
  exact (List.prefix_or_prefix_of_prefix hvr hr).elim (hv w hw).1 (hv w hw).2

/-- A text that begins with a word begins with none of the words that are apart from it. -/
theorem Rest.Begins.not_begins {v : String} {words : List String} {r : Rest} (h : r.Begins [v])
    (hv : ∀ w ∈ words, Apart v w) : ¬ r.Begins words := by
  obtain ⟨w, hw, hr⟩ := h
  rw [List.mem_singleton.1 hw] at hr
  exact fun hwords => hwords.not_prefix hv hr

theorem Rest.Begins.mono {words more : List String} {r : Rest} (h : r.Begins words)
    (hsub : words ⊆ more) : r.Begins more := by
  obtain ⟨w, hw, hr⟩ := h
  exact ⟨w, hsub hw, hr⟩

namespace Template

/-! ## A template in front of a rest -/

/-- A template, filled, in front of what is left. -/
def before (m : TableModel) (t : Template) (r : Rest) : Rest := (t.chars m ++ r.1, t.args ++ r.2)

variable {m : TableModel}

@[simp] theorem before_nil (r : Rest) : before m [] r = r := rfl

@[simp] theorem before_append (s t : Template) (r : Rest) :
    before m (s ++ t) r = before m s (before m t r) := by
  simp [before]

@[simp] theorem before_text_cons (w : String) (t : Template) (r : Rest) :
    before m (.text w :: t) r = (w.toList ++ (t.before m r).1, (t.before m r).2) := by
  simp [before]

theorem begins_before_text {w : String} {words : List String} (hw : w ∈ words) (t : Template)
    (r : Rest) : (before m (.text w :: t) r).Begins words :=
  ⟨w, hw, by simp⟩

/-- What stands behind a fixed text is known. -/
theorem before_text_cons_inj {w : String} {s t : Template} {r r' : Rest} :
    before m (.text w :: s) r = before m (.text w :: t) r' ↔ s.before m r = t.before m r' := by
  simp [Prod.ext_iff]

/-- The query of a template is the template in front of nothing. -/
theorem before_of_toQuery_eq_ok {t : Template} {q : Query} (h : t.toQuery m = .ok q) :
    t.failure? m = none ∧ t.before m ([], []) = (q.sql.toList, q.args) := by
  obtain ⟨hf, hsql, hargs⟩ := toQuery_eq_ok_iff.1 h
  refine ⟨hf, ?_⟩
  rw [before, hsql, hargs, List.append_nil, List.append_nil]

/-! ## Readable families -/

variable {α β : Type}

/-- The member `x` of the family `e` can be split off in front of rests that satisfy `stop`, and no
other member reads as it does. -/
def ReadableAt (m : TableModel) (stop : Rest → Prop) (e : α → Template) (x : α) : Prop :=
  ∀ y, (e x).failure? m = none → (e y).failure? m = none → ∀ r r', stop r → stop r' →
    (e x).before m r = (e y).before m r' → x = y ∧ r = r'

/-- All members of the family `e` can be split off in front of rests that satisfy `stop`. -/
def Readable (m : TableModel) (stop : Rest → Prop) (e : α → Template) : Prop :=
  ∀ x, ReadableAt m stop e x

theorem Readable.mono {stop stop' : Rest → Prop} {e : α → Template} (h : Readable m stop e)
    (hstop : ∀ r, stop' r → stop r) : Readable m stop' e :=
  fun x y hx hy r r' hr hr' => h x y hx hy r r' (hstop r hr) (hstop r' hr')

theorem Readable.text_cons {stop : Rest → Prop} {e : α → Template} (he : Readable m stop e)
    (w : String) : Readable m stop fun x => .text w :: e x :=
  fun x y hx hy r r' hr hr' h => he x y (failure?_cons_eq_none_iff.1 hx).2
    (failure?_cons_eq_none_iff.1 hy).2 r r' hr hr' (before_text_cons_inj.1 h)

/-- Two parts can be read back one after the other, if the second one is such that the first one can
be split off in front of it. -/
theorem Readable.append {stop stop' : Rest → Prop} {e : α → Template} {f : β → Template}
    (he : Readable m stop' e) (hf : Readable m stop f)
    (hstop : ∀ y r, stop r → stop' ((f y).before m r)) :
    Readable m stop fun p : α × β => e p.1 ++ f p.2 := by
  rintro ⟨x, y⟩ ⟨x', y'⟩ hx hy r r' hr hr' h
  obtain ⟨hex, hfy⟩ := failure?_append_eq_none_iff.1 hx
  obtain ⟨hex', hfy'⟩ := failure?_append_eq_none_iff.1 hy
  simp only [before_append] at h
  obtain ⟨rfl, hsecond⟩ := he x x' hex hex' _ _ (hstop y r hr) (hstop y' r' hr') h
  obtain ⟨rfl, hrest⟩ := hf y y' hfy hfy' r r' hr hr' hsecond
  exact ⟨rfl, hrest⟩

/-- A placeholder tells its argument. -/
theorem readable_argument (stop : Rest → Prop) :
    Readable m stop fun v : Value => [.argument v] := by
  intro x y _ _ r r' _ _ h
  simp only [before, chars_cons, chars_nil, args_cons, args_nil, Piece.chars_argument,
    Piece.args_argument, Prod.mk.injEq] at h
  exact ⟨(List.cons.inj h.2).1, Prod.ext (List.cons.inj h.1).2 (List.cons.inj h.2).2⟩

/-- A text ends where a character first stands that it does not have. -/
theorem append_cons_inj {c : Char} {x y z w : List Char} (hx : c ∉ x) (hy : c ∉ y)
    (h : x ++ c :: z = y ++ c :: w) : x = y ∧ z = w := by
  induction x generalizing y with
  | nil =>
    cases y with
    | nil => exact ⟨rfl, (List.cons.inj h).2⟩
    | cons b y => exact absurd ((List.cons.inj h).1 ▸ List.mem_cons_self) hy
  | cons a x ih =>
    cases y with
    | nil => exact absurd ((List.cons.inj h).1 ▸ List.mem_cons_self) hx
    | cons b y =>
      obtain ⟨rfl, htail⟩ := List.cons.inj h
      obtain ⟨rfl, hzw⟩ := ih (List.not_mem_of_not_mem_cons hx)
        (List.not_mem_of_not_mem_cons hy) htail
      exact ⟨rfl, hzw⟩

/-- A quoted column tells its field. -/
theorem readable_column (hm : m.Unambiguous) (hq : m.FreeOf '`') (stop : Rest → Prop)
    (o c : String) : Readable m stop fun f : String => [.column o f ("`" ++ c)] := by
  intro x y hx hy r r' _ _ h
  obtain ⟨f, hf⟩ := Piece.failure?_column_eq_none_iff.1 (failure?_cons_eq_none_iff.1 hx).1
  obtain ⟨g, hg⟩ := Piece.failure?_column_eq_none_iff.1 (failure?_cons_eq_none_iff.1 hy).1
  obtain ⟨hfm, rfl⟩ := hm.field?_eq_some_iff.1 hf
  obtain ⟨hgm, rfl⟩ := hm.field?_eq_some_iff.1 hg
  simp only [before, chars_cons, chars_nil, args_cons, args_nil, Piece.chars_column hf,
    Piece.chars_column hg, Piece.args_column, Prod.mk.injEq, String.toList_append,
    List.append_assoc, List.append_nil, List.nil_append, List.append_cancel_left_eq] at h
  obtain ⟨hcol, hrest⟩ := append_cons_inj (hq.columns f hfm) (hq.columns g hgm) h.1
  rw [hm.eq_of_column_eq hfm hgm (String.toList_inj.1 hcol)]
  exact ⟨rfl, Prod.ext (List.append_cancel_left hrest) h.2⟩

/-! ## Lists -/

/-- What follows the first item of a list. -/
def commaTail : List Template → Template
  | [] => []
  | t :: ts => .text "," :: commaList (t :: ts)

theorem commaList_cons (t : Template) (ts : List Template) :
    commaList (t :: ts) = t ++ commaTail ts := by
  cases ts with
  | nil => exact (List.append_nil t).symm
  | cons u us => rfl

/-- A list can be read back if its items can in front of anything, and if what follows the list
begins neither with a comma nor as an item does. -/
theorem Readable.commaList {words : List String} {o : String} {e : α → Template}
    (he : Readable m (fun _ => True) e)
    (hopen : ∀ x, (e x).failure? m = none → ∀ r, ((e x).before m r).Begins [o])
    (hw : ∀ w ∈ words, Apart o w ∧ Apart "," w) :
    Readable m (Rest.Begins words) fun xs : List α => Template.commaList (xs.map e) := by
  have hitem : ∀ (x : α) (ts : List Template), (e x).failure? m = none → ∀ r,
      ¬ (before m (Template.commaList (e x :: ts)) r).Begins words := by
    intro x ts hx r
    rw [commaList_cons, before_append]
    exact (hopen x hx _).not_begins fun w hmem => (hw w hmem).1
  have hcomma : ∀ (t : Template) (r : Rest), ¬ (before m (.text "," :: t) r).Begins words :=
    fun t r => (begins_before_text (List.mem_singleton_self _) t r).not_begins
      fun w hmem => (hw w hmem).2
  intro xs
  induction xs with
  | nil =>
    intro ys _ hy r r' hr _ h
    cases ys with
    | nil => exact ⟨rfl, h⟩
    | cons y ys =>
      have hr₁ : r = before m (Template.commaList (e y :: ys.map e)) r' := h
      have hy' := failure?_commaList_eq_none_iff.1 hy _ List.mem_cons_self
      exact absurd (hr₁ ▸ hr) (hitem y _ hy' r')
  | cons x xs ih =>
    intro ys hx hy r r' hr hr' h
    have hx' := failure?_commaList_eq_none_iff.1 hx
    cases ys with
    | nil =>
      have hr₁ : before m (Template.commaList (e x :: xs.map e)) r = r' := h
      exact absurd (hr₁ ▸ hr') (hitem x _ (hx' _ List.mem_cons_self) r)
    | cons y ys =>
      have hy' := failure?_commaList_eq_none_iff.1 hy
      simp only [List.map_cons, commaList_cons, before_append] at h
      obtain ⟨rfl, htails⟩ := he x y (hx' _ List.mem_cons_self) (hy' _ List.mem_cons_self) _ _
        trivial trivial h
      -- The first items agree; now either list may have ended.
      cases xs with
      | nil =>
        cases ys with
        | nil => exact ⟨rfl, htails⟩
        | cons z zs =>
          have hr₁ : r = before m (.text "," :: Template.commaList (e z :: zs.map e)) r' := htails
          exact absurd (hr₁ ▸ hr) (hcomma _ r')
      | cons z zs =>
        cases ys with
        | nil =>
          have hr₁ : before m (.text "," :: Template.commaList (e z :: zs.map e)) r = r' := htails
          exact absurd (hr₁ ▸ hr') (hcomma _ r)
        | cons u us =>
          have hzs := failure?_commaList_eq_none_iff.2 fun t ht => hx' t (List.mem_cons_of_mem _ ht)
          have hus := failure?_commaList_eq_none_iff.2 fun t ht => hy' t (List.mem_cons_of_mem _ ht)
          obtain ⟨heq, hrest⟩ := ih (u :: us) hzs hus r r' hr hr' (before_text_cons_inj.1 htails)
          rw [heq]
          exact ⟨rfl, hrest⟩

/-! ## Clauses -/

/-- A family that can be read back in front of `words`, and begins with one of `more` there. -/
structure Clause (m : TableModel) (words more : List String) (e : α → Template) : Prop where
  readable : Readable m (Rest.Begins words) e
  begins : ∀ x (r : Rest), r.Begins words → ((e x).before m r).Begins more

theorem Clause.append {words more last : List String} {e : α → Template} {f : β → Template}
    (he : Clause m words more e) (hf : Clause m last words f) :
    Clause m last more fun p : α × β => e p.1 ++ f p.2 where
  readable := he.readable.append hf.readable hf.begins
  begins := by
    rintro ⟨x, y⟩ r hr
    rw [before_append]
    exact he.begins x _ (hf.begins y r hr)

/-- A part that opens with a word, or nothing. -/
def optionally (w : String) (e : α → Template) : Option α → Template
  | none => []
  | some x => .text w :: e x

/-- An optional part can be read back if its word is apart from what may follow. -/
theorem Clause.optionally {w : String} {words : List String} {e : α → Template}
    (he : Readable m (Rest.Begins words) e) (hw : ∀ v ∈ words, Apart w v) :
    Clause m words (w :: words) (optionally w e) where
  readable := by
    intro x y hx hy r r' hr hr' h
    rcases x with _ | x <;> rcases y with _ | y
    · exact ⟨rfl, h⟩
    · have hr₁ : r = before m (.text w :: e y) r' := h
      exact absurd (by rw [hr₁]; simp) (hr.not_prefix hw)
    · have hr₁ : before m (.text w :: e x) r = r' := h
      exact absurd (by rw [← hr₁]; simp) (hr'.not_prefix hw)
    · obtain ⟨rfl, hrest⟩ := he x y (failure?_cons_eq_none_iff.1 hx).2
        (failure?_cons_eq_none_iff.1 hy).2 r r' hr hr' (before_text_cons_inj.1 h)
      exact ⟨rfl, hrest⟩
  begins := by
    intro x r hr
    cases x with
    | none => exact hr.mono (List.subset_cons_self w words)
    | some x => exact begins_before_text List.mem_cons_self (e x) r

/-- A list that opens with a word, or nothing if it is empty. -/
def listed (w : String) (e : α → Template) : List α → Template
  | [] => []
  | x :: xs => .text w :: Template.commaList ((x :: xs).map e)

/-- A list that opens with a word is an optional part. -/
theorem listed_eq (w : String) (e : α → Template) (xs : List α) :
    listed w e xs = Template.optionally w (fun xs : List α => Template.commaList (xs.map e))
      (if xs.isEmpty then none else some xs) := by
  cases xs <;> rfl

theorem Clause.listed {w : String} {words : List String} {e : α → Template}
    (he : Readable m (Rest.Begins words) fun xs : List α => Template.commaList (xs.map e))
    (hw : ∀ v ∈ words, Apart w v) : Clause m words (w :: words) (listed w e) where
  readable := by
    intro xs ys hx hy r r' hr hr' h
    rw [listed_eq] at hx hy h
    rw [listed_eq] at h
    obtain ⟨heq, hrest⟩ := (Clause.optionally he hw).readable _ _ hx hy r r' hr hr' h
    refine ⟨?_, hrest⟩
    rcases xs with _ | ⟨x, xs⟩ <;> rcases ys with _ | ⟨y, ys⟩
    · rfl
    · cases heq
    · cases heq
    · exact Option.some.inj heq
  begins := by
    intro xs r hr
    rw [listed_eq]
    exact (Clause.optionally he hw).begins _ r hr

end Template

end EntityStore
