import EntityStore.Statement.Template

/-!
# What a template writes

Filling a template piece by piece comes to this (`Template.toQuery_eq`): the statement fails as its
first piece that cannot be written does (`Template.failure?`), and otherwise its text is the text of
all pieces (`Template.chars`) and its arguments are those of all pieces (`Template.args`). All three
distribute over the parts of a template, so what holds of a statement is shown part by part.
-/

namespace EntityStore

/-! ## Pieces -/

namespace Piece

def chars (m : TableModel) : Piece → List Char
  | text s => s.toList
  | argument _ => ['?']
  | column opening field closing =>
    match m.field? field with
    | some f => opening.toList ++ f.column.toList ++ closing.toList
    | none => []
  | refuse _ => []

/-- The arguments of a piece. -/
def args : Piece → List Value
  | argument v => [v]
  | _ => []

/-- Why a piece cannot be written, if it cannot. -/
def failure? (m : TableModel) : Piece → Option Error
  | column _ field _ =>
    match m.field? field with
    | some _ => none
    | none => some (.query (.illegalField field))
  | refuse e => some e
  | _ => none

variable {m : TableModel}

@[simp] theorem chars_text (s : String) : (text s).chars m = s.toList := rfl

@[simp] theorem chars_argument (v : Value) : (argument v).chars m = ['?'] := rfl

@[simp] theorem args_text (s : String) : (text s).args = [] := rfl

@[simp] theorem args_argument (v : Value) : (argument v).args = [v] := rfl

@[simp] theorem args_column (o f c : String) : (column o f c).args = [] := rfl

@[simp] theorem args_refuse (e : Error) : (refuse e).args = [] := rfl

@[simp] theorem failure?_text (s : String) : (text s).failure? m = none := rfl

@[simp] theorem failure?_argument (v : Value) : (argument v).failure? m = none := rfl

@[simp] theorem failure?_refuse (e : Error) : (refuse e).failure? m = some e := rfl

/-- A column can be written iff its field is known. -/
theorem failure?_column_eq_none_iff {o f c : String} :
    (column o f c).failure? m = none ↔ ∃ g, m.field? f = some g := by
  rw [failure?]
  cases m.field? f <;> simp

theorem chars_column {o f c : String} {g : Field} (h : m.field? f = some g) :
    (column o f c).chars m = o.toList ++ g.column.toList ++ c.toList := by
  simp [chars, h]

end Piece

/-! ## Templates -/

namespace Template

def chars (m : TableModel) (t : Template) : List Char := t.flatMap (Piece.chars m)

/-- The arguments of a template. -/
def args (t : Template) : List Value := t.flatMap Piece.args

/-- Why a template cannot be written, if it cannot: what is wrong with its first such piece. -/
def failure? (m : TableModel) (t : Template) : Option Error := t.findSome? (Piece.failure? m)

variable {m : TableModel}

@[simp] theorem chars_nil : chars m [] = [] := rfl

@[simp] theorem args_nil : args [] = [] := rfl

@[simp] theorem failure?_nil : failure? m [] = none := rfl

@[simp] theorem chars_cons (p : Piece) (t : Template) :
    chars m (p :: t) = p.chars m ++ chars m t := List.flatMap_cons

@[simp] theorem args_cons (p : Piece) (t : Template) : args (p :: t) = p.args ++ args t :=
  List.flatMap_cons

@[simp] theorem chars_append (s t : Template) : chars m (s ++ t) = chars m s ++ chars m t :=
  List.flatMap_append

@[simp] theorem args_append (s t : Template) : args (s ++ t) = args s ++ args t :=
  List.flatMap_append

theorem failure?_eq_none_iff {t : Template} :
    failure? m t = none ↔ ∀ p ∈ t, p.failure? m = none := List.findSome?_eq_none_iff

@[simp] theorem failure?_cons_eq_none_iff {p : Piece} {t : Template} :
    failure? m (p :: t) = none ↔ p.failure? m = none ∧ failure? m t = none := by
  simp only [failure?_eq_none_iff, List.forall_mem_cons]

@[simp] theorem failure?_append_eq_none_iff {s t : Template} :
    failure? m (s ++ t) = none ↔ failure? m s = none ∧ failure? m t = none := by
  simp only [failure?_eq_none_iff, List.forall_mem_append]

@[simp] theorem args_commaList (ts : List Template) : args (commaList ts) = ts.flatMap args := by
  fun_induction commaList ts with
  | case1 => rfl
  | case2 t => simp
  | case3 t rest _ ih => simp [ih]

@[simp] theorem failure?_commaList_eq_none_iff {ts : List Template} :
    failure? m (commaList ts) = none ↔ ∀ t ∈ ts, failure? m t = none := by
  fun_induction commaList ts with
  | case1 => simp
  | case2 t => simp
  | case3 t rest _ ih => simp [ih]

/-- A template adds its text and its arguments to what is written already, if it can be written. -/
theorem fill_of_failure?_eq_none {t : Template} (h : t.failure? m = none) (q : Query) :
    fill m t q = (⟨q.sql ++ String.ofList (t.chars m), q.args ++ t.args⟩, none) := by
  induction t generalizing q with
  | nil => simp
  | cons p rest ih =>
    obtain ⟨hp, hrest⟩ := failure?_cons_eq_none_iff.1 h
    cases p with
    | text s => simp [fill, ih hrest, String.append_assoc]
    | argument v => simp [fill, ih hrest, String.append_assoc]
    | column o f c =>
      obtain ⟨g, hg⟩ := Piece.failure?_column_eq_none_iff.1 hp
      simp [fill, hg, ih hrest, Piece.chars_column hg, String.append_assoc]
    | refuse e => cases hp

/-- A template that cannot be written fails as its first piece that cannot be written. -/
theorem fill_of_failure?_eq_some {t : Template} {e : Error} (h : t.failure? m = some e)
    (q : Query) : (fill m t q).2 = some e := by
  induction t generalizing q with
  | nil => cases h
  | cons p rest ih =>
    cases p with
    | text s => exact ih h _
    | argument v => exact ih h _
    | column o f c =>
      cases hg : m.field? f with
      | none => simpa [fill, hg, failure?, Piece.failure?] using h
      | some g =>
        rw [fill, hg]
        exact ih (by simpa [failure?, Piece.failure?, hg] using h) _
    | refuse e' => exact h

/-- The query of a template: its text and arguments, or its failure. -/
theorem toQuery_eq (t : Template) :
    t.toQuery m =
      match t.failure? m with
      | none => .ok ⟨String.ofList (t.chars m), t.args⟩
      | some e => .error e := by
  unfold toQuery
  cases h : t.failure? m with
  | none => simp [fill_of_failure?_eq_none h]
  | some e =>
    have he := fill_of_failure?_eq_some h ⟨"", []⟩
    rcases hf : fill m t ⟨"", []⟩ with ⟨q, r⟩
    rw [hf] at he
    cases he
    rfl

theorem toQuery_eq_ok_iff {t : Template} {q : Query} :
    t.toQuery m = .ok q ↔
      t.failure? m = none ∧ q.sql.toList = t.chars m ∧ q.args = t.args := by
  rw [toQuery_eq]
  cases t.failure? m with
  | none =>
    obtain ⟨sql, args⟩ := q
    simp only [Except.ok.injEq, Query.mk.injEq, true_and]
    rw [eq_comm (a := args), ← String.toList_inj, String.toList_ofList, eq_comm (a := sql.toList)]
  | some e => simp

end Template

end EntityStore
