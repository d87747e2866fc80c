import EntityStore.Expr
import EntityStore.Proofs.Statement.Filling

/-!
# Where an expression stops

An expression refers to fields in its columns, aggregates and orders (`Expr.references`). Its template is
fixed text and arguments, with these references in between, from left to right (`Expr.filter_template`).

1. A template is cut in front of a piece that cannot be written: what stands before that piece is all
   that is ever appended (`Template.fill_cut`).
2. In the template of an expression this piece is the first reference to a field that the model does not
   know (`Expr.exists_cut`).
3. A model that knows more writes the same in front of it (`Template.written_of_extends`), and goes on
   with the reference itself (`Expr.fill_stops`).
-/

namespace EntityStore

/-! ## Queries side by side -/

namespace Query

/-- A query and what is appended to it. -/
instance : Append Query := ⟨fun p q => ⟨p.sql ++ q.sql, p.args ++ q.args⟩⟩

theorem append_eq (p q : Query) : p ++ q = ⟨p.sql ++ q.sql, p.args ++ q.args⟩ := rfl

theorem empty_append (p : Query) : ⟨"", []⟩ ++ p = p := by
  rw [append_eq, String.empty_append, List.nil_append]

theorem append_assoc (p q r : Query) : p ++ q ++ r = p ++ (q ++ r) := by
  simp only [append_eq, String.append_assoc, List.append_assoc]

end Query

/-! ## Models that know more -/

namespace TableModel

/-- The column of a field. -/
def column? (m : TableModel) (field : String) : Option String := (m.field? field).map (·.column)

/-- A model knows the fields of another one, with the same columns. -/
def Extends (m' m : TableModel) : Prop :=
  ∀ field column, m.column? field = some column → m'.column? field = some column

theorem extends_append (m : TableModel) (more : List Field) :
    { m with fields := m.fields ++ more }.Extends m := by
  intro field column h
  obtain ⟨f, hf, rfl⟩ := Option.map_eq_some_iff.1 h
  refine Option.map_eq_some_iff.2 ⟨f, ?_, rfl⟩
  rw [field?] at hf ⊢
  rw [List.find?_append, hf, Option.some_or]

end TableModel

/-! ## Templates -/

namespace Piece

/-- Whether it is up to the model that a piece can be written. -/
def isOpen : Piece → Bool
  | text _ => false
  | argument _ => false
  | _ => true

variable {m m' : TableModel}

theorem failure?_of_not_isOpen {p : Piece} (h : p.isOpen = false) : p.failure? m = none := by
  cases p with
  | column => cases h
  | refuse => cases h
  | _ => rfl

theorem chars_of_extends (h : m'.Extends m) {p : Piece} (hp : p.failure? m = none) :
    p.chars m' = p.chars m := by
  cases p with
  | column o f c =>
    obtain ⟨g, hg⟩ := failure?_column_eq_none_iff.1 hp
    have hcolumn := h f g.column (Option.map_eq_some_iff.2 ⟨g, hg, rfl⟩)
    obtain ⟨g', hg', hcolumn⟩ := Option.map_eq_some_iff.1 hcolumn
    rw [chars_column hg, chars_column hg', hcolumn]
  | _ => rfl

end Piece

namespace Template

variable {m m' : TableModel}

/-- What a template appends if it can be written. -/
def written (m : TableModel) (t : Template) : Query := ⟨String.ofList (t.chars m), t.args⟩

theorem fill_eq_append {t : Template} (h : t.failure? m = none) (q : Query) :
    fill m t q = (q ++ t.written m, none) :=
  fill_of_failure?_eq_none h q

theorem written_append (s t : Template) : written m (s ++ t) = s.written m ++ t.written m := by
  simp only [written, chars_append, args_append, String.ofList_append, Query.append_eq]

/-- Filling stops in front of the first piece that cannot be written. -/
theorem fill_cut {before after : Template} {p : Piece} {e : Error} (hbefore : before.failure? m = none)
    (hp : p.failure? m = some e) (q : Query) :
    fill m (before ++ p :: after) q = (q ++ before.written m, some e) := by
  rw [fill_append, fill_eq_append hbefore]
  cases p with
  | text s => cases hp
  | argument v => cases hp
  | column o f c =>
    rw [Piece.failure?] at hp
    cases hf : m.field? f with
    | some g =>
      rw [hf] at hp
      cases hp
    | none =>
      rw [hf] at hp
      cases hp
      simp only [fill, hf]
  | refuse e' =>
    cases hp
    rfl

/-- Only open pieces can fail. -/
theorem failure?_filter_isOpen (t : Template) : failure? m (t.filter Piece.isOpen) = failure? m t := by
  induction t with
  | nil => rfl
  | cons p t ih =>
    rw [failure?] at ih
    cases h : p.isOpen with
    | true => rw [List.filter_cons_of_pos h, failure?, failure?, List.findSome?_cons, ih, failure?,
        List.findSome?_cons]
    | false =>
      rw [List.filter_cons_of_neg (by rw [h]; exact Bool.false_ne_true), failure?, ih, failure?, failure?,
        List.findSome?_cons, Piece.failure?_of_not_isOpen h]

theorem written_of_extends (h : m'.Extends m) {t : Template} (ht : t.failure? m = none) :
    t.written m' = t.written m := by
  have hchars : t.chars m' = t.chars m := by
    induction t with
    | nil => rfl
    | cons p t ih =>
      obtain ⟨hp, hrest⟩ := failure?_cons_eq_none_iff.1 ht
      rw [chars_cons, chars_cons, Piece.chars_of_extends h hp, ih hrest]
  rw [written, hchars, written]

end Template

/-! ## References -/

/-- A place of an expression that refers to a field. -/
inductive Reference where
  /-- A column or an aggregate. -/
  | operand (o : Operand)
  | order (direction : Direction) (field : String)
deriving DecidableEq

namespace Reference

def field : Reference → String
  | operand o => o.field
  | order _ f => f

/-- The text in front of the column. -/
def opening : Reference → String
  | operand (.aggregate f _) => f.name ++ "(`"
  | _ => "`"

/-- The text behind the column. -/
def closing : Reference → String
  | operand (.column _) => "`"
  | operand (.aggregate _ _) => "`)"
  | order d _ => "` " ++ d.name

/-- The text of a reference to a field that is stored in a column. -/
def text (column : String) (r : Reference) : String := r.opening ++ column ++ r.closing

/-- The piece of a template that a reference stands for. -/
def piece (r : Reference) : Piece := .column r.opening r.field r.closing

variable {m : TableModel} {r : Reference}

theorem failure?_piece_eq_none_iff : r.piece.failure? m = none ↔ (m.field? r.field).isSome := by
  rw [piece, Piece.failure?_column_eq_none_iff, Option.isSome_iff_exists]

theorem failure?_piece_of_eq_none (h : m.field? r.field = none) :
    r.piece.failure? m = some (.query (.illegalField r.field)) := by
  rw [piece, Piece.failure?, h]

theorem written_piece {column : String} (h : m.column? r.field = some column) :
    Template.written m [r.piece] = ⟨r.text column, []⟩ := by
  obtain ⟨f, hf, rfl⟩ := Option.map_eq_some_iff.1 h
  rw [Template.written, Template.chars_cons, Template.chars_nil, piece, Piece.chars_column hf,
    List.append_nil, String.ofList_append, String.ofList_append, String.ofList_toList,
    String.ofList_toList, String.ofList_toList]
  rfl

end Reference

/-- The references of a term. -/
def Term.references : Term → List Reference
  | operand o => [.operand o]
  | value _ => []
  | order d f => [.order d f]

/-- The references of a predicate, from left to right. -/
def Predicate.references : Predicate → List Reference
  | compare l _ r => .operand l :: r.references
  | compareTruth l _ r => .operand l :: r.references
  | and l r => l.references ++ r.references
  | or l r => l.references ++ r.references
  | not p => p.references

/-- The references of an expression, from left to right. -/
def Expr.references : Expr → List Reference
  | term t => t.references
  | predicate p => p.references

/-! ## The first unknown reference -/

theorem Template.filter_parenthesized (t : Template) :
    t.parenthesized.filter Piece.isOpen = t.filter Piece.isOpen := by
  rw [Template.parenthesized, List.cons_append, List.filter_cons_of_neg Bool.false_ne_true,
    List.filter_append]
  exact List.append_nil _

theorem Operand.filter_template (o : Operand) :
    o.template.filter Piece.isOpen = [(Reference.operand o).piece] := by
  cases o <;> rfl

theorem Term.filter_template (t : Term) :
    t.template.filter Piece.isOpen = t.references.map Reference.piece := by
  cases t with
  | operand o => exact o.filter_template
  | value v => rfl
  | order d f => rfl

theorem Predicate.filter_template (p : Predicate) :
    p.template.filter Piece.isOpen = p.references.map Reference.piece := by
  induction p with
  | compare l op r =>
    rw [template, List.filter_append, l.filter_template, List.filter_cons_of_neg Bool.false_ne_true,
      r.filter_template]
    rfl
  | compareTruth l op r ih =>
    rw [template, List.filter_append, l.filter_template, List.filter_cons_of_neg Bool.false_ne_true,
      Template.filter_parenthesized, ih]
    rfl
  | and l r ihl ihr =>
    rw [template, List.filter_append, Template.filter_parenthesized, ihl,
      List.filter_cons_of_neg Bool.false_ne_true, Template.filter_parenthesized, ihr, references,
      List.map_append]
  | or l r ihl ihr =>
    rw [template, List.filter_append, Template.filter_parenthesized, ihl,
      List.filter_cons_of_neg Bool.false_ne_true, Template.filter_parenthesized, ihr, references,
      List.map_append]
  | not p ih =>
    rw [template, List.filter_cons_of_neg Bool.false_ne_true, Template.filter_parenthesized, ih]
    rfl

namespace Expr

/-- The open pieces of an expression are its references. -/
theorem filter_template (e : Expr) :
    e.template.filter Piece.isOpen = e.references.map Reference.piece := by
  cases e with
  | term t => exact t.filter_template
  | predicate p => exact p.filter_template

/-- The first reference to a field that a model does not know. -/
def unknown? (m : TableModel) (e : Expr) : Option Reference :=
  e.references.find? fun r => (m.field? r.field).isNone

variable {m m' : TableModel} {e : Expr} {r : Reference}

theorem failure?_template_eq_none_iff :
    e.template.failure? m = none ↔ ∀ r ∈ e.references, (m.field? r.field).isSome := by
  rw [← Template.failure?_filter_isOpen, filter_template, Template.failure?_eq_none_iff,
    List.forall_mem_map]
  exact forall₂_congr fun r _ => Reference.failure?_piece_eq_none_iff

theorem unknown?_eq_none_iff : e.unknown? m = none ↔ e.template.failure? m = none := by
  rw [failure?_template_eq_none_iff, unknown?, List.find?_eq_none]
  refine forall₂_congr fun r _ => ?_
  rw [Bool.not_eq_true, Option.isNone_eq_false_iff]

/-- A template is cut at the first reference to an unknown field. -/
theorem exists_cut (h : e.unknown? m = some r) :
    ∃ before after : Template, e.template = before ++ r.piece :: after ∧ before.failure? m = none := by
  obtain ⟨-, known, later, hreferences, hknown⟩ := List.find?_eq_some_iff_append.1 h
  have hfilter := e.filter_template
  rw [hreferences, List.map_append, List.map_cons] at hfilter
  obtain ⟨front, back, htemplate, hfront, hback⟩ := List.filter_eq_append_iff.1 hfilter
  obtain ⟨fixed, after, rfl, hfixed, -, -⟩ := List.filter_eq_cons_iff.1 hback
  refine ⟨front ++ fixed, after, by rw [htemplate, List.append_assoc], ?_⟩
  rw [Template.failure?_append_eq_none_iff, ← Template.failure?_filter_isOpen, hfront]
  constructor
  · rw [Template.failure?_eq_none_iff, List.forall_mem_map]
    intro k hk
    rw [Reference.failure?_piece_eq_none_iff, ← Option.isNone_eq_false_iff]
    simpa using hknown k hk
  · rw [Template.failure?_eq_none_iff]
    exact fun p hp => Piece.failure?_of_not_isOpen (Bool.not_eq_true _ ▸ hfixed p hp)

/-- An expression only appends, and what it appends does not depend on what is there already. It fails
iff it refers to a field that the model does not know, with the first such field. Then it has appended
what stands in front of that reference, and any model that knows all its fields, with the same columns,
writes the same, then the text of the reference, and then the rest. -/
theorem fill_stops (m : TableModel) (e : Expr) :
    (∃ written : Query, ∀ q, e.template.fill m q =
      (q ++ written, (e.unknown? m).map fun r => .query (.illegalField r.field))) ∧
    ((e.unknown? m).isSome ↔ ∃ r ∈ e.references, m.field? r.field = none) ∧
    ∀ r, e.unknown? m = some r → ∃ before after : Template,
      e.template = before ++ r.piece :: after ∧ before.failure? m = none ∧
      (∀ q, (e.template.fill m q).1 = q ++ before.written m) ∧
      ∀ m' : TableModel, m'.Extends m → (∀ k ∈ e.references, (m'.field? k.field).isSome) →
        ∃ column, m'.column? r.field = some column ∧
          ∀ q, e.template.fill m' q =
            (q ++ before.written m ++ ⟨r.text column, []⟩ ++ after.written m', none) := by
  have hcut : ∀ r, e.unknown? m = some r → m.field? r.field = none := by
    intro r hr
    simpa using List.find?_some hr
  refine ⟨?_, ?_, ?_⟩
  · cases hr : e.unknown? m with
    | none => exact ⟨_, Template.fill_eq_append (unknown?_eq_none_iff.1 hr)⟩
    | some r =>
      obtain ⟨before, after, htemplate, hbefore⟩ := exists_cut hr
      rw [htemplate]
      exact ⟨_, Template.fill_cut hbefore (Reference.failure?_piece_of_eq_none (hcut r hr))⟩
  · simp only [unknown?, List.find?_isSome, Option.isNone_iff_eq_none]
  · intro r hr
    obtain ⟨before, after, htemplate, hbefore⟩ := exists_cut hr
    refine ⟨before, after, htemplate, hbefore, fun q => ?_, fun m' hextends hknown => ?_⟩
    · rw [htemplate, Template.fill_cut hbefore (Reference.failure?_piece_of_eq_none (hcut r hr))]
    · have hr' : r ∈ e.references := List.mem_of_find?_eq_some hr
      obtain ⟨f, hf⟩ := Option.isSome_iff_exists.1 (hknown r hr')
      have hcolumn : m'.column? r.field = some f.column := Option.map_eq_some_iff.2 ⟨f, hf, rfl⟩
      refine ⟨f.column, hcolumn, fun q => ?_⟩
      rw [Template.fill_eq_append (failure?_template_eq_none_iff.2 hknown), htemplate,
        ← List.singleton_append, Template.written_append, Template.written_append,
        Reference.written_piece hcolumn, Template.written_of_extends hextends hbefore,
        Query.append_assoc, Query.append_assoc]

/-- Pupils by age alone. -/
def pupilModel : TableModel := ⟨"pupil", [⟨"age", "age", "age", .int, false, 0⟩]⟩

/-- Pupils with their marks. -/
def markedModel : TableModel :=
  { pupilModel with fields := pupilModel.fields ++
    [⟨"Mark", "Mark", "mark", .int, false, 1⟩, ⟨"term", "term", "term", .int, false, 2⟩] }

/-- A condition on ages, marks and terms. -/
def pupilCondition : Expr :=
  .predicate (.not (.and (.compare (.column "age") .gt (.value (.int 9)))
    (.compare (.aggregate .avg "Mark") .eq (.order .desc "term"))))

theorem fill_stops_pupils :
    markedModel.Extends pupilModel ∧
      (∀ k ∈ pupilCondition.references, (markedModel.field? k.field).isSome) ∧
      pupilCondition.unknown? pupilModel = some (.operand (.aggregate .avg "Mark")) ∧
      ∃ rest : Query, ∀ q, pupilCondition.template.fill pupilModel q =
          (q ++ ⟨" NOT ((`age` > ?) AND (", [.int 9]⟩, some (.query (.illegalField "Mark"))) ∧
        pupilCondition.template.fill markedModel q =
          (q ++ ⟨" NOT ((`age` > ?) AND (", [.int 9]⟩ ++ ⟨"AVG(`mark`)", []⟩ ++ rest, none) := by
  have hextends : markedModel.Extends pupilModel := pupilModel.extends_append _
  have hknown : ∀ k ∈ pupilCondition.references, (markedModel.field? k.field).isSome := by decide
  have hunknown : pupilCondition.unknown? pupilModel = some (.operand (.aggregate .avg "Mark")) := by
    decide
  obtain ⟨⟨written, hfill⟩, -, hcut⟩ := fill_stops pupilModel pupilCondition
  obtain ⟨before, after, -, -, hbefore, hrest⟩ := hcut _ hunknown
  obtain ⟨column, hcolumn, hmarked⟩ := hrest markedModel hextends hknown
  have hempty : pupilCondition.template.fill pupilModel ⟨"", []⟩ =
      (⟨" NOT ((`age` > ?) AND (", [.int 9]⟩, some (.query (.illegalField "Mark"))) := by cbv
  have hwritten : written = ⟨" NOT ((`age` > ?) AND (", [.int 9]⟩ := by
    rw [← Query.empty_append written]
    exact congrArg Prod.fst ((hfill ⟨"", []⟩).symm.trans hempty)
  have hfront : before.written pupilModel = ⟨" NOT ((`age` > ?) AND (", [.int 9]⟩ := by
    rw [← Query.empty_append (before.written pupilModel), ← hbefore, hempty]
  obtain rfl : column = "mark" := by
    have hmark : markedModel.column? "Mark" = some "mark" := by decide
    exact Option.some.inj (hcolumn.symm.trans hmark)
  refine ⟨hextends, hknown, hunknown, after.written markedModel, fun q => ⟨?_, ?_⟩⟩
  · rw [hfill, hunknown, hwritten]
    rfl
  · rw [hmarked, hfront]
    rfl

end Expr

end EntityStore
