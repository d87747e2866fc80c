import EntityStore.Query
import EntityStore.Model.Table

/-!
# Statement templates

A statement is first laid out as a list of pieces that name fields, not columns. Filling a template
against a table model turns the pieces into text and arguments from left to right, and stops at the
first piece that cannot be written: an unknown field, or a refusal. What was written before stays.
-/

namespace EntityStore

/-- A piece of a statement. -/
inductive Piece where
  /-- Fixed text. -/
  | text (s : String)
  /-- A placeholder and its argument. -/
  | argument (v : Value)
  /-- The column of a field, between two texts. -/
  | column (opening field closing : String)
  /-- The statement cannot be completed. -/
  | refuse (e : Error)
deriving DecidableEq

/-- The layout of a statement. -/
abbrev Template := List Piece

namespace Template

/-- The pieces of a list, with a comma between neighbours. -/
def commaList : List Template → Template
  | [] => []
  | [t] => t
  | t :: rest => t ++ .text "," :: commaList rest

def quotedColumn (field : String) : Template := [.column "`" field "`"]

def quotedName (name : String) : Template := [.text ("`" ++ name ++ "`")]

/-- Appends the pieces to what is written already; the failure, if a piece cannot be written. -/
def fill (m : TableModel) : Template → Query → Query × Option Error
  | [], q => (q, none)
  | .text s :: rest, q => fill m rest ⟨q.sql ++ s, q.args⟩
  | .argument v :: rest, q => fill m rest ⟨q.sql ++ "?", q.args ++ [v]⟩
  | .column opening field closing :: rest, q =>
    match m.field? field with
    | some f => fill m rest ⟨q.sql ++ opening ++ f.column ++ closing, q.args⟩
    | none => (q, some (.query (.illegalField field)))
  | .refuse e :: _, q => (q, some e)

def toQuery (m : TableModel) (t : Template) : Except Error Query :=
  match t.fill m ⟨"", []⟩ with
  | (q, none) => .ok q
  | (_, some e) => .error e

@[simp] theorem fill_nil (m : TableModel) (q : Query) : fill m [] q = (q, none) := rfl

/-- A template is filled part by part: the second part only after the first. -/
theorem fill_append (m : TableModel) (s t : Template) (q : Query) :
    fill m (s ++ t) q =
      match fill m s q with
      | (q', none) => fill m t q'
      | (q', some e) => (q', some e) := by
  induction s generalizing q with
  | nil => rfl
  | cons p rest ih =>
    cases p with
    | text x => exact ih _
    | argument v => exact ih _
    | column o f c =>
      simp only [List.cons_append, fill]
      cases m.field? f with
      | some _ => exact ih _
      | none => rfl
    | refuse e => rfl

end Template

end EntityStore
