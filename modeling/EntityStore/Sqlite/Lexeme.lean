import EntityStore.Sqlite.ColumnType
import EntityStore.Text.Hex

/-!
# Lexemes of statements

A text of statements is cut into words, quoted names, literals, placeholders and signs. What cannot be
cut is one faulty lexeme, so that the statements before it can still be run. Every lexeme keeps its own
characters and the blanks before it; the characters of all of them, with the blanks, are the text up to
the blanks at its end (`spelling`).
-/

namespace EntityStore.Sqlite

/-- What a lexeme stands for. -/
inductive Token where
  /-- A name or a keyword. -/
  | word (s : String)
  /-- A name between back quotes. -/
  | name (s : String)
  /-- A number, a text or bytes. -/
  | literal (d : Datum)
  | placeholder
  | sign (c : Char)
  /-- What cannot be read. -/
  | fault
deriving DecidableEq

/-- A token as it is written. -/
structure Lexeme where
  token : Token
  /-- The blanks before it. -/
  gap : List Char
  characters : List Char
deriving DecidableEq

namespace Lexeme

/-- The characters of some lexemes with the blanks between them. -/
def spelling : List Lexeme → List Char
  | [] => []
  | first :: rest => first.characters ++ rest.flatMap fun l => l.gap ++ l.characters

/-! ## Characters -/

/-- Whether a character separates lexemes. -/
def isBlank (c : Char) : Bool := c == ' ' || c == '\t' || c == '\n' || c == '\x0c' || c == '\r'

/-- Whether a name can start with a character. -/
def isNameStart (c : Char) : Bool := c.isAlpha || c == '_' || 128 ≤ c.toNat

/-- Whether a name can go on with a character. -/
def isNameChar (c : Char) : Bool := isNameStart c || Number.isDigit c || c == '$'

def signs : List Char := ['(', ')', ',', ';', '*', '=', '<', '>', '.', '+', '-']

/-! ## Tokens -/

/-- The content up to a closing quote and what follows; a doubled quote stands for one. -/
def quoted? (quote : Char) : List Char → Option (List Char × List Char)
  | [] => none
  | [c] => if c = quote then some ([], []) else none
  | c :: d :: rest =>
    if c = quote then
      if d = quote then (quoted? quote rest).map fun (s, r) => (quote :: s, r)
      else some ([], d :: rest)
    else (quoted? quote (d :: rest)).map fun (s, r) => (c :: s, r)

/-- The number at the beginning of some characters, unless a name would go on there. -/
def number (s : List Char) : Token × List Char :=
  match NumericPrefix.of? s with
  | none => (.fault, [])
  | some p =>
    if (p.rest.head?.map isNameChar).getD false then (.fault, [])
    else
      match if p.isInteger then int64? p.magnitude.digits else none with
      | some i => (.literal (.int i), p.rest)
      | none => (.literal (.real p.toDouble), p.rest)

/-- The first token of some characters and what follows it; after a fault nothing is read. -/
def read (c : Char) (rest : List Char) : Token × List Char :=
  if c = '\x60' then
    match quoted? c rest with
    | some (s, r) => (.name (String.ofList s), r)
    | none => (.fault, [])
  else if c = '\'' then
    match quoted? c rest with
    | some (s, r) => (.literal (.ofString (String.ofList s)), r)
    | none => (.fault, [])
  else if (c = 'x' ∨ c = 'X') ∧ rest.head? = some '\'' then
    match quoted? '\'' rest.tail with
    | some (s, r) =>
      match Text.hexBytes? s with
      | some bytes => (.literal (.blob bytes), r)
      | none => (.fault, [])
    | none => (.fault, [])
  else if isNameStart c then
    (.word (String.ofList (c :: rest.takeWhile isNameChar)), rest.dropWhile isNameChar)
  else if Number.isDigit c ∨ (c = '.' ∧ (rest.head?.map Number.isDigit).getD false) then
    number (c :: rest)
  else if c = '?' then (.placeholder, rest)
  else if signs.contains c then (.sign c, rest)
  else (.fault, [])

/-- The lexemes of some characters, at most `fuel` of them. -/
def scan : Nat → List Char → List Lexeme
  | 0, _ => []
  | fuel + 1, s =>
    match s.dropWhile isBlank with
    | [] => []
    | c :: rest =>
      let (token, after) := read c rest
      ⟨token, s.takeWhile isBlank, (c :: rest).take (rest.length + 1 - after.length)⟩ ::
        scan fuel after

/-- The lexemes of a text. Every one has a character at least, so there are no more of them. -/
def ofString (s : String) : List Lexeme := scan s.length s.toList

@[simp] theorem scan_nil (fuel : Nat) : scan fuel [] = [] := by cases fuel <;> rfl

@[simp] theorem spelling_singleton (l : Lexeme) : spelling [l] = l.characters := by simp [spelling]

end Lexeme

end EntityStore.Sqlite
