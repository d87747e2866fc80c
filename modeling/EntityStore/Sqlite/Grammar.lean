import EntityStore.Sqlite.Statement

/-!
# Grammar of statements

Statements are read from lexemes. Keywords may be written in any case. An expression is read by the
strength of its operators: `OR`, `AND`, `NOT`, `=`, and last `<` and `>`; operators of one strength
group from the left. A statement ends at a semicolon or with the text; what follows is not looked at.
-/

namespace EntityStore.Sqlite

/-- Reads something from the front of some lexemes. -/
abbrev Reader := StateT (List Lexeme) Option

namespace Reader

/-! ## Words and signs -/

/-- Whether two words are equal up to the case of ASCII letters. -/
def sameWord (a b : String) : Bool := a.map Char.toLower == b.map Char.toLower

/-- The next token. -/
def token : Reader Token := fun
  | [] => none
  | l :: rest => some (l.token, rest)

/-- The next token without taking it. -/
def peek : Reader (Option Token) := fun s => some (s.head?.map (·.token), s)

def keyword (w : String) : Reader Unit := do
  match ← token with
  | .word s => if sameWord s w then pure () else failure
  | _ => failure

/-- Several keywords. -/
def keywords : List String → Reader Unit
  | [] => pure ()
  | w :: rest => do
    keyword w
    keywords rest

def sign (c : Char) : Reader Unit := do
  match ← token with
  | .sign d => if c = d then pure () else failure
  | _ => failure

/-- Something that may be missing. -/
def optional {α : Type} (p : Reader α) : Reader (Option α) := fun s =>
  match p s with
  | some (a, rest) => some (some a, rest)
  | none => some (none, s)

/-- More of something, each after a comma; at most `fuel` times. -/
def more {α : Type} (p : Reader α) : Nat → Reader (List α)
  | 0 => pure []
  | fuel + 1 => do
    match ← optional (do sign ','; p) with
    | none => pure []
    | some a => return a :: (← more p fuel)

def commaList {α : Type} (p : Reader α) : Reader (List α) := do
  let first ← p
  return first :: (← more p (← get).length)

/-- Something between parentheses. -/
def parenthesized {α : Type} (p : Reader α) : Reader α := do
  sign '('
  let a ← p
  sign ')'
  return a

/-! ## Names -/

/-- The keywords that are no names. -/
def reserved : List String :=
  ["SELECT", "FROM", "WHERE", "GROUP", "HAVING", "ORDER", "LIMIT", "INSERT", "INTO", "VALUES", "ON",
    "UPDATE", "SET", "DELETE", "COMMIT", "AND", "OR", "NOT", "NULL", "AS"]

/-- A name, bare or between quotes. -/
def name : Reader String := do
  match ← token with
  | .name s => return s
  | .word s => if reserved.any (sameWord s) then failure else return s
  | _ => failure

/-- The name of a table, with or without its database. -/
def tableName : Reader TableName := do
  let first ← name
  match ← optional (do sign '.'; name) with
  | some second => return ⟨some first, second⟩
  | none => return ⟨none, first⟩

/-! ## Expressions -/

/-- The aggregate of a given name. -/
def aggregate? (s : String) : Option Aggregate :=
  [Aggregate.sum, .avg, .count, .max, .min].find? fun a => sameWord a.name s

/-- The place of a placeholder: how many stand before it in the text. -/
def placeOf (all : Nat) (rest : List Lexeme) : Nat :=
  all - (rest.filter (·.token == .placeholder)).length - 1

/-- A literal, a placeholder, a column or the use of an aggregate; `all` is the number of placeholders
in the text. -/
def operand (all : Nat) : Reader Scalar := do
  match ← token with
  | .literal d => return .literal d
  | .placeholder => return .placeholder (placeOf all (← get))
  | .sign '-' => fun
    | l :: rest =>
      match l.token, numberOf? ('-' :: l.characters) with
      | .literal _, some d => some (.literal d, rest)
      | _, _ => none
    | [] => none
  | .name s => column s
  | .word s =>
    if sameWord s "NULL" then return .literal .null
    match ← peek with
    | some (.sign '(') =>
      if sameWord s "CAST" then
        parenthesized do
          let e ← operandOfCast
          keywords ["AS", "TEXT"]
          return .asText e
      else match aggregate? s with
        | none => failure
        | some a =>
          parenthesized do
            match a, ← peek with
            | .count, some (.sign '*') => do
              sign '*'
              return .rowCount
            | a, _ => return .aggregate a (← name)
    | _ => if reserved.any (sameWord s) then failure else column s
  | _ => failure
where
  /-- The rest of a column. -/
  column (s : String) : Reader Scalar := do
    match ← optional (do sign '.'; name) with
    | some c => return .column (some s) c
    | none => return .column none s
  /-- What can be taken for a text. -/
  operandOfCast : Reader Scalar := do
    match ← token with
    | .literal d => return .literal d
    | .placeholder => return .placeholder (placeOf all (← get))
    | _ => failure

/-- An operator between two expressions: its strength, and what it makes of them. -/
def operator? : Token → Option (Nat × (Scalar → Scalar → Scalar))
  | .sign '<' => some (5, .compare .lt)
  | .sign '>' => some (5, .compare .gt)
  | .sign '=' => some (4, .compare .eq)
  | .word s =>
    if sameWord s "AND" then some (2, .and) else if sameWord s "OR" then some (1, .or) else none
  | _ => none

mutual

/-- An expression whose operators are at least of a given strength; at most `fuel` lexemes deep. -/
def expression (all : Nat) : Nat → Nat → Reader Scalar
  | 0, _ => failure
  | fuel + 1, strength => do
    let first ← match ← peek with
      | some (.sign '(') => do
        sign '('
        let e ← expression all fuel 0
        sign ')'
        pure e
      | some (.word s) =>
        if sameWord s "NOT" then do
          keyword "NOT"
          pure (.not (← expression all fuel 3))
        else operand all
      | _ => operand all
    operations all fuel strength first

/-- The operators after an expression. -/
def operations (all : Nat) : Nat → Nat → Scalar → Reader Scalar
  | 0, _, _ => failure
  | fuel + 1, strength, left => do
    match (← peek).bind operator? with
    | none => pure left
    | some (own, combine) =>
      if own < strength then pure left
      else do
        discard token
        let right ← expression all fuel (own + 1)
        operations all fuel strength (combine left right)

end

/-- An expression that is not too high. -/
def scalar (all : Nat) : Reader Scalar := do
  let e ← expression all (2 * (← get).length + 2) 0
  if e.height ≤ Scalar.heightLimit then return e else failure

/-! ## Statements -/

/-- An expression after keywords, if they are there. -/
def clause (all : Nat) (words : List String) : Reader (Option Scalar) :=
  optional do
    keywords words
    scalar all

/-- A column of a result. -/
def item (all : Nat) : Reader Item := do
  match ← peek with
  | some (.sign '*') =>
    discard token
    return .all
  | _ =>
    let before ← get
    let e ← scalar all
    let source := Lexeme.spelling (before.take (before.length - (← get).length))
    let alias_ ← optional (do keyword "AS"; name)
    return .scalar e alias_ (String.ofList source)

/-- A column to order by. -/
def order : Reader (String × Direction) := do
  let c ← name
  match ← optional (keyword "DESC") with
  | some () => return (c, .desc)
  | none =>
    discard (optional (keyword "ASC"))
    return (c, .asc)

/-- The list after two keywords; empty if they are not there. -/
def listAfter {α : Type} (words : List String) (p : Reader α) : Reader (List α) := do
  return (← optional (do keywords words; commaList p)).getD []

/-- A select after its keyword. -/
def selection (all : Nat) : Reader Selection := do
  let items ← commaList (item all)
  match ← optional (do keyword "FROM"; tableName) with
  | none => return { items }
  | some table =>
    let condition ← clause all ["WHERE"]
    let groups ← listAfter ["GROUP", "BY"] name
    let having ← if groups.isEmpty then pure none else clause all ["HAVING"]
    let orders ← listAfter ["ORDER", "BY"] order
    let limit ← clause all ["LIMIT"]
    let offset ← if limit.isSome then clause all ["OFFSET"] else pure none
    return { items, table, condition, groups, having, orders, limit, offset }

/-- The new values of some columns. -/
def changes (all : Nat) : Reader Changes :=
  commaList do
    let c ← name
    sign '='
    return (c, ← scalar all)

/-- An insert after its keywords. -/
def insertion (all : Nat) : Reader Statement := do
  let table ← tableName
  let columns ← optional (parenthesized (commaList name))
  keyword "VALUES"
  let rows ← commaList (parenthesized (commaList (scalar all)))
  let onConflict ← optional do
    keywords ["ON", "CONFLICT", "DO", "UPDATE", "SET"]
    changes all
  return .insert table columns rows onConflict

def statement (all : Nat) : Reader Statement := do
  match ← token with
  | .word s =>
    if sameWord s "SELECT" then return .select (← selection all)
    else if sameWord s "INSERT" then do
      keyword "INTO"
      insertion all
    else if sameWord s "UPDATE" then do
      let table ← tableName
      keyword "SET"
      let cs ← changes all
      return .update table cs (← clause all ["WHERE"])
    else if sameWord s "DELETE" then do
      keyword "FROM"
      let table ← tableName
      return .delete table (← clause all ["WHERE"])
    else if sameWord s "COMMIT" then return .commit
    else if sameWord s "ROLLBACK" then return .rollback
    else failure
  | _ => failure

/-- The end of a statement. -/
def ending : Reader Unit := fun
  | [] => some ((), [])
  | l :: rest => if l.token = .sign ';' then some ((), rest) else none

end Reader

/-! ## Texts -/

/-- The first statement of a text. -/
inductive Parsed where
  /-- There is none. -/
  | nothing
  /-- It cannot be read. -/
  | malformed
  /-- The statement, the number of its placeholders, and what follows it. -/
  | statement (s : Statement) (placeholders : Nat) (rest : List Lexeme)

/-- The number of placeholders among some lexemes. -/
def placeholderCount (s : List Lexeme) : Nat := (s.filter (·.token == .placeholder)).length

/-- The first statement among some lexemes; semicolons before it are skipped. -/
def Parsed.ofLexemes (s : List Lexeme) : Parsed :=
  match s.dropWhile (·.token == .sign ';') with
  | [] => .nothing
  | s =>
    let all := placeholderCount s
    match (do let st ← Reader.statement all; Reader.ending; pure st : Reader Statement) s with
    | none => .malformed
    | some (st, rest) => .statement st (all - placeholderCount rest) rest

/-- The first statement of a text. -/
def Parsed.ofString (s : String) : Parsed := .ofLexemes (Lexeme.ofString s)

@[simp] theorem Parsed.ofLexemes_nil : Parsed.ofLexemes [] = .nothing := rfl

end EntityStore.Sqlite
