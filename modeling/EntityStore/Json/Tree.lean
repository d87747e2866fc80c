import EntityStore.Json.Token

/-!
# JSON values

`Json.parse?` builds the value of a text from its tokens with a stack of the arrays and objects that
are still open, so values may nest to any depth. A record is read from an object, whose unknown members
are left aside, or from an array of its fields in order (`Json.fields?`). Compact text has no blanks
and escapes only quotes, backslashes and control characters.
-/

namespace EntityStore

/-- A JSON value. Members of an object keep their order, also repeated ones. -/
inductive Json where
  | null
  | bool (b : Bool)
  /-- A number as it is written. -/
  | number (digits : List Char)
  /-- A string, if it denotes a text. -/
  | string (content : Option String)
  | array (items : List Json)
  | object (members : List (Option String × Json))

namespace Json

/-! ## Reading -/

/-- An array or object that is still open, with what it holds so far, last one first. -/
inductive Frame where
  /-- An open array. -/
  | array (items : List Json)
  /-- An open object with the key of the member that is being read. -/
  | object (members : List (Option String × Json)) (key : Option String)

/-- What may come next. -/
inductive Mode where
  | value
  /-- A value or the end of the array that was just opened. -/
  | itemOrEnd
  /-- A key of an object with the members so far. -/
  | key (members : List (Option String × Json))
  /-- A key or the end of the object that was just opened. -/
  | keyOrEnd
  /-- The colon behind a key. -/
  | colon (members : List (Option String × Json)) (key : Option String)
  /-- What follows a complete value. -/
  | after (v : Json)

/-- Reads the rest of a text: the open frames, innermost first, and what may come next. -/
def build : List Frame → Mode → List Token → Option Json
  | [], .after v, [] => some v
  | _, _, [] => none
  | fs, .value, t :: ts =>
    match t with
    | .null => build fs (.after .null) ts
    | .bool b => build fs (.after (.bool b)) ts
    | .number ds => build fs (.after (.number ds)) ts
    | .string s => build fs (.after (.string s)) ts
    | .openBracket => build (.array [] :: fs) .itemOrEnd ts
    | .openBrace => build fs .keyOrEnd ts
    | _ => none
  | fs, .itemOrEnd, t :: ts =>
    match t, fs with
    | .closeBracket, .array items :: fs => build fs (.after (.array items.reverse)) ts
    | .null, fs => build fs (.after .null) ts
    | .bool b, fs => build fs (.after (.bool b)) ts
    | .number ds, fs => build fs (.after (.number ds)) ts
    | .string s, fs => build fs (.after (.string s)) ts
    | .openBracket, fs => build (.array [] :: fs) .itemOrEnd ts
    | .openBrace, fs => build fs .keyOrEnd ts
    | _, _ => none
  | fs, .keyOrEnd, t :: ts =>
    match t with
    | .closeBrace => build fs (.after (.object [])) ts
    | .string k => build fs (.colon [] k) ts
    | _ => none
  | fs, .key ms, t :: ts =>
    match t with
    | .string k => build fs (.colon ms k) ts
    | _ => none
  | fs, .colon ms k, t :: ts =>
    match t with
    | .colon => build (.object ms k :: fs) .value ts
    | _ => none
  | fs, .after v, t :: ts =>
    match t, fs with
    | .comma, .array items :: fs => build (.array (v :: items) :: fs) .value ts
    | .closeBracket, .array items :: fs => build fs (.after (.array (v :: items).reverse)) ts
    | .comma, .object ms k :: fs => build fs (.key ((k, v) :: ms)) ts
    | .closeBrace, .object ms k :: fs => build fs (.after (.object ((k, v) :: ms).reverse)) ts
    | _, _ => none

/-- The value of a text. -/
def parse? (s : String) : Option Json := (tokens? s.toList).bind (build [] .value)

/-! ## Taking values apart -/

def text? : Json → Option String
  | string s => s
  | _ => none

/-- A truth value. -/
def bool? : Json → Option Bool
  | bool b => some b
  | _ => none

/-- A natural number below a limit, written without sign, fraction and exponent. -/
def natBelow? (limit : Nat) : Json → Option Nat
  | number ds =>
    match Number.readDigits? ds with
    | some n => if n < limit then some n else none
    | none => none
  | _ => none

/-- The items of an array, each read in the same way. -/
def list? {α : Type} (read : Json → Option α) : Json → Option (List α)
  | array items => items.mapM read
  | _ => none

/-- A value that may be `null`. -/
def optional? {α : Type} (read : Json → Option α) : Json → Option (Option α)
  | null => some none
  | j => (read j).map some

/-- One of a list of names, or an object with that name as its only key and `null` under it. -/
def choice? {α : Type} (ofName? : String → Option α) : Json → Option α
  | string (some s) => ofName? s
  | object [(some s, null)] => ofName? s
  | _ => none

/-- Puts a member into the place of its name; a second member of one name is refused, and a member of
another name is left aside. -/
def putField (names : List String) (key : String) (v : Json) (fields : List (Option Json)) :
    Option (List (Option Json)) :=
  match names.idxOf? key with
  | none => some fields
  | some i =>
    match fields[i]? with
    | some none => some (fields.set i (some v))
    | _ => none

/-- Puts members into the places of their names. -/
def putFields (names : List String) :
    List (Option String × Json) → List (Option Json) → Option (List (Option Json))
  | [], fields => some fields
  | (none, _) :: _, _ => none
  | (some key, v) :: rest, fields => (putField names key v fields).bind (putFields names rest)

/-- The fields of a record, in the order of their names, from an object or from an array; a field that
is not given is `none`. -/
def fields? (names : List String) : Json → Option (List (Option Json))
  | object members => putFields names members (names.map fun _ => none)
  | array items =>
    if items.length ≤ names.length then
      some (items.map some ++ List.replicate (names.length - items.length) none)
    else none
  | _ => none

def required? {α : Type} (read : Json → Option α) (field : Option Json) : Option α :=
  field.bind read

/-- A field that has a default. -/
def withDefault? {α : Type} (read : Json → Option α) (default : α) : Option Json → Option α
  | none => some default
  | some j => read j

/-! ## Writing -/

/-- A character inside a string. -/
def escape (c : Char) : List Char :=
  if c == '"' then ['\\', '"']
  else if c == '\\' then ['\\', '\\']
  else if c == '\x08' then ['\\', 'b']
  else if c == '\x0c' then ['\\', 'f']
  else if c == '\n' then ['\\', 'n']
  else if c == '\r' then ['\\', 'r']
  else if c == '\t' then ['\\', 't']
  else if c.toNat < 0x20 then
    let digits := Nat.toDigits 16 c.toNat
    ['\\', 'u'] ++ List.replicate (4 - digits.length) '0' ++ digits
  else [c]

def quote (s : String) : String := String.ofList ('"' :: s.toList.flatMap escape ++ ['"'])

/-- An object with members that are written already. -/
def objectText (members : List (String × String)) : String :=
  "\x7b" ++ String.intercalate "," (members.map fun (k, v) => quote k ++ ":" ++ v) ++ "\x7d"

/-- An array of items that are written already. -/
def arrayText (items : List String) : String := "[" ++ String.intercalate "," items ++ "]"

/-- A truth value. -/
def boolText (b : Bool) : String := if b then "true" else "false"

end Json

end EntityStore
