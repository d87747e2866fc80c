import EntityStore.Number.Numeral
import EntityStore.Text.Hex

/-!
# Tokens of JSON text

A text is cut into brackets, commas, colons, literals, numbers and strings; blanks between them are a
space, a tab or a line break. A string may be written correctly and still denote no text, if it holds
half of a surrogate pair; its content is then `none`. Tokens need not be separated: whether two of them
may stand next to each other is decided by the grammar of values.
-/

namespace EntityStore.Json

inductive Token where
  | openBrace | closeBrace | openBracket | closeBracket | comma | colon
  | null
  | bool (b : Bool)
  /-- A number as it is written. -/
  | number (digits : List Char)
  /-- The content of a string, if it denotes a text. -/
  | string (content : Option String)
deriving DecidableEq

/-! ## Strings -/

/-- What was read of a string: its characters in reverse, whether they are a text so far, and the first
half of a surrogate pair that waits for the second. -/
structure StringState where
  /-- The characters, last one first. -/
  chars : List Char := []
  /-- Whether no half of a pair was left alone. -/
  isText : Bool := true
  /-- The first half of a pair, just read. -/
  half : Option Nat := none

namespace StringState

/-- A character follows. -/
def char (s : StringState) (c : Char) : StringState :=
  ⟨c :: s.chars, s.isText && s.half.isNone, none⟩

/-- A code unit of sixteen bits follows. -/
def unit (s : StringState) (u : Nat) : StringState :=
  if 0xD800 ≤ u ∧ u < 0xDC00 then ⟨s.chars, s.isText && s.half.isNone, some u⟩
  else if 0xDC00 ≤ u ∧ u < 0xE000 then
    match s.half with
    | some h => ⟨Char.ofNat (0x10000 + (h - 0xD800) * 0x400 + (u - 0xDC00)) :: s.chars, s.isText, none⟩
    | none => { s with isText := false }
  else s.char (Char.ofNat u)

/-- The content of a string that ends here. -/
def content (s : StringState) : Option String :=
  if s.isText && s.half.isNone then some (String.ofList s.chars.reverse) else none

end StringState

/-- The code unit of four hexadecimal digits. -/
def hexUnit? (a b c d : Char) : Option Nat :=
  Text.hexNumber? [a, b, c, d]

def shortEscape? (c : Char) : Option Char :=
  if c == '"' then some '"'
  else if c == '\\' then some '\\'
  else if c == '/' then some '/'
  else if c == 'b' then some '\x08'
  else if c == 'f' then some '\x0c'
  else if c == 'n' then some '\n'
  else if c == 'r' then some '\r'
  else if c == 't' then some '\t'
  else none

/-- Reads a string behind its opening quote: its content, and the rest. -/
def readString (s : StringState) : List Char → Option (Option String × List Char)
  | [] => none
  | '"' :: rest => some (s.content, rest)
  | '\\' :: 'u' :: a :: b :: c :: d :: rest =>
    match hexUnit? a b c d with
    | some u => readString (s.unit u) rest
    | none => none
  | '\\' :: c :: rest =>
    match shortEscape? c with
    | some e => readString (s.char e) rest
    | none => none
  | c :: rest => if c.toNat < 0x20 ∨ c = '\\' then none else readString (s.char c) rest

theorem readString_length {s : StringState} {text rest : List Char} {content : Option String}
    (h : readString s text = some (content, rest)) : rest.length < text.length := by
  fun_induction readString s text <;> simp_all <;> omega

/-! ## Numbers -/

/-- Cuts off the digits in front; there has to be one. -/
def takeDigits? (s : List Char) : Option (List Char × List Char) :=
  if (s.takeWhile Number.isDigit).isEmpty then none
  else some (s.takeWhile Number.isDigit, s.dropWhile Number.isDigit)

/-- Cuts off whole digits: a lone zero, or digits that do not begin with zero. -/
def takeWhole? : List Char → Option (List Char × List Char)
  | '0' :: rest => some (['0'], rest)
  | s => takeDigits? s

/-- Cuts off a point with digits, if there is one. -/
def takeFraction? : List Char → Option (List Char × List Char)
  | '.' :: rest => (takeDigits? rest).map fun (ds, rest') => ('.' :: ds, rest')
  | s => some ([], s)

/-- Cuts off an exponent, if there is one. -/
def takeExponent? : List Char → Option (List Char × List Char)
  | c :: rest =>
    if c = 'e' ∨ c = 'E' then
      match rest with
      | '+' :: r => (takeDigits? r).map fun (ds, rest') => (c :: '+' :: ds, rest')
      | '-' :: r => (takeDigits? r).map fun (ds, rest') => (c :: '-' :: ds, rest')
      | r => (takeDigits? r).map fun (ds, rest') => (c :: ds, rest')
    else some ([], c :: rest)
  | [] => some ([], [])

/-- Cuts off a number without a sign. -/
def takeUnsigned? (s : List Char) : Option (List Char × List Char) :=
  (takeWhole? s).bind fun (whole, s₁) =>
    (takeFraction? s₁).bind fun (fraction, s₂) =>
      (takeExponent? s₂).map fun (exponent, s₃) => (whole ++ fraction ++ exponent, s₃)

/-- Cuts off a number. -/
def takeNumber? : List Char → Option (List Char × List Char)
  | '-' :: rest => (takeUnsigned? rest).map fun (ds, rest') => ('-' :: ds, rest')
  | s => takeUnsigned? s

theorem takeDigits?_length {s ds rest : List Char} (h : takeDigits? s = some (ds, rest)) :
    rest.length < s.length := by
  unfold takeDigits? at h
  split at h
  · simp at h
  · next hne =>
    simp only [Option.some.injEq, Prod.mk.injEq] at h
    have := congrArg List.length (List.takeWhile_append_dropWhile (p := Number.isDigit) (l := s))
    simp only [List.length_append] at this
    have : (s.takeWhile Number.isDigit).length ≠ 0 := by
      simpa [List.isEmpty_iff, List.length_eq_zero_iff] using hne
    rw [← h.2]
    omega

theorem takeWhole?_length {s ds rest : List Char} (h : takeWhole? s = some (ds, rest)) :
    rest.length < s.length := by
  unfold takeWhole? at h
  split at h
  · simp only [Option.some.injEq, Prod.mk.injEq] at h
    simp [← h.2]
  · exact takeDigits?_length h

theorem takeFraction?_length {s ds rest : List Char} (h : takeFraction? s = some (ds, rest)) :
    rest.length ≤ s.length := by
  unfold takeFraction? at h
  split at h
  · obtain ⟨⟨ds', rest'⟩, hd, hr⟩ := Option.map_eq_some_iff.1 h
    simp only [Prod.mk.injEq] at hr
    have := takeDigits?_length hd
    simp only [List.length_cons, ← hr.2]
    omega
  · simp only [Option.some.injEq, Prod.mk.injEq] at h
    simp [h.2]

theorem takeExponent?_length {s ds rest : List Char} (h : takeExponent? s = some (ds, rest)) :
    rest.length ≤ s.length := by
  unfold takeExponent? at h
  split at h
  · split at h
    · split at h <;>
      · obtain ⟨⟨ds', rest'⟩, hd, hr⟩ := Option.map_eq_some_iff.1 h
        simp only [Prod.mk.injEq] at hr
        have := takeDigits?_length hd
        simp only [List.length_cons, ← hr.2] at *
        omega
    · simp only [Option.some.injEq, Prod.mk.injEq] at h
      simp [← h.2]
  · simp only [Option.some.injEq, Prod.mk.injEq] at h
    simp [← h.2]

theorem takeUnsigned?_length {s ds rest : List Char} (h : takeUnsigned? s = some (ds, rest)) :
    rest.length < s.length := by
  unfold takeUnsigned? at h
  obtain ⟨⟨w, s₁⟩, h₁, h⟩ := Option.bind_eq_some_iff.1 h
  obtain ⟨⟨f, s₂⟩, h₂, h⟩ := Option.bind_eq_some_iff.1 h
  obtain ⟨⟨e, s₃⟩, h₃, h⟩ := Option.map_eq_some_iff.1 h
  simp only [Prod.mk.injEq] at h
  have := takeWhole?_length h₁
  have := takeFraction?_length h₂
  have := takeExponent?_length h₃
  rw [← h.2]
  omega

theorem takeNumber?_length {s ds rest : List Char} (h : takeNumber? s = some (ds, rest)) :
    rest.length < s.length := by
  unfold takeNumber? at h
  split at h
  · obtain ⟨⟨ds', rest'⟩, hd, hr⟩ := Option.map_eq_some_iff.1 h
    simp only [Prod.mk.injEq] at hr
    have := takeUnsigned?_length hd
    simp only [List.length_cons, ← hr.2]
    omega
  · exact takeUnsigned?_length h

/-! ## Texts -/

/-- The tokens of a text, in reverse, after those read before. -/
def tokensFrom (acc : List Token) (s : List Char) : Option (List Token) :=
  match s with
  | [] => some acc
  | 't' :: 'r' :: 'u' :: 'e' :: rest => tokensFrom (.bool true :: acc) rest
  | 'f' :: 'a' :: 'l' :: 's' :: 'e' :: rest => tokensFrom (.bool false :: acc) rest
  | 'n' :: 'u' :: 'l' :: 'l' :: rest => tokensFrom (.null :: acc) rest
  | c :: rest =>
    if c == ' ' || c == '\t' || c == '\n' || c == '\r' then tokensFrom acc rest
    else if c == '\x7b' then tokensFrom (.openBrace :: acc) rest
    else if c == '\x7d' then tokensFrom (.closeBrace :: acc) rest
    else if c == '[' then tokensFrom (.openBracket :: acc) rest
    else if c == ']' then tokensFrom (.closeBracket :: acc) rest
    else if c == ',' then tokensFrom (.comma :: acc) rest
    else if c == ':' then tokensFrom (.colon :: acc) rest
    else if c == '"' then
      match _h : readString {} rest with
      | some (content, rest') => tokensFrom (.string content :: acc) rest'
      | none => none
    else
      match _h : takeNumber? (c :: rest) with
      | some (digits, rest') => tokensFrom (.number digits :: acc) rest'
      | none => none
termination_by s.length
decreasing_by
  all_goals simp only [List.length_cons]
  all_goals first
    | omega
    | exact Nat.lt_succ_of_lt (readString_length _h)
    | exact takeNumber?_length _h

/-- The tokens of a text. -/
def tokens? (s : List Char) : Option (List Token) := (tokensFrom [] s).map List.reverse

end EntityStore.Json
