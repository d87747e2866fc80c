import EntityStore.Number.Numeral
import EntityStore.Text.Blank

/-!
# Durations

A duration is a whole number of nanoseconds, of less than `2 ^ 64` seconds. Its unit text is a list of
numbers with units, `1h 30m`; a number may have a fraction if that is a whole number of nanoseconds,
or of seconds for units from the hour on. Its decimal text is one number of the largest unit among
seconds, milliseconds, microseconds and nanoseconds that it reaches.
-/

namespace EntityStore

def nanosPerSecond : Nat := 1_000_000_000

/-- A span of time. -/
structure Duration where
  /-- The length in nanoseconds. -/
  nanos : Nat
  /-- The seconds fit into sixty-four bits. -/
  lt_limit : nanos < UInt64.size * nanosPerSecond := by decide
deriving DecidableEq

namespace Duration

/-- No time. -/
def zero : Duration := ⟨0, by decide⟩

instance : Inhabited Duration := ⟨zero⟩

/-- A number of nanoseconds, if it is not too large. -/
def ofNanos? (n : Nat) : Option Duration :=
  if h : n < UInt64.size * nanosPerSecond then some ⟨n, h⟩ else none

def second : Duration := ⟨nanosPerSecond, by decide⟩

/-- A number of milliseconds; no more than the longest duration. -/
def ofMillis (n : Nat) : Duration :=
  ⟨min (n * 1_000_000) (UInt64.size * nanosPerSecond - 1),
    Nat.lt_of_le_of_lt (Nat.min_le_right _ _) (by decide)⟩

/-- The whole seconds. -/
def seconds (d : Duration) : Nat := d.nanos / nanosPerSecond

/-- The nanoseconds beyond the whole seconds. -/
def subsecond (d : Duration) : Nat := d.nanos % nanosPerSecond

/-- The whole milliseconds, as far as sixty-four bits hold. -/
def millis (d : Duration) : Nat := min (d.nanos / 1_000_000) (UInt64.size - 1)

/-- The milliseconds, a started one counted in full. -/
def millisUp (d : Duration) : Nat := (d.nanos + 999_999) / 1_000_000

/-- Whether it is no time. -/
def isZero (d : Duration) : Bool := d.nanos == 0

/-! ## Units -/

/-- The units of a unit text. -/
inductive TimeUnit where
  | nanosecond | microsecond | millisecond | second | minute
  | hour | day | week | month | year
deriving DecidableEq, Repr

namespace TimeUnit

/-- The length of a unit in nanoseconds. -/
def nanos : TimeUnit → Nat
  | nanosecond => 1
  | microsecond => 1_000
  | millisecond => 1_000_000
  | second => nanosPerSecond
  | minute => 60 * nanosPerSecond
  | hour => 3600 * nanosPerSecond
  | day => 86400 * nanosPerSecond
  | week => 604800 * nanosPerSecond
  | month => 2630016 * nanosPerSecond
  | year => 31557600 * nanosPerSecond

/-- In what a whole number of a unit is counted. -/
def wholeGrain : TimeUnit → Nat
  | nanosecond | microsecond | millisecond => 1
  | _ => nanosPerSecond

/-- In what a fraction of a unit is counted; a nanosecond has no fractions. -/
def fractionGrain : TimeUnit → Option Nat
  | nanosecond => none
  | microsecond | millisecond | second | minute => some 1
  | _ => some nanosPerSecond

def spellings : TimeUnit → List String
  | nanosecond => ["nanos", "nsec", "ns"]
  | microsecond => ["usec", "us", "µs"]
  | millisecond => ["millis", "msec", "ms"]
  | second => ["seconds", "second", "secs", "sec", "s"]
  | minute => ["minutes", "minute", "min", "mins", "m"]
  | hour => ["hours", "hour", "hrs", "hr", "h"]
  | day => ["days", "day", "d"]
  | week => ["weeks", "week", "wks", "wk", "w"]
  | month => ["months", "month", "M"]
  | year => ["years", "year", "yrs", "yr", "y"]

def all : List TimeUnit :=
  [nanosecond, microsecond, millisecond, second, minute, hour, day, week, month, year]

def ofSpelling? (s : String) : Option TimeUnit := all.find? fun u => u.spellings.contains s

end TimeUnit

/-! ## Reading a unit text -/

/-- A number as far as sixty-four bits hold. -/
def fit64? (n : Nat) : Option Nat := if n < UInt64.size then some n else none

/-- Whether a character may stand in a unit. -/
def isUnitChar (c : Char) : Bool := c.isAlpha || c == 'µ'

/-- A fraction that is being read: numerator and denominator. -/
abbrev Fraction := Nat × Nat

/-- Reads digits, with blanks between them, after the number `n`: the number, and the rest from the
first other character on. -/
def readNumber (n : Nat) : List Char → Option (Nat × List Char)
  | [] => some (n, [])
  | c :: rest =>
    match Number.digit? c with
    | some d => (fit64? (n * 10 + d)).bind fun n => readNumber n rest
    | none => if Text.isBlank c then readNumber n rest else some (n, c :: rest)

/-- Reads the digits of a fraction, with blanks between them, and what follows. -/
def readFraction (f : Fraction) : List Char → Option (Fraction × List Char)
  | [] => some (f, [])
  | c :: rest =>
    match Number.digit? c with
    | some d =>
      (fit64? (f.2 * 10)).bind fun den =>
        (fit64? (f.1 * 10 + d)).bind fun num => readFraction (num, den) rest
    | none => if Text.isBlank c then readFraction f rest else some (f, c :: rest)

/-- Adds a number of grains to a duration. Nanoseconds are first added to those beyond the whole
seconds, and the sum has to fit. -/
def add? (d : Duration) (count grain : Nat) : Option Duration :=
  if grain = 1 then (fit64? (d.subsecond + count)).bind fun _ => ofNanos? (d.nanos + count)
  else ofNanos? (d.nanos + count * grain)

/-- Adds a whole number of units. -/
def addWhole? (d : Duration) (unit : TimeUnit) (n : Nat) : Option Duration :=
  (fit64? (n * (unit.nanos / unit.wholeGrain))).bind fun count => d.add? count unit.wholeGrain

/-- Adds a fraction of a unit, which has to be a whole number of grains. -/
def addFraction? (d : Duration) (unit : TimeUnit) : Option Fraction → Option Duration
  | none => some d
  | some (num, den) =>
    unit.fractionGrain.bind fun grain =>
      (fit64? (num * (unit.nanos / grain))).bind fun scaled =>
        if scaled % den = 0 then d.add? (scaled / den) grain else none

/-- Reads a fraction that begins with a point, if there is one. -/
def readPoint? : List Char → Option (Option Fraction × List Char)
  | '.' :: rest =>
    (readFraction (0, 1) rest).bind fun (f, rest') => if f.2 = 1 then none else some (some f, rest')
  | rest => some (none, rest)

theorem readNumber_length {n n' : Nat} {s rest : List Char} (h : readNumber n s = some (n', rest)) :
    rest.length ≤ s.length := by
  induction s generalizing n with
  | nil => simp [readNumber] at h; simp [← h.2]
  | cons c s ih =>
    simp only [readNumber] at h
    split at h
    · obtain ⟨m, -, hm⟩ := Option.bind_eq_some_iff.1 h
      exact Nat.le_succ_of_le (ih hm)
    · split at h
      · exact Nat.le_succ_of_le (ih h)
      · simp at h; simp [← h.2]

theorem readFraction_length {f f' : Fraction} {s rest : List Char}
    (h : readFraction f s = some (f', rest)) : rest.length ≤ s.length := by
  induction s generalizing f with
  | nil => simp [readFraction] at h; simp [← h.2]
  | cons c s ih =>
    simp only [readFraction] at h
    split at h
    · obtain ⟨den, -, hd⟩ := Option.bind_eq_some_iff.1 h
      obtain ⟨num, -, hn⟩ := Option.bind_eq_some_iff.1 hd
      exact Nat.le_succ_of_le (ih hn)
    · split at h
      · exact Nat.le_succ_of_le (ih h)
      · simp at h; simp [← h.2]

theorem readPoint?_length {f : Option Fraction} {s rest : List Char}
    (h : readPoint? s = some (f, rest)) : rest.length ≤ s.length := by
  unfold readPoint? at h
  split at h
  · obtain ⟨⟨g, r⟩, hg, hr⟩ := Option.bind_eq_some_iff.1 h
    by_cases h1 : g.2 = 1
    · simp [h1] at hr
    · simp only [h1, if_false, Option.some.injEq, Prod.mk.injEq] at hr
      rw [← hr.2]
      exact Nat.le_succ_of_le (readFraction_length hg)
  · simp at h; simp [← h.2]

/-- Reads groups of a number and a unit from the first digit on, adding to `d`. A group ends at a blank
or at the next digit. -/
def readGroups (d : Duration) (s : List Char) : Option Duration :=
  match s with
  | [] => some d
  | c :: rest =>
    if Text.isBlank c then readGroups d rest
    else
      match Number.digit? c with
      | none => none
      | some n =>
        match _hn : readNumber n rest with
        | none => none
        | some (n, afterNumber) =>
          match _hp : readPoint? afterNumber with
          | none => none
          | some (fraction, afterPoint) =>
            let rest' := afterPoint.dropWhile isUnitChar
            let sum := (TimeUnit.ofSpelling? (String.ofList (afterPoint.takeWhile isUnitChar))).bind
              fun unit => (d.addWhole? unit n).bind (·.addFraction? unit fraction)
            match sum with
            | none => none
            | some d' => readGroups d' rest'
termination_by s.length
decreasing_by
  · simp
  · have h₁ := readNumber_length _hn
    have h₂ := readPoint?_length _hp
    have h₃ := (List.dropWhile_sublist isUnitChar (l := afterPoint)).length_le
    simp only [List.length_cons]
    omega

/-- Reads a unit text; `0` alone needs no unit. -/
def parse? (s : String) : Option Duration :=
  if s = "0" then some zero
  else if s.toList.all Text.isBlank then none
  else readGroups zero s.toList

/-! ## Writing -/

/-- A part of a unit text, left out if it is zero. -/
def part (n : Nat) (unit : String) : List String :=
  if n = 0 then [] else [toString n ++ unit]

/-- A part whose unit has a plural. -/
def pluralPart (n : Nat) (unit : String) : List String :=
  part n (if 1 < n then unit ++ "s" else unit)

/-- The parts of a unit text. -/
def parts (d : Duration) : List String :=
  let s := d.seconds
  let n := d.subsecond
  pluralPart (s / 31557600) "year" ++ pluralPart (s % 31557600 / 2630016) "month" ++
    pluralPart (s % 31557600 % 2630016 / 86400) "day" ++
    part (s % 31557600 % 2630016 % 86400 / 3600) "h" ++
    part (s % 31557600 % 2630016 % 86400 % 3600 / 60) "m" ++
    part (s % 31557600 % 2630016 % 86400 % 60) "s" ++
    part (n / 1_000_000) "ms" ++ part (n / 1_000 % 1_000) "us" ++ part (n % 1_000) "ns"

/-- The unit text of a duration. -/
def text (d : Duration) : String :=
  if d.isZero then "0s" else String.intercalate " " d.parts

/-- A number with the digits of a fraction of `places` places, without zeros at its end. -/
def decimalText (whole fraction places : Nat) : String :=
  let digits := Nat.toDigits 10 fraction
  let padded := List.replicate (places - digits.length) '0' ++ digits
  let shown := (padded.reverse.dropWhile (· == '0')).reverse
  toString whole ++ (if shown.isEmpty then "" else "." ++ String.ofList shown)

/-- The decimal text of a duration. -/
def display (d : Duration) : String :=
  let n := d.subsecond
  if 0 < d.seconds then decimalText d.seconds n 9 ++ "s"
  else if 1_000_000 ≤ n then decimalText (n / 1_000_000) (n % 1_000_000) 6 ++ "ms"
  else if 1_000 ≤ n then decimalText (n / 1_000) (n % 1_000) 3 ++ "µs"
  else toString n ++ "ns"

end Duration

end EntityStore
