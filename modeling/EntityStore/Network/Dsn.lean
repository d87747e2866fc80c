import EntityStore.Error
import EntityStore.Network.Address
import EntityStore.Number.Numeral
import EntityStore.Text.Word

/-!
# Data source names

A data source name gives a host and a port in one of two forms:

* the call form `user:password@protocol(host:port)/rest`, where the part up to an `@` is optional
  and may itself contain `@`;
* the address form `scheme://user@host:port/rest`, where the part up to the `@` is optional and what
  follows the port begins with one of `/`, `?` and `#`, or is empty.

A name is cut into head, host, port and tail; everything but the host is kept as it was written, and
the call form is tried first. A form can often be cut in several ways. The call form takes the last
`@` of the first line that leads to a cut; either form prefers a host in brackets, and the address
form prefers to see a user.
-/

namespace EntityStore

/-- The parts of a data source name as they were written. -/
structure DsnParts where
  /-- What stands before the host. -/
  head : List Char
  /-- The host, with brackets. -/
  host : List Char
  /-- The digits of the port. -/
  port : List Char
  /-- What stands after the port. -/
  tail : List Char
deriving DecidableEq

namespace DsnParts

/-- The longest beginning made of characters of a kind, which must not be empty, and the rest. -/
def run? (p : Char → Bool) (s : List Char) : Option (List Char × List Char) :=
  if (s.takeWhile p).isEmpty then none else some (s.takeWhile p, s.dropWhile p)

/-- A host in brackets, and the rest. -/
def bracketed? : List Char → Option (List Char × List Char)
  | '[' :: rest =>
    match run? (· != ']') rest with
    | some (inner, ']' :: rest') => some ('[' :: inner ++ [']'], rest')
    | _ => none
  | _ => none

/-- A colon and the digits of a port, and the rest. -/
def portDigits? : List Char → Option (List Char × List Char)
  | ':' :: rest => run? Text.isDecimalDigit rest
  | _ => none

/-- Whether a text has no line break. -/
def oneLine (s : List Char) : Bool := s.all (· != '\n')

/-- Port and tail behind a host. -/
def portAndTail? (tailOk : List Char → Bool) (s : List Char) : Option (List Char × List Char) :=
  match portDigits? s with
  | some (port, tail) => if tailOk tail then some (port, tail) else none
  | none => none

/-- Host, port and tail, for a host in brackets or else one of the given characters. -/
def hostOnward? (hostChar : Char → Bool) (tailOk : List Char → Bool) (head s : List Char) :
    Option DsnParts :=
  let finish : Option (List Char × List Char) → Option DsnParts
    | some (host, rest) => (portAndTail? tailOk rest).map fun (port, tail) => ⟨head, host, port, tail⟩
    | none => none
  (finish (bracketed? s)).or (finish (run? hostChar s))

/-- A character of an unbracketed host in the call form. -/
def callHostChar (c : Char) : Bool := c != ':' && c != '(' && c != ')'

/-- What may follow the port in the call form: a closing parenthesis and the rest of the line. -/
def callTail : List Char → Bool
  | ')' :: rest => oneLine rest
  | _ => false

/-- The call form without a user: a word, an opening parenthesis, and the host onward. `user` is what
was read before. -/
def callOnward? (user s : List Char) : Option DsnParts :=
  match run? Text.isWordChar s with
  | some (word, '(' :: rest) => hostOnward? callHostChar callTail (user ++ word ++ ['(']) rest
  | _ => none

/-- The call form with a user that ends at an `@` of the first line, the last one first. `user` is
what was read before, in reverse. -/
def callWithUser? (user : List Char) : List Char → Option DsnParts
  | [] => none
  | c :: rest =>
    if c = '\n' then none
    else
      match callWithUser? (c :: user) rest with
      | some parts => some parts
      | none => if c = '@' then callOnward? (c :: user).reverse rest else none

/-- The call form. -/
def call? (s : List Char) : Option DsnParts := (callWithUser? [] s).or (callOnward? [] s)

/-- Whether a character is an ASCII letter. -/
def isLetter (c : Char) : Bool := c.isAlpha

/-- A character of a scheme after the first. -/
def isSchemeChar (c : Char) : Bool := c.isAlphanum || c == '+' || c == '.' || c == '-'

/-- A scheme with `://`, and the rest. -/
def scheme? : List Char → Option (List Char × List Char)
  | c :: rest =>
    if isLetter c then
      match rest.dropWhile isSchemeChar with
      | ':' :: '/' :: '/' :: rest' => some (c :: rest.takeWhile isSchemeChar ++ "://".toList, rest')
      | _ => none
    else none
  | [] => none

/-- A character of a host without brackets in the address form. -/
def addressHostChar (c : Char) : Bool :=
  c != ':' && c != '/' && c != '?' && c != '#' && c != '@' && c != '[' && c != ']'

/-- What may follow the port in the address form. -/
def addressTail : List Char → Bool
  | [] => true
  | c :: rest => (c == '/' || c == '?' || c == '#') && oneLine rest

/-- A user with its `@`, and the rest. -/
def user? (s : List Char) : Option (List Char × List Char) :=
  match s.dropWhile fun c => c != '@' && c != '/' with
  | '@' :: rest => some ((s.takeWhile fun c => c != '@' && c != '/') ++ ['@'], rest)
  | _ => none

/-- The address form. -/
def address? (s : List Char) : Option DsnParts :=
  match scheme? s with
  | none => none
  | some (scheme, rest) =>
    let withUser :=
      match user? rest with
      | some (user, rest') => hostOnward? addressHostChar addressTail (scheme ++ user) rest'
      | none => none
    withUser.or (hostOnward? addressHostChar addressTail scheme rest)

/-- The parts of a data source name. -/
def cut? (s : List Char) : Option DsnParts := (call? s).or (address? s)

/-- The name that has the given parts. -/
def join (p : DsnParts) : List Char := p.head ++ p.host ++ ':' :: p.port ++ p.tail

end DsnParts

/-- A data source name whose host can be replaced. -/
structure Dsn where
  /-- What stands before the host. -/
  head : String
  /-- The host, without brackets. -/
  host : String
  port : UInt16
  /-- What stands after the port. -/
  tail : String
deriving DecidableEq, Inhabited

namespace Dsn

/-- Why digits are no port. -/
inductive PortError where
  /-- A character is no ASCII digit. -/
  | invalidDigit
  /-- The number is too large. -/
  | tooLarge
deriving DecidableEq

def PortError.message : PortError → String
  | invalidDigit => "invalid digit found in string"
  | tooLarge => "number too large to fit in target type"

/-- Reads digits after the number `n` was read; the first character that cannot be taken decides the
error. -/
def readPort (n : Nat) : List Char → Except PortError UInt16
  | [] => .ok (UInt16.ofNat n)
  | c :: rest =>
    match Number.digit? c with
    | none => .error .invalidDigit
    | some d => if n * 10 + d < UInt16.size then readPort (n * 10 + d) rest else .error .tooLarge

/-- What a data source name should look like. -/
def expectation : String := "expected `user@tcp(host:port)/db` or `scheme://host:port/db`"

/-- A host without the brackets around it. -/
def unbracket (host : List Char) : List Char :=
  ((host.dropWhile (· == '[')).reverse.dropWhile (· == ']')).reverse

/-- Reads a data source name. -/
def parse (s : String) : Except Error Dsn :=
  let invalid (message : String) : Except Error Dsn := .error (.connectivity (.invalidDsn s message))
  match DsnParts.cut? s.toList with
  | none => invalid expectation
  | some p =>
    match readPort 0 p.port with
    | .error e => invalid ("invalid port: " ++ e.message)
    | .ok port =>
      let host := unbracket p.host
      if host.isEmpty then invalid "empty host"
      else .ok ⟨String.ofList p.head, String.ofList host, port, String.ofList p.tail⟩

/-- The same name for another host. -/
def withHost (d : Dsn) (host : String) : Dsn := { d with host }

/-- The same name for the host with a given address. -/
def withAddress (d : Dsn) (a : IpAddr) : Dsn := d.withHost a.text

/-- A host as it is written: in brackets iff it contains a colon. -/
def hostText (host : String) : String :=
  if host.toList.contains ':' then "[" ++ host ++ "]" else host

/-- A data source name as text. -/
def text (d : Dsn) : String :=
  d.head ++ hostText d.host ++ ":" ++ toString d.port.toNat ++ d.tail

@[simp] theorem withHost_host (d : Dsn) (h : String) : (d.withHost h).host = h := rfl

@[simp] theorem withHost_port (d : Dsn) (h : String) : (d.withHost h).port = d.port := rfl

end Dsn

end EntityStore
