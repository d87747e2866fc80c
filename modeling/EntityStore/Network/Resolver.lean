import EntityStore.Error
import EntityStore.Network.Address
import EntityStore.Text.Hex

/-!
# Address literals

An address is read as it is written. Of the eight groups some in a row may stand for themselves as `::`,
and the last two may be four octets; digits are read in either case. A domain that is an address itself
needs no name service: it resolves to that address.
-/

namespace EntityStore

namespace IpAddr

/-- The parts of a text between occurrences of a character. -/
def splitAt (sep : Char) : List Char → List (List Char)
  | [] => [[]]
  | c :: rest =>
    if c = sep then [] :: splitAt sep rest
    else match splitAt sep rest with
      | [] => [[c]]
      | part :: parts => (c :: part) :: parts

/-- An octet: one to three decimal digits, no leading zero. -/
def readOctet? (s : List Char) : Option UInt8 :=
  match s with
  | [] => none
  | '0' :: _ :: _ => none
  | _ =>
    if s.length ≤ 3 ∧ s.all (fun c => '0' ≤ c ∧ c ≤ '9') then
      let n := s.foldl (fun n c => n * 10 + (c.toNat - '0'.toNat)) 0
      if n < 256 then some (UInt8.ofNat n) else none
    else none

/-- Four octets with points between them. -/
def readOctets? (s : List Char) : Option (UInt8 × UInt8 × UInt8 × UInt8) :=
  match (splitAt '.' s).mapM readOctet? with
  | some [a, b, c, d] => some (a, b, c, d)
  | _ => none

/-- A group: one to four hexadecimal digits. -/
def readGroup? (s : List Char) : Option UInt16 :=
  if s.isEmpty ∨ 4 < s.length then none
  else (Text.hexNumber? s).map UInt16.ofNat

/-- The groups of parts that stood between colons; the last part may be four octets if `octets`. -/
def readGroups? (octets : Bool) : List (List Char) → Option (List UInt16)
  | [] => some []
  | [part] =>
    match readGroup? part with
    | some g => some [g]
    | none =>
      if octets then
        (readOctets? part).map fun (a, b, c, d) =>
          [a.toUInt16 * 256 + b.toUInt16, c.toUInt16 * 256 + d.toUInt16]
      else none
  | part :: rest =>
    match readGroup? part, readGroups? octets rest with
    | some g, some gs => some (g :: gs)
    | _, _ => none

/-- The text before and after the first `::`. -/
def splitDoubleColon : List Char → List Char → Option (List Char × List Char)
  | _, [] => none
  | before, ':' :: ':' :: rest => some (before.reverse, rest)
  | before, c :: rest => splitDoubleColon (c :: before) rest

/-- Groups in a text with colons between them; no groups in the empty text. -/
def readGroupsText? (octets : Bool) (s : List Char) : Option (List UInt16) :=
  if s.isEmpty then some [] else readGroups? octets (splitAt ':' s)

/-- The groups of a text, with as many zero groups for `::` as eight groups need, but at least one. -/
def readV6Groups? (s : List Char) : Option (List UInt16) :=
  match splitDoubleColon [] s with
  | none => readGroups? true (splitAt ':' s)
  | some (before, after) =>
    match readGroupsText? false before, readGroupsText? true after with
    | some front, some back =>
      if front.length + back.length ≤ 7 then
        some (front ++ List.replicate (8 - (front.length + back.length)) 0 ++ back)
      else none
    | _, _ => none

/-- Eight groups. -/
def readV6? (s : List Char) : Option (Vector UInt16 8) :=
  match readV6Groups? s with
  | some gs => if h : gs.length = 8 then some ⟨gs.toArray, by simp [h]⟩ else none
  | none => none

/-- The address that a text writes. -/
def parse? (s : String) : Option IpAddr :=
  match readOctets? s.toList with
  | some (a, b, c, d) => some (v4 a b c d)
  | none => (readV6? s.toList).map v6

end IpAddr

/-! ## Domains that are addresses -/

/-- Why a domain that is no address cannot be resolved without a name service. -/
def noNameService : String := "failed to lookup address information: Name or service not known"

def resolveLiteral (domain : String) (_port : UInt16) : Except Error (List IpAddr) :=
  match IpAddr.parse? domain with
  | some a => .ok [a]
  | none => .error (.connectivity (.resolution domain noNameService))

end EntityStore
