/-!
# Internet addresses

An address is four octets or eight groups of sixteen bits. Octets are written in decimal, without
leading zeros, with points between them. Groups are written in lower-case hexadecimal with colons
between them; the first longest run of two or more zero groups is written as `::`, and an address
that carries four octets behind `::ffff:` is written with these.
-/

namespace EntityStore

/-- An internet address. -/
inductive IpAddr where
  /-- An address of four octets. -/
  | v4 (a b c d : UInt8)
  /-- An address of eight groups. -/
  | v6 (groups : Vector UInt16 8)
deriving DecidableEq

namespace IpAddr

/-- Four octets as text. -/
def octetsText (a b c d : Nat) : List Char :=
  let n (x : Nat) := Nat.toDigits 10 x
  n a ++ '.' :: n b ++ '.' :: n c ++ '.' :: n d

/-- Groups as text, with colons between them. -/
def groupsText : List UInt16 → List Char
  | [] => []
  | [g] => Nat.toDigits 16 g.toNat
  | g :: rest => Nat.toDigits 16 g.toNat ++ ':' :: groupsText rest

/-- The number of zero groups in front. -/
def zeroRun (groups : List UInt16) : Nat := (groups.takeWhile (· == 0)).length

/-- Start and length of the first longest run of zero groups, from position `start` on. -/
def longestZeroRun (start : Nat) : List UInt16 → Nat × Nat
  | [] => (start, 0)
  | g :: rest =>
    let later := longestZeroRun (start + 1) rest
    let here := zeroRun (g :: rest)
    if later.2 ≤ here then (start, here) else later

/-- Eight groups as text. -/
def v6Text (groups : List UInt16) : List Char :=
  match groups with
  | [0, 0, 0, 0, 0, 0xffff, x, y] =>
    "::ffff:".toList ++ octetsText (x.toNat / 256) (x.toNat % 256) (y.toNat / 256) (y.toNat % 256)
  | _ =>
    let (start, length) := longestZeroRun 0 groups
    if 1 < length then
      groupsText (groups.take start) ++ ':' :: ':' :: groupsText (groups.drop (start + length))
    else groupsText groups

def text : IpAddr → String
  | v4 a b c d => String.ofList (octetsText a.toNat b.toNat c.toNat d.toNat)
  | v6 groups => String.ofList (v6Text groups.toList)

end IpAddr

end EntityStore
