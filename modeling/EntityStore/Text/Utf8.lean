/-!
# Text as bytes

A text is written as UTF-8 (`utf8`). Any bytes can be read with repair (`repaired`): each longest
beginning of a character that cannot be completed, and each byte that begins no character, is read as
one replacement character U+FFFD. Bytes are well-formed iff they are those of the text that is read.
-/

namespace EntityStore.Text

/-- The bytes of a text. -/
def utf8 (s : String) : List UInt8 := s.toList.flatMap String.utf8EncodeChar

/-- What the first byte of a character of several bytes fixes. -/
structure LeadByte where
  /-- How many bytes follow. -/
  tails : Nat
  /-- The least value of the second byte. -/
  low : Nat
  /-- The greatest value of the second byte. -/
  high : Nat
  /-- The bits of the code point in the first byte. -/
  bits : Nat

/-- The first byte of a character of two, three or four bytes. -/
def leadByte? (b : Nat) : Option LeadByte :=
  if b < 0xC2 then none
  else if b ≤ 0xDF then some ⟨1, 0x80, 0xBF, b - 0xC0⟩
  else if b = 0xE0 then some ⟨2, 0xA0, 0xBF, 0⟩
  else if b = 0xED then some ⟨2, 0x80, 0x9F, 0xD⟩
  else if b ≤ 0xEF then some ⟨2, 0x80, 0xBF, b - 0xE0⟩
  else if b = 0xF0 then some ⟨3, 0x90, 0xBF, 0⟩
  else if b ≤ 0xF3 then some ⟨3, 0x80, 0xBF, b - 0xF0⟩
  else if b = 0xF4 then some ⟨3, 0x80, 0x8F, 4⟩
  else none

/-- Reads the bytes that follow a first byte; `none` if one of them cannot stand there, with what is
left from that byte on. -/
def readTails : Nat → Nat → Nat → Nat → List UInt8 → Option Nat × List UInt8
  | 0, _, _, code, rest => (some code, rest)
  | _ + 1, _, _, _, [] => (none, [])
  | n + 1, low, high, code, b :: rest =>
    if low ≤ b.toNat ∧ b.toNat ≤ high then
      readTails n 0x80 0xBF (code * 64 + b.toNat % 64) rest
    else (none, b :: rest)

theorem readTails_length_le (n low high code : Nat) (bytes : List UInt8) :
    (readTails n low high code bytes).2.length ≤ bytes.length := by
  induction n generalizing low high code bytes with
  | zero => simp [readTails]
  | succ n ih =>
    cases bytes with
    | nil => simp [readTails]
    | cons b rest =>
      simp only [readTails]
      split
      · exact Nat.le_trans (ih _ _ _ _) (by simp)
      · simp

/-- The characters of a list of bytes, with each faulty part replaced by U+FFFD. -/
def decodeRepaired : List UInt8 → List Char
  | [] => []
  | b :: rest =>
    if b.toNat < 0x80 then Char.ofNat b.toNat :: decodeRepaired rest
    else match leadByte? b.toNat with
      | none => '\uFFFD' :: decodeRepaired rest
      | some lead =>
        let read := readTails lead.tails lead.low lead.high lead.bits rest
        (match read.1 with
          | some code => Char.ofNat code
          | none => '\uFFFD') :: decodeRepaired read.2
termination_by bytes => bytes.length
decreasing_by
  all_goals simp only [List.length_cons]
  · omega
  · omega
  · exact Nat.lt_succ_of_le (readTails_length_le _ _ _ _ _)

/-- The text of some bytes, with each faulty part replaced by U+FFFD. -/
def repaired (bytes : List UInt8) : String := String.ofList (decodeRepaired bytes)

/-- The text of some bytes, if they are well-formed. -/
def ofUtf8? (bytes : List UInt8) : Option String :=
  if utf8 (repaired bytes) = bytes then some (repaired bytes) else none

theorem utf8_of_ofUtf8? {bytes : List UInt8} {s : String} (h : ofUtf8? bytes = some s) :
    utf8 s = bytes := by
  simp only [ofUtf8?, Option.ite_none_right_eq_some, Option.some.injEq] at h
  rw [← h.2, h.1]

end EntityStore.Text
