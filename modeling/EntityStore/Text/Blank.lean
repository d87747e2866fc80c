import EntityStore.Text.CharRange

/-!
# Blank characters and trimming

A character is blank when it has the Unicode property `White_Space`. Trimming removes the blank
characters at both ends and keeps those in between.
-/

namespace EntityStore.Text

/-- The code points with the property `White_Space`. -/
def blankRanges : CharRanges := [
  (0x9, 0xd), (0x20, 0x20), (0x85, 0x85), (0xa0, 0xa0), (0x1680, 0x1680), (0x2000, 0x200a),
  (0x2028, 0x2029), (0x202f, 0x202f), (0x205f, 0x205f), (0x3000, 0x3000)]

/-- Whether a character is white space. -/
def isBlank (c : Char) : Bool := blankRanges.contains c.toNat

/-- The characters without the blank ones in front. -/
def trimStart (s : List Char) : List Char := s.dropWhile isBlank

/-- The characters without the blank ones at the end. -/
def trimEnd (s : List Char) : List Char := (s.reverse.dropWhile isBlank).reverse

/-- The characters without the blank ones at either end. -/
def trim (s : List Char) : List Char := trimEnd (trimStart s)

@[simp] theorem trim_nil : trim [] = [] := rfl

theorem trimStart_cons_of_not_blank {c : Char} (s : List Char) (h : isBlank c = false) :
    trimStart (c :: s) = c :: s := by
  simp [trimStart, h]

end EntityStore.Text
