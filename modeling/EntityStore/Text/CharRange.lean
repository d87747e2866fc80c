/-!
# Sets of characters as ascending ranges

A property of characters is stored as the list of its ranges of code points, in ascending order.
Membership walks the list and stops at the first range that begins above the character
(`contains_cons_of_lt`), so characters near the beginning of the code space are decided quickly.
-/

namespace EntityStore.Text

/-- Ranges of code points, both ends included, in ascending order. -/
abbrev CharRanges := List (Nat × Nat)

namespace CharRanges

/-- Whether a code point lies in one of the ranges. -/
def contains : CharRanges → Nat → Bool
  | [], _ => false
  | (lo, hi) :: rest, c =>
    if c < lo then false
    else if c ≤ hi then true
    else contains rest c

@[simp] theorem contains_nil (c : Nat) : contains [] c = false := rfl

theorem contains_cons_of_lt {lo hi c : Nat} (rest : CharRanges) (h : c < lo) :
    contains ((lo, hi) :: rest) c = false := by
  simp [contains, h]

theorem contains_cons_of_mem {lo hi c : Nat} (rest : CharRanges) (h₁ : lo ≤ c) (h₂ : c ≤ hi) :
    contains ((lo, hi) :: rest) c = true := by
  simp [contains, Nat.not_lt.2 h₁, h₂]

theorem contains_cons_of_gt {lo hi c : Nat} (rest : CharRanges) (h₁ : lo ≤ c) (h₂ : hi < c) :
    contains ((lo, hi) :: rest) c = contains rest c := by
  simp [contains, Nat.not_lt.2 h₁, Nat.not_le.2 h₂]

end CharRanges

end EntityStore.Text
