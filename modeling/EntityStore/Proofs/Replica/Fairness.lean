import EntityStore.Replica.Selector
import Mathlib.Data.Int.CardIntervalMod

/-!
# Turns in a row

The counter of the turns runs below `limit = 2 ^ 64` and then begins again, and the replica of a turn is
the counter modulo the number of replicas. Counted from zero, the first of two replicas has been given
as many turns as the second or one more, wherever the counter stands (`count_place`). Each time the
counter begins again while `limit` is no multiple of the number of replicas, it may get one more turn
ahead (`count_turns`). So in a stretch of turns no two replicas are further apart than by one, and by
one more for each time that the counter begins again (`count_stretch_le`).
-/

namespace EntityStore.Rotation

/-- The number of values of the counter. -/
def limit : Nat := UInt64.size

/-- How often the order of `n` places breaks off behind the first of `m` turns, if the counter stood at
`b` before them: each time the counter begins again, unless its limit is a multiple of `n`. -/
def breaks (n b m : Nat) : Nat := if limit % n = 0 then 0 else (b + m) / limit - (b + 1) / limit

theorem count_congr {p q : Nat → Prop} [DecidablePred p] [DecidablePred q] {n : Nat}
    (h : ∀ i < n, p i ↔ q i) : Nat.count p n = Nat.count q n := by
  induction n with
  | zero => simp
  | succ n ih =>
    rw [Nat.count_succ, Nat.count_succ, ih fun i hi => h i (Nat.lt_succ_of_lt hi)]
    simp [h n (Nat.lt_succ_self n)]

variable {n p q : Nat}

/-- How often a place comes up before the counter reaches `z`. -/
theorem count_place (hp : p < n) (z : Nat) :
    Nat.count (· % n = p) z = z / n + if p < z % n then 1 else 0 := by
  have h := Nat.count_modEq_card z (Nat.lt_of_le_of_lt (Nat.zero_le p) hp) p
  simp only [Nat.ModEq, Nat.mod_eq_of_lt hp] at h
  exact h

/-- How often a place comes up while the counter moves from zero on by `x`. -/
theorem count_turns (n p x : Nat) :
    Nat.count (fun y => y % limit % n = p) x =
      x / limit * Nat.count (· % n = p) limit + Nat.count (· % n = p) (x % limit) := by
  have hround : ∀ z ≤ limit, Nat.count (fun y => y % limit % n = p) z = Nat.count (· % n = p) z :=
    fun z hz => count_congr fun i hi => by rw [Nat.mod_eq_of_lt (Nat.lt_of_lt_of_le hi hz)]
  have hrounds : ∀ k z, z ≤ limit → Nat.count (fun y => y % limit % n = p) (k * limit + z) =
      k * Nat.count (· % n = p) limit + Nat.count (· % n = p) z := by
    intro k z hz
    induction k with
    | zero => rw [Nat.zero_mul, Nat.zero_mul, Nat.zero_add, Nat.zero_add, hround z hz]
    | succ k ih =>
      have hshift : Nat.count (fun y => (limit + y) % limit % n = p) (k * limit + z) =
          Nat.count (fun y => y % limit % n = p) (k * limit + z) :=
        count_congr fun i _ => by rw [Nat.add_mod_left]
      rw [Nat.succ_mul, Nat.add_comm (k * limit), Nat.add_assoc, Nat.count_add, hshift, ih,
        hround limit (Nat.le_refl _), Nat.succ_mul]
      omega
  have hx := hrounds (x / limit) (x % limit) (Nat.le_of_lt (Nat.mod_lt _ (by decide)))
  rwa [Nat.div_add_mod'] at hx

/-- Of two places the first one is ahead by one at most. -/
theorem count_place_le (hpq : p ≤ q) (hq : q < n) (z : Nat) :
    Nat.count (· % n = q) z ≤ Nat.count (· % n = p) z ∧
      Nat.count (· % n = p) z ≤ Nat.count (· % n = q) z + 1 := by
  rw [count_place hq, count_place (Nat.lt_of_le_of_lt hpq hq)]
  split <;> split <;> omega

/-- What comes up among `m` turns behind the counter `b` comes up before the end but not before the
beginning. -/
theorem count_stretch (n p b m : Nat) :
    Nat.count (fun i => (b + 1 + i) % limit % n = p) m + Nat.count (· % n = p) ((b + 1) % limit) =
      ((b + 1 + m) / limit - (b + 1) / limit) * Nat.count (· % n = p) limit +
        Nat.count (· % n = p) ((b + 1 + m) % limit) := by
  have hcount : Nat.count (fun i => (b + 1 + i) % limit % n = p) m +
      ((b + 1) / limit * Nat.count (· % n = p) limit + Nat.count (· % n = p) ((b + 1) % limit)) =
        (b + 1 + m) / limit * Nat.count (· % n = p) limit +
          Nat.count (· % n = p) ((b + 1 + m) % limit) := by
    rw [← count_turns, ← count_turns, Nat.count_add _ (b + 1) m, Nat.add_comm]
  have hrounds : (b + 1) / limit * Nat.count (· % n = p) limit ≤
      (b + 1 + m) / limit * Nat.count (· % n = p) limit :=
    Nat.mul_le_mul_right _ (Nat.div_le_div_right (Nat.le_add_right _ _))
  rw [Nat.sub_mul]
  omega

/-- The counter begins again behind the first turn, or the stretch ends as it does. -/
theorem rounds_le (hn : ¬ limit % n = 0) (b m : Nat) :
    (b + 1 + m) / limit - (b + 1) / limit ≤
      breaks n b m + if (b + 1 + m) % limit = 0 then 1 else 0 := by
  rw [breaks, if_neg hn]
  by_cases hzero : (b + 1 + m) % limit = 0
  · rw [if_pos hzero]
    simp only [limit, UInt64.size]
    omega
  · rw [if_neg hzero]
    simp only [limit, UInt64.size] at hzero ⊢
    omega

/-- Among `m` turns behind the counter `b`, one place comes up no more often than another, one more, and
one more for each time that the order breaks off. -/
theorem count_stretch_le (hq : q < n) (b m : Nat) :
    Nat.count (fun i => (b + 1 + i) % limit % n = p) m ≤
      Nat.count (fun i => (b + 1 + i) % limit % n = q) m + 1 + breaks n b m := by
  by_cases hp : n ≤ p
  · have hnone : Nat.count (fun i => (b + 1 + i) % limit % n = p) m = 0 := by
      refine Nat.count_of_forall_not fun i _ hi => ?_
      have hlt : (b + 1 + i) % limit % n < n := Nat.mod_lt _ (Nat.lt_of_le_of_lt (Nat.zero_le q) hq)
      omega
    omega
  rw [Nat.not_le] at hp
  have hcp := count_stretch n p b m
  have hcq := count_stretch n q b m
  by_cases hn : limit % n = 0
  · have hlimit : Nat.count (· % n = p) limit = Nat.count (· % n = q) limit := by
      rw [count_place hp, count_place hq, hn, if_neg (Nat.not_lt_zero p), if_neg (Nat.not_lt_zero q)]
    rw [hlimit] at hcp
    rcases Nat.le_total p q with hpq | hqp
    · have hbegin := (count_place_le hpq hq ((b + 1) % limit)).1
      have hend := (count_place_le hpq hq ((b + 1 + m) % limit)).2
      omega
    · have hbegin := (count_place_le hqp hp ((b + 1) % limit)).2
      have hend := (count_place_le hqp hp ((b + 1 + m) % limit)).1
      omega
  have hrounds := rounds_le hn b m
  generalize (b + 1 + m) / limit - (b + 1) / limit = k at hcp hcq hrounds
  -- the place that is first in the list may get ahead each time, the other one only in the last round
  rcases Nat.le_total p q with hpq | hqp
  · have hlimit := Nat.mul_le_mul_left k (count_place_le hpq hq limit).2
    have hbegin := (count_place_le hpq hq ((b + 1) % limit)).1
    have hend := (count_place_le hpq hq ((b + 1 + m) % limit)).2
    rw [Nat.mul_add, Nat.mul_one] at hlimit
    by_cases hzero : (b + 1 + m) % limit = 0
    · rw [hzero, Nat.count_zero] at hcp hcq
      rw [if_pos hzero] at hrounds
      omega
    · rw [if_neg hzero] at hrounds
      omega
  · have hlimit := Nat.mul_le_mul_left k (count_place_le hqp hp limit).1
    have hbegin := (count_place_le hqp hp ((b + 1) % limit)).2
    have hend := (count_place_le hqp hp ((b + 1 + m) % limit)).1
    omega

end EntityStore.Rotation
