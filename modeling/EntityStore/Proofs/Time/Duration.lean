import EntityStore.Proofs.Number.Numeral
import EntityStore.Time.Duration
import Mathlib.Tactic.Ring

/-!
# Durations are read back

1. A number and a unit are read from the front of a text, and add so many units if that is not too much
   (`readGroups_group`).
2. So are several of them with blanks in between (`readGroups_groups`).
3. The unit text of a duration is such a list, and its groups add up to the duration
   (`parts_eq`, `sum_groups`). So it is read back (`parse?_text`).
-/

namespace EntityStore.Duration

/-! ## Units -/

/-- Whole units are counted in seconds, or in nanoseconds if they are less than a second. -/
theorem TimeUnit.wholeGrain_cases (u : TimeUnit) :
    (u.wholeGrain = 1 ∧ u.nanos / u.wholeGrain = u.nanos) ∨
      (u.wholeGrain = nanosPerSecond ∧ u.nanos / u.wholeGrain * nanosPerSecond = u.nanos) := by
  cases u <;> decide

theorem TimeUnit.ofSpelling?_eq {u : TimeUnit} {s : String} (h : s ∈ u.spellings) :
    TimeUnit.ofSpelling? s = some u := by
  revert s
  cases u <;> decide +kernel

/-- A unit is not taken for a part of the number before it, and it ends at a blank. -/
theorem TimeUnit.spelling_chars {u : TimeUnit} {s : String} (h : s ∈ u.spellings) :
    s.toList ≠ [] ∧ ∀ c ∈ s.toList,
      isUnitChar c = true ∧ Text.isBlank c = false ∧ Number.digit? c = none ∧ c ≠ '.' := by
  have hall : ∀ s ∈ u.spellings, s.toList ≠ [] ∧ s.toList.all fun c =>
      isUnitChar c && !Text.isBlank c && (Number.digit? c).isNone && c != '.' := by
    cases u <;> decide +kernel
  obtain ⟨hne, hchars⟩ := hall s h
  refine ⟨hne, fun c hc => ?_⟩
  have hc := List.all_eq_true.1 hchars c hc
  simp only [Bool.and_eq_true, Bool.not_eq_true', Option.isNone_iff_eq_none, bne_iff_ne] at hc
  exact ⟨hc.1.1.1, hc.1.1.2, hc.1.2, hc.2⟩

theorem ofNanos?_eq {n : Nat} (h : n < UInt64.size * nanosPerSecond) : ofNanos? n = some ⟨n, h⟩ :=
  dif_pos h

theorem addWhole?_eq {d : Duration} {u : TimeUnit} {n : Nat}
    (hfits : d.nanos + n * u.nanos < UInt64.size * nanosPerSecond)
    (hsmall : u.wholeGrain = 1 → n * u.nanos < nanosPerSecond) :
    d.addWhole? u n = some ⟨d.nanos + n * u.nanos, hfits⟩ := by
  have hsize : UInt64.size = 18446744073709551616 := rfl
  have hsecond : nanosPerSecond = 1000000000 := rfl
  rw [addWhole?]
  rcases u.wholeGrain_cases with ⟨hgrain, hunit⟩ | ⟨hgrain, hunit⟩
  · have hlt := hsmall hgrain
    have hsub : d.subsecond < nanosPerSecond := Nat.mod_lt _ (by decide)
    have hcount : n * u.nanos < UInt64.size := by omega
    have hsum : d.subsecond + n * u.nanos < UInt64.size := by omega
    rw [hunit, fit64?, if_pos hcount, Option.bind_some, add?, if_pos hgrain, fit64?, if_pos hsum,
      Option.bind_some, ofNanos?_eq hfits]
  · have hone : ¬ u.wholeGrain = 1 := by
      rw [hgrain]
      decide
    have hmul : n * (u.nanos / u.wholeGrain) * nanosPerSecond = n * u.nanos := by
      rw [Nat.mul_assoc, hunit]
    have hcount : n * (u.nanos / u.wholeGrain) < UInt64.size :=
      Nat.lt_of_mul_lt_mul_right (a := nanosPerSecond) (by omega)
    rw [fit64?, if_pos hcount, Option.bind_some, add?, if_neg hone, hgrain, ← ofNanos?_eq hfits]
    rw [hgrain] at hmul
    rw [hmul]

/-! ## A number and a unit -/

theorem readNumber_append {n : Nat} {ds rest : List Char} (hds : ∀ c ∈ ds, Number.isDigit c = true)
    (hfits : Nat.ofDigitChars 10 ds n < UInt64.size) :
    readNumber n (ds ++ rest) = readNumber (Nat.ofDigitChars 10 ds n) rest := by
  induction ds generalizing n with
  | nil => simp
  | cons c ds ih =>
    obtain ⟨hc, hds⟩ := List.forall_mem_cons.1 hds
    rw [Nat.ofDigitChars_cons] at hfits ⊢
    have hle := Number.le_ofDigitChars ds (10 * n + (c.toNat - '0'.toNat))
    rw [Number.isDigit_eq] at hc
    rw [List.cons_append, readNumber, Number.digit?_eq, if_pos hc]
    dsimp only
    rw [Nat.mul_comm n 10, fit64?, if_pos (by omega), Option.bind_some, ih hds hfits]

theorem readGroups_blank (d : Duration) (rest : List Char) :
    readGroups d (' ' :: rest) = readGroups d rest := by
  rw [readGroups, if_pos (by decide)]

theorem readGroups_digit {d : Duration} {c : Char} {m n : Nat} {rest afterNumber afterPoint : List Char}
    {fraction : Option Fraction} (hblank : Text.isBlank c = false) (hdigit : Number.digit? c = some m)
    (hnumber : readNumber m rest = some (n, afterNumber))
    (hpoint : readPoint? afterNumber = some (fraction, afterPoint)) :
    readGroups d (c :: rest) =
      ((TimeUnit.ofSpelling? (String.ofList (afterPoint.takeWhile isUnitChar))).bind fun unit =>
        (d.addWhole? unit n).bind (·.addFraction? unit fraction)).bind
      (readGroups · (afterPoint.dropWhile isUnitChar)) := by
  rw [readGroups, hblank, hdigit]
  dsimp only
  rw [if_neg (by decide)]
  split
  · simp_all
  · next hnumber' =>
    rw [hnumber] at hnumber'
    cases hnumber'
    split
    · simp_all
    · next hpoint' =>
      rw [hpoint] at hpoint'
      cases hpoint'
      split <;> next hsum => rw [hsum]; rfl

theorem isBlank_of_isDigit {c : Char} (h : Number.isDigit c = true) : Text.isBlank c = false := by
  have hrange : ∀ n ≤ 57, 48 ≤ n → Text.blankRanges.contains n = false := by decide
  rw [Number.isDigit_eq, Char.isDigit_iff_toNat] at h
  exact hrange c.toNat h.2 h.1

/-- What may follow a group: nothing, or a blank. -/
def Parted (rest : List Char) : Prop := ∀ c ∈ rest.head?, c = ' '

/-- A number and a unit at the front of a text are added. -/
theorem readGroups_group {d d' : Duration} {u : TimeUnit} {n : Nat} {unit : String}
    {rest : List Char} (hunit : unit ∈ u.spellings) (hn : n < UInt64.size)
    (hadd : d.addWhole? u n = some d') (hrest : Parted rest) :
    readGroups d (Nat.toDigits 10 n ++ unit.toList ++ rest) = readGroups d' rest := by
  obtain ⟨hne, hchars⟩ := TimeUnit.spelling_chars hunit
  have hhead : ∀ c ∈ rest.head?, isUnitChar c = false := fun c hc => by rw [hrest c hc]; decide
  have htake : (unit.toList ++ rest).takeWhile isUnitChar = unit.toList := by
    rw [List.takeWhile_append_of_pos fun c hc => (hchars c hc).1]
    cases rest with
    | nil => simp
    | cons c rest => simp [hhead c rfl]
  have hdrop : (unit.toList ++ rest).dropWhile isUnitChar = rest := by
    rw [List.dropWhile_append_of_pos fun c hc => (hchars c hc).1]
    cases rest with
    | nil => simp
    | cons c rest => simp [hhead c rfl]
  obtain ⟨v, vs, hv⟩ := List.exists_cons_of_ne_nil hne
  obtain ⟨-, hvblank, hvdigit, hvpoint⟩ := hchars v (by simp [hv])
  obtain ⟨c, ds, hds⟩ := List.exists_cons_of_ne_nil (Nat.toDigits_ne_nil (b := 10) (n := n))
  have hdigits : ∀ x ∈ c :: ds, Number.isDigit x = true :=
    fun x hx => Number.isDigit_of_mem_toDigits (hds ▸ hx)
  have hvalue : Nat.ofDigitChars 10 ds (c.toNat - '0'.toNat) = n := by
    have h := Nat.ofDigitChars_ten_toDigits (n := n)
    rwa [hds, Nat.ofDigitChars_cons, Nat.mul_zero, Nat.zero_add] at h
  have hnumber : readNumber (c.toNat - '0'.toNat) (ds ++ (unit.toList ++ rest)) =
      some (n, unit.toList ++ rest) := by
    rw [readNumber_append (fun x hx => hdigits x (List.mem_cons_of_mem _ hx)) (hvalue ▸ hn), hvalue,
      hv, List.cons_append, readNumber, hvdigit]
    simp [hvblank]
  have hpoint : readPoint? (unit.toList ++ rest) = some (none, unit.toList ++ rest) := by
    rw [hv, List.cons_append, readPoint?]
    simpa using hvpoint
  have hc := hdigits c List.mem_cons_self
  have hdigit : Number.digit? c = some (c.toNat - '0'.toNat) := by
    rw [Number.digit?_eq, if_pos (Number.isDigit_eq c ▸ hc)]
  rw [hds, List.append_assoc, List.cons_append,
    readGroups_digit (isBlank_of_isDigit hc) hdigit hnumber hpoint, htake, hdrop, String.ofList_toList,
    TimeUnit.ofSpelling?_eq hunit, Option.bind_some, hadd]
  rfl

/-! ## Groups -/

/-- A number of one unit, in one of the unit's spellings. -/
structure Group where
  count : Nat
  unit : TimeUnit
  spelling : String

namespace Group

def nanos (g : Group) : Nat := g.count * g.unit.nanos

def text (g : Group) : String := toString g.count ++ g.spelling

/-- The text of a group is read, wherever the sum fits: units that are less than a second do not make up
a second. -/
structure Proper (g : Group) : Prop where
  spelled : g.spelling ∈ g.unit.spellings
  fits : g.count < UInt64.size
  below : g.unit.wholeGrain = 1 → g.nanos < nanosPerSecond

end Group

theorem readGroups_text {d : Duration} {g : Group} (hg : g.Proper) {rest : List Char}
    (hrest : Parted rest) (hfits : d.nanos + g.nanos < UInt64.size * nanosPerSecond) :
    readGroups d (g.text.toList ++ rest) = readGroups ⟨d.nanos + g.nanos, hfits⟩ rest := by
  rw [Group.text, String.toList_append, Nat.toString_eq_ofList_toDigits, String.toList_ofList]
  exact readGroups_group hg.spelled hg.fits (addWhole?_eq hfits hg.below) hrest

/-- Groups with blanks in between are added up. -/
theorem readGroups_groups {gs : List Group} (hgs : ∀ g ∈ gs, g.Proper) {d : Duration}
    (hfits : d.nanos + (gs.map Group.nanos).sum < UInt64.size * nanosPerSecond) :
    readGroups d (String.intercalate " " (gs.map Group.text)).toList =
      some ⟨d.nanos + (gs.map Group.nanos).sum, hfits⟩ := by
  induction gs generalizing d with
  | nil => simp [readGroups]
  | cons g gs ih =>
    obtain ⟨hg, hgs⟩ := List.forall_mem_cons.1 hgs
    simp only [List.map_cons, List.sum_cons, ← Nat.add_assoc] at hfits ⊢
    have hsum : d.nanos + g.nanos < UInt64.size * nanosPerSecond :=
      Nat.lt_of_le_of_lt (Nat.le_add_right _ _) hfits
    have hrest := ih hgs (d := ⟨d.nanos + g.nanos, hsum⟩) hfits
    cases gs with
    | nil =>
      have hlast : readGroups d (g.text.toList ++ []) = readGroups ⟨d.nanos + g.nanos, hsum⟩ [] :=
        readGroups_text hg (by simp [Parted]) hsum
      simpa [readGroups] using hlast
    | cons g' gs =>
      rw [List.map_cons, String.intercalate_cons_cons, String.toList_append, String.toList_append,
        List.append_assoc, readGroups_text hg _ hsum]
      · exact (readGroups_blank _ _).trans hrest
      · simp [Parted]

/-! ## The groups of a duration -/

/-- The groups of a duration, zeros included. -/
def groups (d : Duration) : List Group :=
  let s := d.seconds
  let n := d.subsecond
  let plural (n : Nat) (unit : String) := if 1 < n then unit ++ "s" else unit
  let years := s / 31557600
  let months := s % 31557600 / 2630016
  let days := s % 31557600 % 2630016 / 86400
  [⟨years, .year, plural years "year"⟩, ⟨months, .month, plural months "month"⟩,
    ⟨days, .day, plural days "day"⟩, ⟨s % 31557600 % 2630016 % 86400 / 3600, .hour, "h"⟩,
    ⟨s % 31557600 % 2630016 % 86400 % 3600 / 60, .minute, "m"⟩,
    ⟨s % 31557600 % 2630016 % 86400 % 60, .second, "s"⟩, ⟨n / 1_000_000, .millisecond, "ms"⟩,
    ⟨n / 1_000 % 1_000, .microsecond, "us"⟩, ⟨n % 1_000, .nanosecond, "ns"⟩]

/-- The groups that are written. -/
def written (gs : List Group) : List Group := gs.filter (·.count ≠ 0)

theorem map_text_written_cons (n : Nat) (unit : TimeUnit) (spelling : String) (gs : List Group) :
    (written (⟨n, unit, spelling⟩ :: gs)).map Group.text =
      part n spelling ++ (written gs).map Group.text := by
  by_cases hn : n = 0 <;> simp [written, part, hn, Group.text]

theorem sum_written (gs : List Group) :
    ((written gs).map Group.nanos).sum = (gs.map Group.nanos).sum := by
  induction gs with
  | nil => rfl
  | cons g gs ih =>
    by_cases hg : g.count = 0
    · rw [written, List.filter_cons_of_neg (by simpa using hg), ← written, ih, List.map_cons,
        List.sum_cons, Group.nanos, hg, Nat.zero_mul, Nat.zero_add]
    · rw [written, List.filter_cons_of_pos (by simpa using hg), ← written, List.map_cons,
        List.map_cons, List.sum_cons, List.sum_cons, ih]

theorem parts_eq (d : Duration) : d.parts = (written d.groups).map Group.text := by
  have hnil : (written []).map Group.text = [] := rfl
  simp only [groups, map_text_written_cons, parts, pluralPart, List.append_assoc, hnil,
    List.append_nil]

/-- By `rw`, for as a definitional equation it has the kernel count up to the units' lengths. -/
theorem sum_nanos_cons (n : Nat) (unit : TimeUnit) (spelling : String) (gs : List Group) :
    ((⟨n, unit, spelling⟩ :: gs).map Group.nanos).sum =
      n * unit.nanos + (gs.map Group.nanos).sum := by
  rw [List.map_cons, List.sum_cons, Group.nanos]

theorem sum_groups (d : Duration) : (d.groups.map Group.nanos).sum = d.nanos := by
  have hseconds : d.seconds = d.seconds / 31557600 * 31557600 +
      (d.seconds % 31557600 / 2630016 * 2630016 +
      (d.seconds % 31557600 % 2630016 / 86400 * 86400 +
      (d.seconds % 31557600 % 2630016 % 86400 / 3600 * 3600 +
      (d.seconds % 31557600 % 2630016 % 86400 % 3600 / 60 * 60 +
        d.seconds % 31557600 % 2630016 % 86400 % 60)))) := by omega
  have hsubsecond : d.subsecond = d.subsecond / 1000000 * 1000000 +
      (d.subsecond / 1000 % 1000 * 1000 + d.subsecond % 1000) := by omega
  have hnanos : d.nanos = d.seconds * nanosPerSecond + d.subsecond :=
    (Nat.div_add_mod' d.nanos nanosPerSecond).symm
  rw [hnanos]
  conv_rhs => rw [hseconds, hsubsecond]
  simp only [groups, sum_nanos_cons, List.map_nil, List.sum_nil, TimeUnit.nanos]
  ring

theorem proper_groups (d : Duration) : ∀ g ∈ d.groups, g.Proper := by
  have hseconds : d.seconds < UInt64.size :=
    Nat.div_lt_of_lt_mul (Nat.mul_comm _ _ ▸ d.lt_limit)
  have hsubsecond : d.subsecond < 1000000000 := Nat.mod_lt _ (by decide)
  have hwhole : ∀ {n unit spelling}, spelling ∈ TimeUnit.spellings unit → n ≤ d.seconds →
      unit.wholeGrain ≠ 1 → (⟨n, unit, spelling⟩ : Group).Proper :=
    fun hspelled hn hgrain => ⟨hspelled, Nat.lt_of_le_of_lt hn hseconds, fun h => absurd h hgrain⟩
  have hpart : ∀ {n unit spelling}, spelling ∈ TimeUnit.spellings unit →
      n * unit.nanos < nanosPerSecond → (⟨n, unit, spelling⟩ : Group).Proper := by
    intro n unit spelling hspelled hn
    have hle : n ≤ n * unit.nanos := Nat.le_mul_of_pos_right n (by cases unit <;> decide)
    exact ⟨hspelled, Nat.lt_of_le_of_lt hle (Nat.lt_trans hn (by decide)), fun _ => hn⟩
  simp only [groups, List.forall_mem_cons, List.not_mem_nil, false_imp_iff, implies_true, and_true]
  refine ⟨hwhole ?_ ?_ ?_, hwhole ?_ ?_ ?_, hwhole ?_ ?_ ?_, hwhole ?_ ?_ ?_, hwhole ?_ ?_ ?_,
    hwhole ?_ ?_ ?_, hpart ?_ ?_, hpart ?_ ?_, hpart ?_ ?_⟩
  any_goals decide
  any_goals simp only [TimeUnit.nanos, nanosPerSecond]; omega
  any_goals omega
  all_goals split <;> decide

/-! ## Reading back -/

theorem Group.text_toList (g : Group) :
    ∃ c cs, g.text.toList = c :: cs ++ g.spelling.toList ∧ Number.isDigit c = true := by
  obtain ⟨c, ds, hds⟩ := List.exists_cons_of_ne_nil (Nat.toDigits_ne_nil (b := 10) (n := g.count))
  refine ⟨c, ds, ?_, Number.isDigit_of_mem_toDigits (hds ▸ List.mem_cons_self)⟩
  rw [Group.text, String.toList_append, Nat.toString_eq_ofList_toDigits, String.toList_ofList, hds]

/-- A text of groups begins with a digit, and goes on after the number. -/
theorem intercalate_toList {g : Group} (hg : g.Proper) (gs : List Group) :
    ∃ c cs, (String.intercalate " " ((g :: gs).map Group.text)).toList = c :: cs ∧ cs ≠ [] ∧
      Number.isDigit c = true := by
  obtain ⟨c, cs, htext, hdigit⟩ := g.text_toList
  have hne := (TimeUnit.spelling_chars hg.spelled).1
  cases gs with
  | nil =>
    refine ⟨c, cs ++ g.spelling.toList, ?_, by simp [hne], hdigit⟩
    simpa using htext
  | cons g' gs =>
    rw [List.map_cons, List.map_cons, String.intercalate_cons_cons, String.toList_append,
      String.toList_append, htext]
    exact ⟨c, _, rfl, by simp [hne], hdigit⟩

/-- The unit text of a duration is read as the duration. -/
theorem parse?_text (d : Duration) : parse? d.text = some d := by
  by_cases hzero : d.nanos = 0
  · obtain rfl : d = zero := by cases d; cases hzero; rfl
    decide +kernel
  · have hsum : ((written d.groups).map Group.nanos).sum = d.nanos := by
      rw [sum_written, sum_groups]
    have hproper : ∀ g ∈ written d.groups, g.Proper :=
      fun g hg => proper_groups d g (List.mem_filter.1 hg).1
    have htext : d.text = String.intercalate " " ((written d.groups).map Group.text) := by
      rw [text, isZero, if_neg (by simpa using hzero), parts_eq]
    have hread := readGroups_groups hproper (d := zero)
      (by rw [hsum]; simpa [zero] using d.lt_limit)
    obtain ⟨c, cs, hcs, hne, hdigit⟩ : ∃ c cs, d.text.toList = c :: cs ∧ cs ≠ [] ∧
        Number.isDigit c = true := by
      rw [htext]
      cases hgs : written d.groups with
      | nil => simp [hgs, eq_comm, hzero] at hsum
      | cons g gs => exact intercalate_toList (hproper g (hgs ▸ List.mem_cons_self)) gs
    have hzeroText : d.text ≠ "0" := by
      intro h
      rw [h] at hcs
      exact hne (List.cons.inj hcs).2.symm
    rw [parse?, if_neg hzeroText, if_neg (by simp [hcs, isBlank_of_isDigit hdigit]), htext, hread]
    simp [hsum, zero]

end EntityStore.Duration
