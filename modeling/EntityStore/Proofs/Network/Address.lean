import EntityStore.Network.Resolver
import Mathlib.Data.List.TakeWhile
import Mathlib.Data.Nat.Digits.Defs

/-!
# Addresses are read back as they were written

`IpAddr.parse?` reads from `IpAddr.text a` the address `a`, so different addresses have different texts
(`IpAddr.text_injective`). For eight groups the text has one of three forms:

* all groups with colons between them, when no two zero groups are neighbours;
* the groups in front of and behind a run of zero groups, with `::` for the run. The reader takes the
  first `::` it meets, and groups with colons between them have none (`splitDoubleColon_groupsText`);
* four octets behind `::ffff:`.

Octets have no colon and groups do, so the reader, which tries octets first, never takes one for the
other.
-/

namespace EntityStore

namespace Text

/-! ## Digits -/

theorem forall_mem_toDigits {b : Nat} (hb : 1 < b) {P : Char → Prop}
    (h : ∀ d < b, P d.digitChar) (n : Nat) : ∀ c ∈ Nat.toDigits b n, P c := by
  induction n using Nat.strongRecOn with
  | ind n ih =>
    intro c hc
    by_cases hn : n < b
    · rw [Nat.toDigits_of_lt_base hn, List.mem_singleton] at hc
      rw [hc]
      exact h n hn
    · rw [Nat.toDigits_of_base_le hb (by omega)] at hc
      rcases List.mem_append.mp hc with hc | hc
      · exact ih (n / b) (Nat.div_lt_self (by omega) hb) c hc
      · rw [List.mem_singleton.mp hc]
        exact h (n % b) (Nat.mod_lt n (by omega))

theorem hexDigit?_digitChar {d : Nat} (h : d < 16) : hexDigit? d.digitChar = some d := by
  revert d
  decide

theorem hexNumber?_append_singleton {s : List Char} {c : Char} {n d : Nat}
    (hs : hexNumber? s = some n) (hc : hexDigit? c = some d) :
    hexNumber? (s ++ [c]) = some (n * 16 + d) := by
  obtain ⟨digits, hd, rfl⟩ := Option.map_eq_some_iff.mp hs
  simp [hexNumber?, List.mapM_append, hd, hc]

theorem hexNumber?_toDigits (n : Nat) : hexNumber? (Nat.toDigits 16 n) = some n := by
  induction n using Nat.strongRecOn with
  | ind n ih =>
    by_cases hn : n < 16
    · rw [Nat.toDigits_of_lt_base hn]
      simp [hexNumber?, hexDigit?_digitChar hn]
    · have hmod := Nat.mod_lt n (show 0 < 16 by omega)
      rw [Nat.toDigits_of_base_le (by omega) (by omega),
        hexNumber?_append_singleton (ih (n / 16) (by omega)) (hexDigit?_digitChar hmod)]
      congr 1
      omega

end Text

namespace IpAddr

/-! ## Parts between separators -/

theorem splitAt_of_not_mem {sep : Char} {s : List Char} (h : sep ∉ s) : splitAt sep s = [s] := by
  induction s with
  | nil => rfl
  | cons c rest ih =>
    rw [List.mem_cons, not_or] at h
    rw [splitAt, if_neg (Ne.symm h.1), ih h.2]

theorem splitAt_append {sep : Char} {s : List Char} (h : sep ∉ s) (rest : List Char) :
    splitAt sep (s ++ sep :: rest) = s :: splitAt sep rest := by
  induction s with
  | nil => rw [List.nil_append, splitAt, if_pos rfl]
  | cons c s ih =>
    rw [List.mem_cons, not_or] at h
    rw [List.cons_append, splitAt, if_neg (Ne.symm h.1), ih h.2]

theorem flatten_splitAt (sep : Char) (s : List Char) :
    (splitAt sep s).flatten = s.filter (· ≠ sep) := by
  induction s with
  | nil => rfl
  | cons c s ih =>
    rw [splitAt]
    by_cases hc : c = sep
    · simpa [hc] using ih
    · rw [if_neg hc, List.filter_cons_of_pos (by simpa using hc), ← ih]
      cases splitAt sep s <;> rfl

/-! ## Octets -/

theorem readOctet?_toDigits {n : Nat} (h : n < 256) :
    readOctet? (Nat.toDigits 10 n) = some (UInt8.ofNat n) := by
  have hall : ∀ n : Fin 256, readOctet? (Nat.toDigits 10 n) = some (UInt8.ofNat n) := by
    decide +kernel
  exact hall ⟨n, h⟩

theorem not_mem_octet {c : Char} (hc : ∀ d < 10, c ≠ d.digitChar) (n : Nat) :
    c ∉ Nat.toDigits 10 n := by
  intro h
  exact Text.forall_mem_toDigits (P := (c ≠ ·)) (by omega) hc n c h rfl

theorem splitAt_octetsText (a b c d : Nat) :
    splitAt '.' (octetsText a b c d) =
      [Nat.toDigits 10 a, Nat.toDigits 10 b, Nat.toDigits 10 c, Nat.toDigits 10 d] := by
  have hdot : ∀ n, '.' ∉ Nat.toDigits 10 n := not_mem_octet (by decide)
  simp only [octetsText, List.append_assoc, List.cons_append]
  rw [splitAt_append (hdot a), splitAt_append (hdot b), splitAt_append (hdot c),
    splitAt_of_not_mem (hdot d)]

theorem readOctets?_octetsText {a b c d : Nat} (ha : a < 256) (hb : b < 256) (hc : c < 256)
    (hd : d < 256) :
    readOctets? (octetsText a b c d) =
      some (UInt8.ofNat a, UInt8.ofNat b, UInt8.ofNat c, UInt8.ofNat d) := by
  rw [readOctets?, splitAt_octetsText]
  simp [readOctet?_toDigits, ha, hb, hc, hd]

theorem colon_not_mem_octetsText (a b c d : Nat) : ':' ∉ octetsText a b c d := by
  have hcolon : ∀ n, ':' ∉ Nat.toDigits 10 n := not_mem_octet (by decide)
  simp [octetsText, hcolon]

theorem readOctet?_of_colon_mem {s : List Char} (h : ':' ∈ s) : readOctet? s = none := by
  unfold readOctet?
  split
  · rfl
  · rfl
  · rw [if_neg]
    rintro ⟨-, hall⟩
    have hcolon := List.all_eq_true.mp hall ':' h
    revert hcolon
    decide

theorem readOctets?_of_colon_mem {s : List Char} (h : ':' ∈ s) : readOctets? s = none := by
  have hmem : ':' ∈ (splitAt '.' s).flatten := by
    rw [flatten_splitAt]
    exact List.mem_filter.mpr ⟨h, rfl⟩
  obtain ⟨part, hpart, hcolon⟩ := List.mem_flatten.mp hmem
  obtain ⟨front, back, hsplit⟩ := List.append_of_mem hpart
  rw [readOctets?, hsplit, List.mapM_append]
  simp [readOctet?_of_colon_mem hcolon]

/-! ## Groups -/

theorem readGroup?_toDigits (g : UInt16) : readGroup? (Nat.toDigits 16 g.toNat) = some g := by
  have hlength : (Nat.toDigits 16 g.toNat).length ≤ 4 :=
    (Nat.length_toDigits_le_iff (by omega) (by omega)).mpr g.toNat_lt
  have hpos := Nat.length_toDigits_pos (b := 16) (n := g.toNat)
  have hne : Nat.toDigits 16 g.toNat ≠ [] := List.ne_nil_of_length_pos hpos
  rw [readGroup?, if_neg (by simp [hne]; omega), Text.hexNumber?_toDigits]
  simp

theorem not_mem_group {c : Char} (hc : ∀ d < 16, c ≠ d.digitChar) (n : Nat) :
    c ∉ Nat.toDigits 16 n := by
  intro h
  exact Text.forall_mem_toDigits (P := (c ≠ ·)) (by omega) hc n c h rfl

theorem colon_not_mem_group (n : Nat) : ':' ∉ Nat.toDigits 16 n := not_mem_group (by decide) n

theorem groupsText_cons (g : UInt16) {gs : List UInt16} (h : gs ≠ []) :
    groupsText (g :: gs) = Nat.toDigits 16 g.toNat ++ ':' :: groupsText gs := by
  cases gs with
  | nil => exact absurd rfl h
  | cons g' gs => rfl

theorem splitAt_groupsText {gs : List UInt16} (h : gs ≠ []) :
    splitAt ':' (groupsText gs) = gs.map fun g => Nat.toDigits 16 g.toNat := by
  induction gs with
  | nil => exact absurd rfl h
  | cons g gs ih =>
    by_cases hgs : gs = []
    · subst hgs
      exact splitAt_of_not_mem (colon_not_mem_group g.toNat)
    · rw [groupsText_cons g hgs, splitAt_append (colon_not_mem_group g.toNat), ih hgs, List.map_cons]

theorem readGroups?_map_toDigits (octets : Bool) (gs : List UInt16) :
    readGroups? octets (gs.map fun g => Nat.toDigits 16 g.toNat) = some gs := by
  induction gs with
  | nil => rfl
  | cons g gs ih =>
    cases gs with
    | nil => simp [readGroups?, readGroup?_toDigits]
    | cons g' gs =>
      rw [List.map_cons] at ih
      rw [List.map_cons, List.map_cons, readGroups?, ih, readGroup?_toDigits]
      exact List.cons_ne_nil _ _

theorem groupsText_eq_nil_iff {gs : List UInt16} : groupsText gs = [] ↔ gs = [] := by
  have hpos : ∀ n, Nat.toDigits 16 n ≠ [] := fun n =>
    List.ne_nil_of_length_pos Nat.length_toDigits_pos
  cases gs with
  | nil => simp [groupsText]
  | cons g gs => cases gs <;> simp [groupsText, hpos]

theorem readGroupsText?_groupsText (octets : Bool) (gs : List UInt16) :
    readGroupsText? octets (groupsText gs) = some gs := by
  unfold readGroupsText?
  by_cases h : gs = []
  · subst h
    rfl
  · rw [if_neg (by simpa [groupsText_eq_nil_iff] using h), splitAt_groupsText h,
      readGroups?_map_toDigits]

/-! ## The first double colon -/

theorem splitDoubleColon_cons {c : Char} {rest : List Char} (h : c = ':' → rest.head? ≠ some ':')
    (before : List Char) :
    splitDoubleColon before (c :: rest) = splitDoubleColon (c :: before) rest := by
  rw [splitDoubleColon]
  rintro rest' hc rfl
  exact h hc rfl

theorem splitDoubleColon_append {s : List Char} (h : ':' ∉ s) (before rest : List Char) :
    splitDoubleColon before (s ++ rest) = splitDoubleColon (s.reverse ++ before) rest := by
  induction s generalizing before with
  | nil => rfl
  | cons c s ih =>
    rw [List.mem_cons, not_or] at h
    rw [List.cons_append, splitDoubleColon_cons (fun hc => absurd hc.symm h.1), ih h.2,
      List.reverse_cons, List.append_assoc, List.singleton_append]

theorem head?_groupsText_append {gs : List UInt16} (h : gs ≠ []) (rest : List Char) :
    (groupsText gs ++ rest).head? ≠ some ':' := by
  obtain ⟨g, gs, rfl⟩ := List.exists_cons_of_ne_nil h
  have hg : ∃ tail, groupsText (g :: gs) = Nat.toDigits 16 g.toNat ++ tail := by
    by_cases hgs : gs = []
    · subst hgs
      exact ⟨[], (List.append_nil _).symm⟩
    · exact ⟨_, groupsText_cons g hgs⟩
  obtain ⟨tail, hg⟩ := hg
  have hpos := Nat.length_toDigits_pos (b := 16) (n := g.toNat)
  obtain ⟨c, digits, hc⟩ := List.exists_cons_of_length_pos hpos
  have hcolon := colon_not_mem_group g.toNat
  rw [hc] at hg hcolon
  rw [hg]
  intro hhead
  rw [Option.some.inj hhead] at hcolon
  exact hcolon (List.mem_cons_self ..)

theorem splitDoubleColon_groupsText_append (gs : List UInt16) (before rest : List Char) :
    splitDoubleColon before (groupsText gs ++ ':' :: ':' :: rest) =
      some (before.reverse ++ groupsText gs, rest) := by
  induction gs generalizing before with
  | nil => simp [groupsText, splitDoubleColon]
  | cons g gs ih =>
    by_cases hgs : gs = []
    · subst hgs
      rw [groupsText, splitDoubleColon_append (colon_not_mem_group g.toNat), splitDoubleColon]
      simp
    · rw [groupsText_cons g hgs, List.append_assoc, List.cons_append,
        splitDoubleColon_append (colon_not_mem_group g.toNat),
        splitDoubleColon_cons fun _ => head?_groupsText_append hgs _, ih]
      simp

theorem splitDoubleColon_groupsText (gs : List UInt16) (before : List Char) :
    splitDoubleColon before (groupsText gs) = none := by
  induction gs generalizing before with
  | nil => rfl
  | cons g gs ih =>
    by_cases hgs : gs = []
    · subst hgs
      rw [groupsText, ← List.append_nil (Nat.toDigits _ _),
        splitDoubleColon_append (colon_not_mem_group g.toNat), splitDoubleColon]
    · have hhead := head?_groupsText_append hgs []
      rw [List.append_nil] at hhead
      rw [groupsText_cons g hgs, splitDoubleColon_append (colon_not_mem_group g.toNat),
        splitDoubleColon_cons fun _ => hhead, ih]

/-! ## Runs of zero groups -/

theorem take_zeroRun (gs : List UInt16) :
    gs.take (zeroRun gs) = List.replicate (zeroRun gs) 0 := by
  have hprefix := List.prefix_iff_eq_take.mp (List.takeWhile_prefix (p := (· == (0 : UInt16))) (l := gs))
  rw [zeroRun, ← hprefix, List.eq_replicate_iff]
  exact ⟨rfl, fun g hg => by simpa using List.mem_takeWhile_imp hg⟩

theorem zeroRun_le_length (gs : List UInt16) : zeroRun gs ≤ gs.length :=
  (List.takeWhile_prefix _).length_le

/-- The longest run of zero groups stands among the groups and has no others. -/
theorem longestZeroRun_spec (gs : List UInt16) (start : Nat) :
    start ≤ (longestZeroRun start gs).1 ∧
      (longestZeroRun start gs).1 - start + (longestZeroRun start gs).2 ≤ gs.length ∧
      (gs.drop ((longestZeroRun start gs).1 - start)).take (longestZeroRun start gs).2 =
        List.replicate (longestZeroRun start gs).2 0 := by
  induction gs generalizing start with
  | nil => simp [longestZeroRun]
  | cons g gs ih =>
    obtain ⟨hle, hlength, hzero⟩ := ih (start + 1)
    rw [longestZeroRun]
    split
    · have hrun := zeroRun_le_length (g :: gs)
      rw [Nat.sub_self, List.drop_zero]
      exact ⟨Nat.le_refl _, by omega, take_zeroRun (g :: gs)⟩
    · have hshift : (longestZeroRun (start + 1) gs).1 - start =
          (longestZeroRun (start + 1) gs).1 - (start + 1) + 1 := by omega
      rw [hshift, List.drop_succ_cons, List.length_cons]
      exact ⟨by omega, by omega, hzero⟩

theorem fill_longestZeroRun (gs : List UInt16) :
    gs.take (longestZeroRun 0 gs).1 ++ List.replicate (longestZeroRun 0 gs).2 0 ++
      gs.drop ((longestZeroRun 0 gs).1 + (longestZeroRun 0 gs).2) = gs := by
  obtain ⟨-, -, hzero⟩ := longestZeroRun_spec gs 0
  rw [Nat.sub_zero] at hzero
  rw [← hzero, ← List.drop_drop, List.append_assoc, List.take_append_drop, List.take_append_drop]

/-! ## Addresses -/

theorem readV6?_of_groups {s : List Char} {groups : Vector UInt16 8}
    (h : readV6Groups? s = some groups.toList) : readV6? s = some groups := by
  obtain ⟨groups, hsize⟩ := groups
  rw [readV6?, h]
  simp [hsize]

theorem group_of_octets (x : UInt16) :
    (UInt8.ofNat (x.toNat / 256)).toUInt16 * 256 + (UInt8.ofNat (x.toNat % 256)).toUInt16 = x := by
  have hx := x.toNat_lt
  apply UInt16.toNat_inj.mp
  simp
  omega

theorem readGroup?_octetsText (a b c d : Nat) : readGroup? (octetsText a b c d) = none := by
  have hdot : Text.hexNumber? (octetsText a b c d) = none := by
    have hsplit : octetsText a b c d = Nat.toDigits 10 a ++ '.' ::
        (Nat.toDigits 10 b ++ '.' :: (Nat.toDigits 10 c ++ '.' :: Nat.toDigits 10 d)) := by
      simp [octetsText]
    have hdigit : Text.hexDigit? '.' = none := by decide
    rw [hsplit, Text.hexNumber?, List.mapM_append, List.mapM_cons, hdigit]
    cases (Nat.toDigits 10 a).mapM Text.hexDigit? <;> rfl
  unfold readGroup?
  split
  · rfl
  · rw [hdot]
    rfl

/-- Four octets behind a group. -/
theorem readGroupsText?_mapped (x y : UInt16) :
    readGroupsText? true ("ffff:".toList ++ octetsText (x.toNat / 256) (x.toNat % 256)
      (y.toNat / 256) (y.toNat % 256)) = some [0xffff, x, y] := by
  have hx := x.toNat_lt
  have hy := y.toNat_lt
  generalize ho : octetsText (x.toNat / 256) (x.toNat % 256) (y.toNat / 256) (y.toNat % 256) = o
  have hcolon : ':' ∉ o := by
    rw [← ho]
    exact colon_not_mem_octetsText _ _ _ _
  have hsplit : splitAt ':' ("ffff:".toList ++ o) = ["ffff".toList, o] := by
    have hf : ':' ∉ "ffff".toList := by decide
    have happ : "ffff:".toList ++ o = "ffff".toList ++ ':' :: o := rfl
    rw [happ, splitAt_append hf, splitAt_of_not_mem hcolon]
  have hgroup : readGroup? "ffff".toList = some 0xffff := by decide +kernel
  have hlast : readGroups? true [o] = some [x, y] := by
    rw [readGroups?, ← ho, readGroup?_octetsText]
    dsimp only
    rw [if_pos rfl, readOctets?_octetsText (by omega) (by omega) (by omega) (by omega)]
    simp only [Option.map_some, group_of_octets]
  have hne : ("ffff:".toList ++ o).isEmpty = false := rfl
  rw [readGroupsText?, hne, if_neg Bool.false_ne_true, hsplit, readGroups?, hgroup, hlast]
  exact List.cons_ne_nil _ _

theorem readV6Groups?_of_split {s before later : List Char} {front back : List UInt16}
    (hs : splitDoubleColon [] s = some (before, later))
    (hf : readGroupsText? false before = some front) (hb : readGroupsText? true later = some back)
    (hle : front.length + back.length ≤ 7) :
    readV6Groups? s =
      some (front ++ List.replicate (8 - (front.length + back.length)) 0 ++ back) := by
  rw [readV6Groups?, hs]
  dsimp only
  rw [hf, hb]
  exact if_pos hle

theorem readV6Groups?_v6Text {gs : List UInt16} (h : gs.length = 8) :
    readV6Groups? (v6Text gs) = some gs := by
  unfold v6Text
  split
  · rename_i x y
    have hsplit : splitDoubleColon [] ("::ffff:".toList ++ octetsText (x.toNat / 256) (x.toNat % 256)
        (y.toNat / 256) (y.toNat % 256)) = some ([], "ffff:".toList ++ octetsText (x.toNat / 256)
          (x.toNat % 256) (y.toNat / 256) (y.toNat % 256)) := rfl
    exact readV6Groups?_of_split hsplit rfl (readGroupsText?_mapped x y) (by simp)
  · obtain ⟨-, hle, -⟩ := longestZeroRun_spec gs 0
    have hfill := fill_longestZeroRun gs
    generalize longestZeroRun 0 gs = run at hle hfill ⊢
    obtain ⟨start, length⟩ := run
    dsimp only at hle hfill ⊢
    by_cases hlength : 1 < length
    · have hfew : (gs.take start).length + (gs.drop (start + length)).length = 8 - length := by
        rw [List.length_take, List.length_drop]
        omega
      have hsplit := splitDoubleColon_groupsText_append (gs.take start) []
        (groupsText (gs.drop (start + length)))
      rw [if_pos hlength, readV6Groups?_of_split hsplit (readGroupsText?_groupsText _ _)
        (readGroupsText?_groupsText _ _) (by omega), hfew]
      have hmissing : 8 - (8 - length) = length := by omega
      rw [hmissing, hfill]
    · have hne : gs ≠ [] := by
        rintro rfl
        cases h
      rw [if_neg hlength, readV6Groups?, splitDoubleColon_groupsText, splitAt_groupsText hne,
        readGroups?_map_toDigits]

theorem colon_mem_v6Text {gs : List UInt16} (h : gs.length = 8) : ':' ∈ v6Text gs := by
  unfold v6Text
  split
  · simp
  · dsimp only
    split
    · simp
    · match gs, h with
      | g :: g' :: rest, _ => simp [groupsText]

theorem colon_not_mem_text (x y z w : UInt8) : ':' ∉ (v4 x y z w).text.toList := by
  rw [text, String.toList_ofList]
  exact colon_not_mem_octetsText _ _ _ _

theorem colon_mem_text (groups : Vector UInt16 8) : ':' ∈ (v6 groups).text.toList := by
  rw [text, String.toList_ofList]
  exact colon_mem_v6Text (by simp)

/-- An address is read back as it was written. -/
theorem parse?_text (a : IpAddr) : parse? a.text = some a := by
  cases a with
  | v4 a b c d =>
    have ho := readOctets?_octetsText a.toNat_lt b.toNat_lt c.toNat_lt d.toNat_lt
    simp [parse?, text, ho]
  | v6 groups =>
    have hlength : groups.toList.length = 8 := by simp
    have hnone := readOctets?_of_colon_mem (colon_mem_v6Text hlength)
    have hgroups := readV6?_of_groups (readV6Groups?_v6Text hlength)
    simp [parse?, text, hnone, hgroups]

theorem text_injective : Function.Injective text := by
  intro a b h
  have hparse := congrArg parse? h
  rw [parse?_text, parse?_text] at hparse
  exact Option.some.inj hparse

/-! ## The characters of an address -/

theorem not_mem_groupsText {c : Char} (hdigit : ∀ d < 16, c ≠ d.digitChar) (hcolon : c ≠ ':')
    (gs : List UInt16) : c ∉ groupsText gs := by
  induction gs with
  | nil => exact List.not_mem_nil
  | cons g gs ih =>
    by_cases hgs : gs = []
    · subst hgs
      exact not_mem_group hdigit g.toNat
    · rw [groupsText_cons g hgs]
      simp [not_mem_group hdigit g.toNat, hcolon, ih]

theorem not_mem_octetsText {c : Char} (hdigit : ∀ d < 10, c ≠ d.digitChar) (hdot : c ≠ '.')
    (x y z w : Nat) : c ∉ octetsText x y z w := by
  simp [octetsText, not_mem_octet hdigit, hdot]

/-- A character is foreign to addresses if it is no hexadecimal digit, point or colon. -/
def Foreign (c : Char) : Prop := (∀ d < 16, c ≠ d.digitChar) ∧ c ≠ '.' ∧ c ≠ ':'

instance (c : Char) : Decidable (Foreign c) :=
  inferInstanceAs (Decidable ((∀ d < 16, c ≠ d.digitChar) ∧ c ≠ '.' ∧ c ≠ ':'))

theorem not_mem_text {c : Char} (h : Foreign c) (a : IpAddr) : c ∉ a.text.toList := by
  obtain ⟨hdigit, hdot, hcolon⟩ := h
  have hdecimal : ∀ d < 10, c ≠ d.digitChar := fun d hd => hdigit d (by omega)
  cases a with
  | v4 x y z w =>
    rw [text, String.toList_ofList]
    exact not_mem_octetsText hdecimal hdot _ _ _ _
  | v6 groups =>
    rw [text, String.toList_ofList]
    unfold v6Text
    split
    · have hf : c ≠ 'f' := hdigit 15 (by omega)
      simp [not_mem_octetsText hdecimal hdot, hf, hcolon]
    · dsimp only
      split <;> simp [not_mem_groupsText hdigit hcolon, hcolon]

theorem text_ne_empty (a : IpAddr) : a.text ≠ "" := by
  intro h
  have hparse := parse?_text a
  rw [h] at hparse
  cases hparse

end IpAddr

end EntityStore
