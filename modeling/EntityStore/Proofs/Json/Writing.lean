import EntityStore.Json.Tree
import EntityStore.Proofs.Number.Numeral

/-!
# Compact text is read back

1. A quoted text is read as itself, whichever characters it has (`readString_text`), and so are the
   digits of a number in front of what may follow a value (`takeNumber?_digits`).
2. So the tokens of a written value are known (`Spells`), and a value is built from them
   (`Builds`). Both are shown for quoted texts, truth values, numbers, arrays and objects; together they
   say that a text reads as a value (`Reads`).
3. A text that reads as a value is that value's (`parse?_of_reads`).
-/

namespace EntityStore.Json

/-! ## Strings -/

theorem hexUnit?_control {n : Nat} (h : n < 0x20) :
    ∃ a b, List.replicate (4 - (Nat.toDigits 16 n).length) '0' ++ Nat.toDigits 16 n = ['0', '0', a, b] ∧
      hexUnit? '0' '0' a b = some n := by
  have hall : ∀ n < 0x20, List.replicate (4 - (Nat.toDigits 16 n).length) '0' ++ Nat.toDigits 16 n =
      ['0', '0', (n / 16).digitChar, (n % 16).digitChar] ∧
      hexUnit? '0' '0' (n / 16).digitChar (n % 16).digitChar = some n := by decide
  exact ⟨_, _, hall n h⟩

/-- An escaped character is read as itself. -/
theorem readString_escape (s : StringState) (c : Char) (rest : List Char) :
    readString s (escape c ++ rest) = readString (s.char c) rest := by
  unfold escape
  -- Seven characters have escapes of their own, the other control characters are written by number.
  iterate 7
    split
    · next h =>
      rw [eq_of_beq h]
      rfl
  split
  · next h =>
    obtain ⟨a, b, hdigits, hunit⟩ := hexUnit?_control h
    have hchar : s.unit c.toNat = s.char c := by
      rw [StringState.unit, if_neg (by omega), if_neg (by omega), Char.ofNat_toNat]
    dsimp only
    rw [List.append_assoc ['\\', 'u'], hdigits]
    change readString s ('\\' :: 'u' :: '0' :: '0' :: a :: b :: rest) = _
    rw [readString, hunit, ← hchar]
  · next hslash _ _ _ _ _ hcontrol =>
    rw [List.singleton_append, readString, if_neg]
    · simpa [hcontrol] using hslash
    all_goals simp_all

theorem readString_escaped (s : StringState) (cs rest : List Char) :
    readString s (cs.flatMap escape ++ '"' :: rest) = some ((cs.foldl .char s).content, rest) := by
  induction cs generalizing s with
  | nil =>
    rw [List.flatMap_nil, List.nil_append, readString]
    rfl
  | cons c cs ih =>
    rw [List.flatMap_cons, List.append_assoc, readString_escape, ih]
    rfl

theorem foldl_char {s : StringState} (h : s.half = none) (cs : List Char) :
    cs.foldl .char s = ⟨cs.reverse ++ s.chars, s.isText, none⟩ := by
  induction cs generalizing s with
  | nil =>
    obtain ⟨chars, isText, half⟩ := s
    cases h
    rfl
  | cons c cs ih =>
    have hchar : (s.char c).half = none := rfl
    rw [List.foldl_cons, ih hchar]
    simp [StringState.char, h]

theorem readString_text (t : String) (rest : List Char) :
    readString {} (t.toList.flatMap escape ++ '"' :: rest) = some (some t, rest) := by
  rw [readString_escaped, foldl_char rfl]
  simp [StringState.content]

/-! ## Numbers -/

/-- What may follow a value inside a text. -/
def Delimited (rest : List Char) : Prop := ∀ c ∈ rest.head?, c ∈ [',', ']', '\x7d']

theorem delimited_nil : Delimited [] := nofun

theorem delimited_cons {c : Char} (h : c ∈ [',', ']', '\x7d']) (rest : List Char) :
    Delimited (c :: rest) := by
  rintro _ ⟨⟩
  exact h

theorem takeDigits?_append {ds rest : List Char} (hne : ds ≠ [])
    (hds : ∀ c ∈ ds, Number.isDigit c = true) (hrest : ∀ c ∈ rest.head?, Number.isDigit c = false) :
    takeDigits? (ds ++ rest) = some (ds, rest) := by
  have htake : (ds ++ rest).takeWhile Number.isDigit = ds := by
    rw [List.takeWhile_append_of_pos hds]
    cases rest with
    | nil => simp
    | cons c rest => simp [hrest c rfl]
  have hdrop : (ds ++ rest).dropWhile Number.isDigit = rest := by
    rw [List.dropWhile_append_of_pos hds]
    cases rest with
    | nil => rfl
    | cons c rest => simp [hrest c rfl]
  rw [takeDigits?, htake, hdrop, if_neg (by simpa using hne)]

/-- What may follow a value cannot go on with a number. -/
theorem Delimited.ne {rest : List Char} (h : Delimited rest) :
    ∀ c ∈ rest.head?, Number.isDigit c = false ∧ c ≠ '.' ∧ c ≠ 'e' ∧ c ≠ 'E' := by
  have hall : ∀ c ∈ [',', ']', '\x7d'], Number.isDigit c = false ∧ c ≠ '.' ∧ c ≠ 'e' ∧ c ≠ 'E' := by
    simp only [List.forall_mem_cons]
    exact ⟨by decide, by decide, by decide, nofun⟩
  exact fun c hc => hall c (h c hc)

theorem Delimited.takeFraction? {rest : List Char} (h : Delimited rest) :
    Json.takeFraction? rest = some ([], rest) := by
  cases rest with
  | nil => rfl
  | cons c rest =>
    obtain ⟨-, hpoint, -⟩ := h.ne c rfl
    rw [Json.takeFraction?]
    rintro r ⟨⟩
    exact hpoint rfl

theorem Delimited.takeExponent? {rest : List Char} (h : Delimited rest) :
    Json.takeExponent? rest = some ([], rest) := by
  cases rest with
  | nil => rfl
  | cons c rest =>
    obtain ⟨-, -, he, hE⟩ := h.ne c rfl
    unfold Json.takeExponent?
    exact if_neg (not_or.2 ⟨he, hE⟩)

/-- A number does not begin with a zero, unless it is zero. -/
theorem takeWhole?_digits (n : Nat) {rest : List Char} (hrest : Delimited rest) :
    takeWhole? (Nat.toDigits 10 n ++ rest) = some (Nat.toDigits 10 n, rest) := by
  by_cases hn : n = 0
  · subst hn
    rfl
  · have hzero := Number.head?_toDigits_ne_zero hn
    have hdigits : takeDigits? (Nat.toDigits 10 n ++ rest) = some (Nat.toDigits 10 n, rest) :=
      takeDigits?_append Nat.toDigits_ne_nil (fun _ => Number.isDigit_of_mem_toDigits)
        fun c hc => (hrest.ne c hc).1
    obtain ⟨c, cs, hcs⟩ := List.exists_cons_of_ne_nil (Nat.toDigits_ne_nil (b := 10) (n := n))
    rw [hcs] at hzero hdigits ⊢
    rw [List.cons_append, takeWhole?]
    · exact hdigits
    · rintro r ⟨⟩
      exact hzero rfl

/-- The digits of a number are cut off in front of what may follow a value. -/
theorem takeNumber?_digits (n : Nat) {rest : List Char} (hrest : Delimited rest) :
    takeNumber? (Nat.toDigits 10 n ++ rest) = some (Nat.toDigits 10 n, rest) := by
  have hunsigned : takeUnsigned? (Nat.toDigits 10 n ++ rest) = some (Nat.toDigits 10 n, rest) := by
    simp [takeUnsigned?, takeWhole?_digits n hrest, hrest.takeFraction?, hrest.takeExponent?]
  obtain ⟨c, cs, hcs⟩ := List.exists_cons_of_ne_nil (Nat.toDigits_ne_nil (b := 10) (n := n))
  have hc : Number.isDigit c = true :=
    Number.isDigit_of_mem_toDigits (n := n) (hcs ▸ List.mem_cons_self)
  rw [hcs] at hunsigned ⊢
  rw [List.cons_append, takeNumber?]
  · exact hunsigned
  · rintro r ⟨⟩
    cases hc

/-! ## Tokens -/

/-- The characters that are tokens by themselves. -/
def marks : List (Char × Token) :=
  [('\x7b', .openBrace), ('\x7d', .closeBrace), ('[', .openBracket), (']', .closeBracket),
    (',', .comma), (':', .colon)]

theorem tokensFrom_mark {c : Char} {t : Token} (h : (c, t) ∈ marks) (acc : List Token)
    (rest : List Char) : tokensFrom acc (c :: rest) = tokensFrom (t :: acc) rest := by
  simp only [marks, List.mem_cons, Prod.mk.injEq, List.not_mem_nil, or_false] at h
  obtain ⟨rfl, rfl⟩ | ⟨rfl, rfl⟩ | ⟨rfl, rfl⟩ | ⟨rfl, rfl⟩ | ⟨rfl, rfl⟩ | ⟨rfl, rfl⟩ := h <;>
    rw [tokensFrom] <;> simp

theorem tokensFrom_quote (acc : List Token) (t : String) (rest : List Char) :
    tokensFrom acc ((quote t).toList ++ rest) = tokensFrom (.string (some t) :: acc) rest := by
  have hquote : (quote t).toList ++ rest = '"' :: (t.toList.flatMap escape ++ '"' :: rest) := by
    simp [quote]
  rw [hquote, tokensFrom]
  · simp only [Char.reduceBEq, Bool.or_self, Bool.false_eq_true, if_false, beq_self_eq_true, if_true]
    split
    · next content rest' h =>
      rw [readString_text] at h
      cases h
      rfl
    · next h => simp [readString_text] at h
  all_goals simp

theorem tokensFrom_number (acc : List Token) (n : Nat) {rest : List Char} (hrest : Delimited rest) :
    tokensFrom acc (Nat.toDigits 10 n ++ rest) =
      tokensFrom (.number (Nat.toDigits 10 n) :: acc) rest := by
  have htake := takeNumber?_digits n hrest
  obtain ⟨c, cs, hcs⟩ := List.exists_cons_of_ne_nil (Nat.toDigits_ne_nil (b := 10) (n := n))
  have hc : Number.isDigit c = true :=
    Number.isDigit_of_mem_toDigits (n := n) (hcs ▸ List.mem_cons_self)
  have hne : ∀ d, Number.isDigit d = false → (c == d) = false := by
    intro d hd
    refine beq_eq_false_iff_ne.2 ?_
    rintro rfl
    rw [hc] at hd
    cases hd
  rw [hcs] at htake ⊢
  rw [List.cons_append] at htake ⊢
  rw [tokensFrom]
  · simp only [hne ' ' rfl, hne '\t' rfl, hne '\n' rfl, hne '\r' rfl, hne '\x7b' rfl, hne '\x7d' rfl,
      hne '[' rfl, hne ']' rfl, hne ',' rfl, hne ':' rfl, hne '"' rfl, Bool.or_self,
      Bool.false_eq_true, if_false]
    split
    · next ds rest' h =>
      rw [htake] at h
      cases h
      rfl
    · next h => simp [htake] at h
  all_goals
    rintro r ⟨⟩
    cases hc

/-- A text is cut into certain tokens, whatever stands before it and may follow. -/
def Spells (s : String) (ts : List Token) : Prop :=
  ∀ acc rest, Delimited rest → tokensFrom acc (s.toList ++ rest) = tokensFrom (ts.reverse ++ acc) rest

/-! ## Values -/

/-- Where a value may stand, the tokens are read as one. -/
def Builds (ts : List Token) (j : Json) : Prop :=
  (∃ t ∈ ts.head?, t ≠ .closeBracket) ∧
    ∀ fs rest, build fs .value (ts ++ rest) = build fs (.after j) rest

theorem builds_of_token {t : Token} {j : Json} (ht : t ≠ .closeBracket)
    (h : ∀ fs rest, build fs .value (t :: rest) = build fs (.after j) rest) : Builds [t] j :=
  ⟨⟨t, rfl, ht⟩, h⟩

/-- A value may also stand where an array may end. -/
theorem build_itemOrEnd {t : Token} (ht : t ≠ .closeBracket) (fs : List Frame) (ts : List Token) :
    build fs .itemOrEnd (t :: ts) = build fs .value (t :: ts) := by
  cases t <;> simp_all [build]

/-- A text reads as a value. -/
def Reads (s : String) (j : Json) : Prop := ∃ ts, Spells s ts ∧ Builds ts j

/-- A text that reads as a value is that value's. -/
theorem parse?_of_reads {s : String} {j : Json} (h : Reads s j) : parse? s = some j := by
  obtain ⟨ts, hspells, -, hbuild⟩ := h
  have htokens := hspells [] [] delimited_nil
  rw [List.append_nil, List.append_nil, tokensFrom] at htokens
  have hvalue := hbuild [] []
  rw [List.append_nil] at hvalue
  rw [parse?, tokens?, htokens]
  simp [hvalue, build]

theorem reads_quote (t : String) : Reads (quote t) (.string (some t)) :=
  ⟨[.string (some t)], fun acc rest _ => tokensFrom_quote acc t rest,
    builds_of_token nofun fun _ _ => by rw [build]⟩

theorem reads_bool (b : Bool) : Reads (boolText b) (.bool b) := by
  refine ⟨[.bool b], fun acc rest _ => ?_, builds_of_token nofun fun _ _ => by rw [build]⟩
  cases b
  · change tokensFrom acc ('f' :: 'a' :: 'l' :: 's' :: 'e' :: rest) = _
    rw [tokensFrom]
    rfl
  · change tokensFrom acc ('t' :: 'r' :: 'u' :: 'e' :: rest) = _
    rw [tokensFrom]
    rfl

theorem reads_number (n : Nat) : Reads (toString n) (.number (Nat.toDigits 10 n)) := by
  refine ⟨[.number (Nat.toDigits 10 n)], fun acc rest hrest => ?_,
    builds_of_token nofun fun _ _ => by rw [build]⟩
  rw [Nat.toString_eq_ofList_toDigits, String.toList_ofList, tokensFrom_number acc n hrest]
  rfl

/-! ## Arrays -/

/-- A text with the value it reads as. -/
structure Written where
  text : String
  value : Json
  reads : Reads text value

/-- The items of an array behind its opening bracket, with its end. -/
theorem exists_tokens_items (w : Written) (ws : List Written) :
    ∃ t ts, t ≠ Token.closeBracket ∧
      (∀ acc rest, tokensFrom acc ((",".intercalate ((w :: ws).map (·.text))).toList ++ ']' :: rest) =
        tokensFrom (ts.reverse ++ t :: acc) rest) ∧
      ∀ items fs rest, build (.array items :: fs) .value (t :: ts ++ rest) =
        build fs (.after (.array (items.reverse ++ (w :: ws).map (·.value)))) rest := by
  induction ws generalizing w with
  | nil =>
    obtain ⟨ts, hspells, ⟨t, ht, hne⟩, hbuild⟩ := w.reads
    obtain ⟨ts, rfl⟩ := List.head?_eq_some_iff.1 ht
    refine ⟨t, ts ++ [.closeBracket], hne, fun acc rest => ?_, fun items fs rest => ?_⟩
    · rw [List.map_cons, List.map_nil, String.intercalate_singleton,
        hspells _ _ (delimited_cons (by decide) _), tokensFrom_mark (t := .closeBracket) (by decide)]
      simp
    · rw [← List.cons_append, List.append_assoc, hbuild, List.singleton_append, build]
      simp
  | cons v ws ih =>
    obtain ⟨ts, hspells, ⟨t, ht, hne⟩, hbuild⟩ := w.reads
    obtain ⟨ts, rfl⟩ := List.head?_eq_some_iff.1 ht
    obtain ⟨u, us, -, htokens, hitems⟩ := ih v
    refine ⟨t, ts ++ .comma :: u :: us, hne, fun acc rest => ?_, fun items fs rest => ?_⟩
    · have htext : (",".intercalate ((w :: v :: ws).map (·.text))).toList ++ ']' :: rest =
          w.text.toList ++ ',' :: ((",".intercalate ((v :: ws).map (·.text))).toList ++ ']' :: rest) := by
        simp [String.intercalate_cons_cons]
      rw [htext, hspells _ _ (delimited_cons (by decide) _), tokensFrom_mark (t := .comma) (by decide),
        htokens]
      simp
    · rw [← List.cons_append, List.append_assoc, hbuild, List.cons_append, build, hitems]
      simp

theorem reads_array (ws : List Written) :
    Reads (arrayText (ws.map (·.text))) (.array (ws.map (·.value))) := by
  have htext : ∀ acc rest, tokensFrom acc ((arrayText (ws.map (·.text))).toList ++ rest) =
      tokensFrom (.openBracket :: acc) ((",".intercalate (ws.map (·.text))).toList ++ ']' :: rest) := by
    intro acc rest
    rw [← tokensFrom_mark (c := '[') (by decide)]
    simp [arrayText]
  cases ws with
  | nil =>
    refine ⟨[.openBracket, .closeBracket], fun acc rest _ => ?_, ⟨_, rfl, nofun⟩, fun fs rest => ?_⟩
    · rw [htext, List.map_nil, String.intercalate_nil]
      exact tokensFrom_mark (by decide) _ _
    · simp [build]
  | cons w ws =>
    obtain ⟨t, ts, hne, htokens, hitems⟩ := exists_tokens_items w ws
    refine ⟨.openBracket :: t :: ts, fun acc rest _ => ?_, ⟨_, rfl, nofun⟩, fun fs rest => ?_⟩
    · rw [htext, htokens]
      simp
    · rw [List.cons_append, build, List.cons_append, build_itemOrEnd hne, ← List.cons_append, hitems]
      rfl

/-! ## Objects -/

/-- A member of an object that is written. -/
structure Member extends Written where
  key : String

/-- The members of an object behind its opening brace, with its end. -/
theorem exists_tokens_members (m : Member) (ms : List Member) :
    ∃ ts,
      (∀ acc rest, tokensFrom acc
          ((",".intercalate ((m :: ms).map fun n => quote n.key ++ ":" ++ n.text)).toList ++
            '\x7d' :: rest) =
        tokensFrom (ts.reverse ++ .string (some m.key) :: acc) rest) ∧
      ∀ before fs rest, build fs (.colon before (some m.key)) (ts ++ rest) =
        build fs (.after (.object (before.reverse ++ (m :: ms).map fun n => (some n.key, n.value))))
          rest := by
  induction ms generalizing m with
  | nil =>
    obtain ⟨ts, hspells, -, hbuild⟩ := m.reads
    refine ⟨.colon :: ts ++ [.closeBrace], fun acc rest => ?_, fun before fs rest => ?_⟩
    · have htext : (",".intercalate ([m].map fun n => quote n.key ++ ":" ++ n.text)).toList ++
          '\x7d' :: rest = (quote m.key).toList ++ ':' :: (m.text.toList ++ '\x7d' :: rest) := by
        simp
      rw [htext, tokensFrom_quote, tokensFrom_mark (t := .colon) (by decide),
        hspells _ _ (delimited_cons (by decide) _), tokensFrom_mark (t := .closeBrace) (by decide)]
      simp
    · rw [List.append_assoc, List.cons_append, build, hbuild, List.singleton_append, build]
      simp
  | cons n ms ih =>
    obtain ⟨ts, hspells, -, hbuild⟩ := m.reads
    obtain ⟨us, htokens, hmembers⟩ := ih n
    refine ⟨.colon :: ts ++ .comma :: .string (some n.key) :: us, fun acc rest => ?_,
      fun before fs rest => ?_⟩
    · have htext : (",".intercalate ((m :: n :: ms).map fun n => quote n.key ++ ":" ++ n.text)).toList ++
          '\x7d' :: rest = (quote m.key).toList ++ ':' :: (m.text.toList ++ ',' ::
            ((",".intercalate ((n :: ms).map fun n => quote n.key ++ ":" ++ n.text)).toList ++
              '\x7d' :: rest)) := by
        simp [String.intercalate_cons_cons]
      rw [htext, tokensFrom_quote, tokensFrom_mark (t := .colon) (by decide),
        hspells _ _ (delimited_cons (by decide) _), tokensFrom_mark (t := .comma) (by decide), htokens]
      simp
    · rw [List.append_assoc, List.cons_append, build, hbuild, List.cons_append, build,
        List.cons_append, build, hmembers]
      simp

theorem reads_object (ms : List Member) :
    Reads (objectText (ms.map fun m => (m.key, m.text)))
      (.object (ms.map fun m => (some m.key, m.value))) := by
  have htext : ∀ acc rest,
      tokensFrom acc ((objectText (ms.map fun m => (m.key, m.text))).toList ++ rest) =
      tokensFrom (.openBrace :: acc)
        ((",".intercalate (ms.map fun m => quote m.key ++ ":" ++ m.text)).toList ++ '\x7d' :: rest) := by
    intro acc rest
    rw [← tokensFrom_mark (c := '\x7b') (by decide)]
    simp [objectText, Function.comp_def]
  cases ms with
  | nil =>
    refine ⟨[.openBrace, .closeBrace], fun acc rest _ => ?_, ⟨_, rfl, nofun⟩, fun fs rest => ?_⟩
    · rw [htext, List.map_nil, String.intercalate_nil]
      exact tokensFrom_mark (by decide) _ _
    · simp [build]
  | cons m ms =>
    obtain ⟨ts, htokens, hmembers⟩ := exists_tokens_members m ms
    refine ⟨.openBrace :: .string (some m.key) :: ts, fun acc rest _ => ?_, ⟨_, rfl, nofun⟩,
      fun fs rest => ?_⟩
    · rw [htext, htokens]
      simp
    · rw [List.cons_append, build, List.cons_append, build, hmembers]
      rfl

end EntityStore.Json
