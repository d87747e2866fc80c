import EntityStore.Proofs.Network.Address
import EntityStore.Proofs.Network.Cut
import EntityStore.Proofs.Number.Numeral

/-!
# Data source names of addresses

A data source name shows the host in brackets iff it contains a colon, so no two hosts look alike
(`Dsn.hostText_injective`), and names of different addresses differ (`Dsn.withAddress_text_injective`).

An address is a host that either form takes as a whole (`IpAddr.isHost_hostText`), so the name for an
address is read back as it was written, and differs from the name it was made of in the host and in
how the port is written only (`Dsn.withAddress_replaces_host`).
-/

namespace EntityStore

open DsnParts (IsHost IsHostOf IsPort Separate)

/-! ## Addresses as hosts -/

namespace IpAddr

/-- An address as the host of a name: eight groups stand in brackets, four octets do not. -/
def hostText : IpAddr → String
  | v4 a b c d => (v4 a b c d).text
  | v6 groups => "[" ++ (v6 groups).text ++ "]"

theorem hostText_text (a : IpAddr) : Dsn.hostText a.text = a.hostText := by
  cases a with
  | v4 x y z w => simp [Dsn.hostText, hostText, colon_not_mem_text]
  | v6 groups => simp [Dsn.hostText, hostText, colon_mem_text]

/-- An address is a host that either form takes as a whole. -/
theorem isHost_hostText (a : IpAddr) : IsHost a.hostText.toList := by
  have hline : '\n' ∉ a.text.toList := not_mem_text (by decide) a
  have hslash : '/' ∉ a.text.toList := not_mem_text (by decide) a
  have huser : '@' ∉ a.text.toList := not_mem_text (by decide) a
  have hopen : '(' ∉ a.text.toList := not_mem_text (by decide) a
  have hne : a.text.toList ≠ [] := by simpa using text_ne_empty a
  cases a with
  | v4 x y z w =>
    have hbracket : '[' ∉ (v4 x y z w).text.toList := not_mem_text (by decide) _
    have hne' : ∀ c ∈ (v4 x y z w).text.toList, ∀ d, d = ':' ∨ Foreign d → c ≠ d := by
      rintro c hc d (rfl | hd) rfl
      · exact colon_not_mem_text x y z w hc
      · exact not_mem_text hd _ hc
    refine ⟨⟨hline, hslash, huser⟩, hopen, .inr ⟨hne, hbracket, fun c hc => ?_⟩,
      .inr ⟨hne, hbracket, fun c hc => ?_⟩⟩
    · have hapart : c ≠ ':' ∧ c ≠ '(' ∧ c ≠ ')' :=
        ⟨hne' c hc _ (by decide), hne' c hc _ (by decide), hne' c hc _ (by decide)⟩
      simpa [DsnParts.callHostChar, and_assoc] using hapart
    · have hapart : c ≠ ':' ∧ c ≠ '/' ∧ c ≠ '?' ∧ c ≠ '#' ∧ c ≠ '@' ∧ c ≠ '[' ∧ c ≠ ']' := by
        refine ⟨?_, ?_, ?_, ?_, ?_, ?_, ?_⟩ <;> exact hne' c hc _ (by decide)
      simpa [DsnParts.addressHostChar, and_assoc] using hapart
  | v6 groups =>
    have hclose : ']' ∉ (v6 groups).text.toList := not_mem_text (by decide) _
    have hhost : ∀ hostChar, IsHostOf hostChar (v6 groups).hostText.toList := fun _ =>
      .inl ⟨(v6 groups).text.toList, hne, hclose, by simp [hostText]⟩
    exact ⟨⟨by simp [hostText, hline], by simp [hostText, hslash], by simp [hostText, huser]⟩,
      by simp [hostText, hopen], hhost _, hhost _⟩

end IpAddr

namespace Dsn

theorem toList_hostText (host : String) :
    (hostText host).toList =
      if ':' ∈ host.toList then '[' :: host.toList ++ [']'] else host.toList := by
  unfold hostText
  by_cases h : ':' ∈ host.toList <;> simp [h]

theorem hostText_injective : Function.Injective hostText := by
  intro x y h
  have hlist := congrArg String.toList h
  rw [toList_hostText, toList_hostText] at hlist
  apply String.toList_inj.mp
  by_cases hx : ':' ∈ x.toList
  · by_cases hy : ':' ∈ y.toList
    · rw [if_pos hx, if_pos hy] at hlist
      exact List.append_cancel_right (List.cons.inj hlist).2
    · rw [if_pos hx, if_neg hy] at hlist
      rw [← hlist] at hy
      exact absurd (List.mem_append_left _ (List.mem_cons_of_mem _ hx)) hy
  · by_cases hy : ':' ∈ y.toList
    · rw [if_neg hx, if_pos hy] at hlist
      rw [hlist] at hx
      exact absurd (List.mem_append_left _ (List.mem_cons_of_mem _ hy)) hx
    · rwa [if_neg hx, if_neg hy] at hlist

theorem withHost_text_injective (d : Dsn) : Function.Injective fun host => (d.withHost host).text := by
  intro x y h
  have hlist := congrArg String.toList h
  simp only [text, withHost, String.toList_append] at hlist
  have hhost := List.append_cancel_right (List.append_cancel_right (List.append_cancel_right hlist))
  exact hostText_injective (String.toList_inj.mp (List.append_cancel_left hhost))

/-- Data source names of different addresses differ. -/
theorem withAddress_text_injective (d : Dsn) :
    Function.Injective fun a : IpAddr => (d.withAddress a).text :=
  fun _ _ h => IpAddr.text_injective (d.withHost_text_injective h)

/-! ## Ports -/

/-- A port is read iff it consists of ASCII digits whose number fits. -/
theorem readPort_eq_ok_iff {n : Nat} (hn : n < UInt16.size) {cs : List Char} {port : UInt16} :
    readPort n cs = .ok port ↔
      (∀ c ∈ cs, c.isDigit = true) ∧ Nat.ofDigitChars 10 cs n = port.toNat := by
  induction cs generalizing n with
  | nil =>
    rw [readPort, Nat.ofDigitChars_nil, Except.ok.injEq, ← UInt16.toNat_inj]
    simp [Nat.mod_eq_of_lt hn]
  | cons c cs ih =>
    rw [readPort, Number.digit?_eq, Nat.ofDigitChars_cons, List.forall_mem_cons, Nat.mul_comm 10 n]
    by_cases hdigit : c.isDigit = true
    · by_cases hfits : n * 10 + (c.toNat - '0'.toNat) < UInt16.size
      · simp only [hdigit, if_true, hfits, ih hfits, true_and]
      · have hle := Number.le_ofDigitChars cs (n * 10 + (c.toNat - '0'.toNat))
        have hport : port.toNat < UInt16.size := port.toNat_lt
        simp only [hdigit, if_true, hfits, if_false]
        refine iff_of_false nofun fun h => ?_
        omega
    · simp [hdigit]

theorem isDecimalDigit_of_isDigit {c : Char} (h : c.isDigit = true) :
    Text.isDecimalDigit c = true := by
  simp only [Char.isDigit, Bool.and_eq_true, decide_eq_true_eq] at h
  exact Text.CharRanges.contains_cons_of_mem _ h.1 h.2

/-- A port in decimal is read back. -/
theorem readPort_toDigits (port : UInt16) :
    readPort 0 (Nat.toDigits 10 port.toNat) = .ok port :=
  (readPort_eq_ok_iff (by decide)).2
    ⟨fun _ hc => Nat.isDigit_of_mem_toDigits (by decide) (by decide) hc, by simp⟩

theorem isPort_toDigits (n : Nat) : IsPort (Nat.toDigits 10 n) :=
  ⟨Nat.toDigits_ne_nil, fun _ hc =>
    isDecimalDigit_of_isDigit (Nat.isDigit_of_mem_toDigits (by decide) (by decide) hc)⟩

/-! ## Reading -/

theorem mem_unbracket {host : List Char} {c : Char} (hc : c ∈ host) (hopen : c ≠ '[')
    (hclose : c ≠ ']') : c ∈ unbracket host := by
  have hdrop : ∀ (d : Char) (s : List Char), c ≠ d → c ∈ s → c ∈ s.dropWhile (· == d) := by
    intro d s hd hs
    rw [← List.takeWhile_append_dropWhile (p := (· == d)) (l := s), List.mem_append] at hs
    refine hs.resolve_left fun htake => hd ?_
    simpa using List.mem_takeWhile_imp htake
  rw [unbracket, List.mem_reverse]
  exact hdrop ']' _ hclose (List.mem_reverse.2 (hdrop '[' _ hopen hc))

theorem unbracket_of_not_mem {host : List Char} (hopen : '[' ∉ host) (hclose : ']' ∉ host) :
    unbracket host = host ∧ unbracket ('[' :: host ++ [']']) = host := by
  have hdrop : ∀ (d : Char) (s : List Char), d ∉ s → s.dropWhile (· == d) = s := by
    intro d s hd
    refine List.dropWhile_eq_self_iff.2 fun hpos => ?_
    simpa using fun heq : s[0] = d => hd (heq ▸ List.getElem_mem hpos)
  constructor
  · rw [unbracket, hdrop '[' host hopen, hdrop ']' host.reverse (by simpa using hclose),
      List.reverse_reverse]
  · have hinner : ('[' :: host ++ [']']).dropWhile (· == '[') = host ++ [']'] :=
      hdrop '[' (host ++ [']']) (by simp [hopen])
    have hlast : (host ++ [']']).reverse.dropWhile (· == ']') = host.reverse := by
      rw [List.reverse_append]
      exact hdrop ']' host.reverse (by simpa using hclose)
    rw [unbracket, hinner, hlast, List.reverse_reverse]

theorem unbracket_hostText (a : IpAddr) : unbracket a.hostText.toList = a.text.toList := by
  obtain ⟨hplain, hbracketed⟩ := unbracket_of_not_mem
    (IpAddr.not_mem_text (c := '[') (by decide) a) (IpAddr.not_mem_text (c := ']') (by decide) a)
  cases a with
  | v4 x y z w => exact hplain
  | v6 groups => simpa [IpAddr.hostText] using hbracketed

theorem parse_eq_ok_iff {s : String} {d : Dsn} :
    parse s = .ok d ↔
      ∃ p, DsnParts.cut? s.toList = some p ∧ readPort 0 p.port = .ok d.port ∧
        unbracket p.host = d.host.toList ∧ d.host ≠ "" ∧ p.head = d.head.toList ∧
        p.tail = d.tail.toList := by
  unfold parse
  cases hcut : DsnParts.cut? s.toList with
  | none => simp
  | some p =>
    cases hport : readPort 0 p.port with
    | error e => simp [hport]
    | ok port =>
      obtain ⟨head, host, port', tail⟩ := d
      by_cases hempty : unbracket p.host = []
      · simp only [hport, List.isEmpty_iff, hempty, if_true]
        refine iff_of_false nofun ?_
        rintro ⟨q, hq, -, hhost, hne, -⟩
        cases hq
        exact hne (String.toList_eq_nil_iff.1 (hhost.symm.trans hempty))
      · simp only [hport, List.isEmpty_iff, hempty, if_false, Except.ok.injEq, Dsn.mk.injEq,
          Option.some.injEq, exists_eq_left', ← String.toList_inj, String.toList_ofList]
        constructor
        · rintro ⟨hhead, hhost, hport, htail⟩
          exact ⟨hport, hhost, fun hnil => hempty (hhost.trans (String.toList_eq_nil_iff.2 hnil)), hhead, htail⟩
        · rintro ⟨hport, hhost, -, hhead, htail⟩
          exact ⟨hhead, hhost, hport, htail⟩

/-! ## The name for an address -/

/-- The name for an address differs from the name it was made of in the host only: the parts around
host and port are those of the original text, and the text for the address is read as the same parts
with the address as the host. -/
theorem withAddress_replaces_host {s : String} {d : Dsn} (h : parse s = .ok d)
    (hhost : ∀ c ∈ d.host.toList, c ≠ '\n' ∧ c ≠ '/' ∧ c ≠ '@') (a : IpAddr) :
    (∃ host port, s.toList = d.head.toList ++ host ++ ':' :: port ++ d.tail.toList ∧
      unbracket host = d.host.toList ∧ port ≠ [] ∧ (∀ c ∈ port, c.isDigit = true) ∧
      Nat.ofDigitChars 10 port 0 = d.port.toNat) ∧
    (d.withAddress a).text =
      d.head ++ a.hostText ++ ":" ++ toString d.port.toNat ++ d.tail ∧
    parse (d.withAddress a).text = .ok ⟨d.head, a.text, d.port, d.tail⟩ ∧
    ((DsnParts.call? (d.withAddress a).text.toList).isSome ↔
      (DsnParts.call? s.toList).isSome) := by
  obtain ⟨p, hcut, hport, hunbracket, -, hhead, htail⟩ := parse_eq_ok_iff.1 h
  have hnot : ∀ c, c ≠ '[' → c ≠ ']' → c ∉ d.host.toList → c ∉ p.host := fun c hopen hclose hc hmem =>
    hc (hunbracket ▸ mem_unbracket hmem hopen hclose)
  have hseparate : Separate p.host :=
    ⟨hnot _ (by decide) (by decide) fun hc => (hhost _ hc).1 rfl,
      hnot _ (by decide) (by decide) fun hc => (hhost _ hc).2.1 rfl,
      hnot _ (by decide) (by decide) fun hc => (hhost _ hc).2.2 rfl⟩
  have htext : (d.withAddress a).text =
      d.head ++ a.hostText ++ ":" ++ toString d.port.toNat ++ d.tail := by
    rw [text, withAddress, withHost_host, withHost_port, IpAddr.hostText_text]
    rfl
  have hjoin : (d.withAddress a).text.toList =
      (p.replace a.hostText.toList (Nat.toDigits 10 d.port.toNat)).join := by
    rw [htext]
    simp [DsnParts.join, DsnParts.replace, hhead, htail]
  obtain ⟨hs, hold, hcut', hform⟩ := DsnParts.cut?_replace hcut hseparate a.isHost_hostText
    (isPort_toDigits d.port.toNat)
  obtain ⟨hdigits, hnumber⟩ := (readPort_eq_ok_iff (by decide)).1 hport
  refine ⟨⟨p.host, p.port, ?_, hunbracket, hold.ne_nil, hdigits, hnumber⟩, htext, ?_,
    hjoin ▸ hform⟩
  · rw [hs, DsnParts.join, hhead, htail]
  · rw [← hjoin] at hcut'
    exact parse_eq_ok_iff.2 ⟨_, hcut', readPort_toDigits d.port, unbracket_hostText a,
      a.text_ne_empty, hhead, htail⟩

/-- A name in the call form, with another protocol in its tail. -/
def ordersDsn : Dsn := ⟨"app:p@ss@tcp(", "db.internal", 3306, ")/orders?tag=a@tcp(b:1"⟩

/-- The link-local address `fe80::1`. -/
def linkLocal : IpAddr := .v6 #v[0xfe80, 0, 0, 0, 0, 0, 0, 1]

/-- The host of a name is replaced between a password and a tag that both hold an `@`, and the port
loses its leading zero. -/
theorem withAddress_replaces_host_orders :
    parse "app:p@ss@tcp(db.internal:03306)/orders?tag=a@tcp(b:1" = .ok ordersDsn ∧
      (∀ c ∈ ordersDsn.host.toList, c ≠ '\n' ∧ c ≠ '/' ∧ c ≠ '@') ∧
      (ordersDsn.withAddress linkLocal).text =
        "app:p@ss@tcp([fe80::1]:3306)/orders?tag=a@tcp(b:1" ∧
      parse "app:p@ss@tcp([fe80::1]:3306)/orders?tag=a@tcp(b:1" =
        .ok ⟨"app:p@ss@tcp(", "fe80::1", 3306, ")/orders?tag=a@tcp(b:1"⟩ := by
  have hparse : parse "app:p@ss@tcp(db.internal:03306)/orders?tag=a@tcp(b:1" = .ok ordersDsn := by
    rfl
  have hhost : ∀ c ∈ ordersDsn.host.toList, c ≠ '\n' ∧ c ≠ '/' ∧ c ≠ '@' := by simp [ordersDsn]
  obtain ⟨-, htext, hread, -⟩ := withAddress_replaces_host hparse hhost linkLocal
  have hshown : (ordersDsn.withAddress linkLocal).text =
      "app:p@ss@tcp([fe80::1]:3306)/orders?tag=a@tcp(b:1" := by
    rw [htext]
    rfl
  rw [hshown] at hread
  exact ⟨hparse, hhost, hshown, hread⟩

end Dsn

end EntityStore
