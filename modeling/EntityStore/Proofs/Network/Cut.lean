import EntityStore.Network.Dsn
import Mathlib.Data.List.TakeWhile

/-!
# Where a data source name is cut

A form can often be cut in several ways, and a reader takes the first cut that fits. For each reader
this module says when it takes a given cut and when it takes none:

* a run of characters, a host in brackets and a port end where the next part begins
  (`run?_eq_some_iff`, `bracketed?_eq_some_iff`, `portAndTail?_eq_some_iff`);
* what stands before the host decides the head only, never whether there is a cut
  (`hostOnward?_eq_none_iff`), and text without `@` hides no user
  (`callWithUser?_append_eq_none_iff`, `user?_append`);
* the parts of a cut put the name together again (`join_of_cut?`).

A host that either form takes as a whole (`IsHost`) can therefore stand for any other host that has
no line break, `/` or `@`: the name is cut at the same place, and in the same form (`cut?_replace`).
-/

namespace EntityStore.DsnParts

variable {hostChar : Char → Bool} {tailOk : List Char → Bool} {p : DsnParts}

/-! ## Runs, brackets and ports -/

/-- A run is all that stands in front of the first character of another kind. -/
theorem run?_eq_some_iff {q : Char → Bool} {s run rest : List Char} :
    run? q s = some (run, rest) ↔
      run ≠ [] ∧ (∀ c ∈ run, q c = true) ∧ (∀ c ∈ rest.head?, q c = false) ∧ s = run ++ rest := by
  unfold run?
  constructor
  · intro h
    split at h
    · cases h
    · next hne =>
      cases h
      refine ⟨by simpa using hne, fun c hc => List.mem_takeWhile_imp hc, fun c hc => ?_,
        List.takeWhile_append_dropWhile.symm⟩
      have hstop := List.head?_dropWhile_not q s
      rwa [Option.mem_def.1 hc] at hstop
  · rintro ⟨hne, hall, hstop, rfl⟩
    have htake : rest.takeWhile q = [] := by
      cases rest with
      | nil => rfl
      | cons c rest => simp [hstop c rfl]
    have hdrop : rest.dropWhile q = rest := by
      cases rest with
      | nil => rfl
      | cons c rest => simp [hstop c rfl]
    rw [List.takeWhile_append_of_pos hall, List.dropWhile_append_of_pos hall, htake, hdrop,
      List.append_nil, if_neg (by simpa using hne)]

theorem bracketed?_eq_some_iff {s host rest : List Char} :
    bracketed? s = some (host, rest) ↔
      ∃ inner, inner ≠ [] ∧ ']' ∉ inner ∧ host = '[' :: inner ++ [']'] ∧ s = host ++ rest := by
  constructor
  · intro h
    unfold bracketed? at h
    split at h
    · split at h
      · next inner _ hrun =>
        cases h
        obtain ⟨hne, hall, -, rfl⟩ := run?_eq_some_iff.1 hrun
        refine ⟨inner, hne, fun hmem => ?_, rfl, by simp⟩
        simpa using hall _ hmem
      · cases h
    · cases h
  · rintro ⟨inner, hne, hinner, rfl, rfl⟩
    have hrun : run? (· != ']') (inner ++ ']' :: rest) = some (inner, ']' :: rest) := by
      refine run?_eq_some_iff.2 ⟨hne, fun c hc => ?_, by simp, rfl⟩
      simpa using fun heq : c = ']' => hinner (heq ▸ hc)
    have happ : '[' :: inner ++ [']'] ++ rest = '[' :: (inner ++ ']' :: rest) := by simp
    rw [happ, bracketed?, hrun]
    rfl

theorem portAndTail?_eq_some_iff {s port tail : List Char} :
    portAndTail? tailOk s = some (port, tail) ↔
      port ≠ [] ∧ (∀ c ∈ port, Text.isDecimalDigit c = true) ∧
        (∀ c ∈ tail.head?, Text.isDecimalDigit c = false) ∧ tailOk tail = true ∧
        s = ':' :: port ++ tail := by
  constructor
  · intro h
    unfold portAndTail? portDigits? at h
    split at h
    · next hport =>
      split at h
      · next htail =>
        cases h
        split at hport
        · obtain ⟨hne, hall, hstop, rfl⟩ := run?_eq_some_iff.1 hport
          exact ⟨hne, hall, hstop, htail, rfl⟩
        · cases hport
      · cases h
    · cases h
  · rintro ⟨hne, hall, hstop, htail, rfl⟩
    have hrun := run?_eq_some_iff.2 ⟨hne, hall, hstop, rfl⟩
    simp only [portAndTail?, List.cons_append, portDigits?, hrun, htail, if_true]

/-! ## Hosts -/

/-- A host that is taken as a whole: in brackets, or made of characters that hosts may have. -/
def IsHostOf (hostChar : Char → Bool) (host : List Char) : Prop :=
  (∃ inner, inner ≠ [] ∧ ']' ∉ inner ∧ host = '[' :: inner ++ [']']) ∨
    host ≠ [] ∧ '[' ∉ host ∧ ∀ c ∈ host, hostChar c = true

/-- A cut behind a head consists of what was read. -/
theorem exists_of_hostOnward? {head s : List Char}
    (h : hostOnward? hostChar tailOk head s = some p) :
    p.head = head ∧ ∃ rest, s = p.host ++ rest ∧
      portAndTail? tailOk rest = some (p.port, p.tail) := by
  rcases Option.or_eq_some_iff.1 h with h | ⟨-, h⟩
  · cases hread : bracketed? s with
    | none => simp [hread] at h
    | some read =>
      obtain ⟨-, -, -, -, hs⟩ := bracketed?_eq_some_iff.1 hread
      rw [hread] at h
      obtain ⟨⟨port, tail⟩, hport, rfl⟩ := Option.map_eq_some_iff.1 h
      exact ⟨rfl, read.2, hs, hport⟩
  · cases hread : run? hostChar s with
    | none => simp [hread] at h
    | some read =>
      obtain ⟨-, -, -, hs⟩ := run?_eq_some_iff.1 hread
      rw [hread] at h
      obtain ⟨⟨port, tail⟩, hport, rfl⟩ := Option.map_eq_some_iff.1 h
      exact ⟨rfl, read.2, hs, hport⟩

/-- A host that is taken as a whole is taken if a port and a tail follow. -/
theorem hostOnward?_append (hcolon : hostChar ':' = false) {host rest port tail : List Char}
    (hhost : IsHostOf hostChar host) (hrest : portAndTail? tailOk rest = some (port, tail))
    (head : List Char) :
    hostOnward? hostChar tailOk head (host ++ rest) = some ⟨head, host, port, tail⟩ := by
  unfold hostOnward?
  rcases hhost with ⟨inner, hne, hinner, hhost⟩ | ⟨hne, hbracket, hall⟩
  · have hread := bracketed?_eq_some_iff.2 ⟨inner, hne, hinner, hhost, Eq.refl (host ++ rest)⟩
    simp [hread, hrest]
  · have hnone : bracketed? (host ++ rest) = none := by
      obtain ⟨c, host, rfl⟩ := List.exists_cons_of_ne_nil hne
      rw [List.cons_append, bracketed?]
      intro _ heq
      exact hbracket (List.mem_cons.2 (.inl (List.cons.inj heq).1.symm))
    have hstop : ∀ c ∈ rest.head?, hostChar c = false := by
      obtain ⟨-, -, -, -, rfl⟩ := portAndTail?_eq_some_iff.1 hrest
      rintro c hc
      cases hc
      exact hcolon
    have hread := run?_eq_some_iff.2 ⟨hne, hall, hstop, Eq.refl (host ++ rest)⟩
    simp [hnone, hread, hrest]

/-- Whether there is a cut does not hang on the head. -/
theorem hostOnward?_eq_none_iff {head s : List Char} (head' : List Char) :
    hostOnward? hostChar tailOk head s = none ↔ hostOnward? hostChar tailOk head' s = none := by
  unfold hostOnward?
  cases bracketed? s <;> cases run? hostChar s <;> simp

/-! ## The call form -/

theorem callOnward?_eq_some_iff {user s : List Char} :
    callOnward? user s = some p ↔
      ∃ word rest, word ≠ [] ∧ (∀ c ∈ word, Text.isWordChar c = true) ∧ s = word ++ '(' :: rest ∧
        hostOnward? callHostChar callTail (user ++ word ++ ['(']) rest = some p := by
  constructor
  · intro h
    unfold callOnward? at h
    split at h
    · next word rest hrun =>
      obtain ⟨hne, hall, -, rfl⟩ := run?_eq_some_iff.1 hrun
      exact ⟨word, rest, hne, hall, rfl, h⟩
    · cases h
  · rintro ⟨word, rest, hne, hall, rfl, h⟩
    have hstop : ∀ c ∈ ('(' :: rest).head?, Text.isWordChar c = false := by
      rintro c hc
      cases hc
      decide
    rw [callOnward?, run?_eq_some_iff.2 ⟨hne, hall, hstop, rfl⟩]
    exact h

theorem callOnward?_eq_none_iff {user s : List Char} (user' : List Char) :
    callOnward? user s = none ↔ callOnward? user' s = none := by
  unfold callOnward?
  split
  · exact hostOnward?_eq_none_iff _
  · exact Iff.rfl

/-- What runs up to a colon without an opening parenthesis is not the protocol of a call form. -/
theorem callOnward?_of_not_mem {x : List Char} (h : '(' ∉ x) (user rest : List Char) :
    callOnward? user (x ++ ':' :: rest) = none := by
  refine Option.eq_none_iff_forall_ne_some.2 fun p hp => ?_
  obtain ⟨word, rest', -, hall, heq, -⟩ := callOnward?_eq_some_iff.1 hp
  have hcolon : ':' ∉ word := fun hmem => absurd (hall ':' hmem) (by decide)
  rcases List.append_eq_append_iff.1 heq with ⟨later, rfl, htail⟩ | ⟨later, rfl, htail⟩
  · cases later with
    | nil => simp at htail
    | cons c later =>
      obtain ⟨rfl, -⟩ := List.cons.inj htail
      simp at hcolon
  · cases later with
    | nil => simp at htail
    | cons c later =>
      obtain ⟨rfl, -⟩ := List.cons.inj htail
      simp at h

theorem callWithUser?_cons_eq_none_iff {user s : List Char} {c : Char} :
    callWithUser? user (c :: s) = none ↔
      c = '\n' ∨ callWithUser? (c :: user) s = none ∧
        (c = '@' → callOnward? (c :: user).reverse s = none) := by
  rw [callWithUser?]
  by_cases hline : c = '\n'
  · simp [hline]
  · cases callWithUser? (c :: user) s <;> by_cases hat : c = '@' <;> simp [hline, hat]

theorem callWithUser?_eq_none_iff {user s : List Char} (user' : List Char) :
    callWithUser? user s = none ↔ callWithUser? user' s = none := by
  induction s generalizing user user' with
  | nil => exact Iff.rfl
  | cons c s ih =>
    rw [callWithUser?_cons_eq_none_iff, callWithUser?_cons_eq_none_iff, ih (c :: user'),
      callOnward?_eq_none_iff (c :: user').reverse]

/-- In front of text without `@`, only a line break decides whether a user is found behind it. -/
theorem callWithUser?_append_eq_none_iff {x : List Char} (h : '@' ∉ x) (user s user' : List Char) :
    callWithUser? user (x ++ s) = none ↔ '\n' ∈ x ∨ callWithUser? user' s = none := by
  induction x generalizing user with
  | nil => simp [callWithUser?_eq_none_iff user']
  | cons c x ih =>
    rw [List.mem_cons, not_or] at h
    rw [List.cons_append, callWithUser?_cons_eq_none_iff, ih h.2, List.mem_cons]
    simp [Ne.symm h.1, eq_comm (a := c), or_assoc]

theorem callWithUser?_cons_eq_some_iff {user s : List Char} {c : Char} :
    callWithUser? user (c :: s) = some p ↔
      c ≠ '\n' ∧ (callWithUser? (c :: user) s = some p ∨
        callWithUser? (c :: user) s = none ∧ c = '@' ∧
          callOnward? (c :: user).reverse s = some p) := by
  rw [callWithUser?]
  by_cases hline : c = '\n'
  · simp [hline]
  · cases callWithUser? (c :: user) s <;> by_cases hat : c = '@' <;> simp [hline, hat]

/-- The user of a call form ends at the last `@` of the first line behind which the form goes on. -/
theorem callWithUser?_eq_some_iff {user s : List Char} :
    callWithUser? user s = some p ↔
      ∃ x rest, '\n' ∉ x ∧ s = x ++ '@' :: rest ∧ callWithUser? [] rest = none ∧
        callOnward? (user.reverse ++ x ++ ['@']) rest = some p := by
  induction s generalizing user with
  | nil => simp [callWithUser?]
  | cons c s ih =>
    rw [callWithUser?_cons_eq_some_iff, ih, callWithUser?_eq_none_iff []]
    constructor
    · rintro ⟨hline, ⟨x, rest, hx, rfl, hnone, hcall⟩ | ⟨hnone, rfl, hcall⟩⟩
      · exact ⟨c :: x, rest, by simp [hx, Ne.symm hline], rfl, hnone, by simpa using hcall⟩
      · exact ⟨[], s, nofun, rfl, hnone, by simpa using hcall⟩
    · rintro ⟨x, rest, hx, heq, hnone, hcall⟩
      cases x with
      | nil =>
        cases heq
        exact ⟨by decide, .inr ⟨hnone, rfl, by simpa using hcall⟩⟩
      | cons d x =>
        cases heq
        rw [List.mem_cons, not_or] at hx
        exact ⟨Ne.symm hx.1, .inl ⟨x, rest, hx.2, rfl, hnone, by simpa using hcall⟩⟩

/-! ## The address form -/

theorem scheme?_eq_some_iff {s scheme rest : List Char} :
    scheme? s = some (scheme, rest) ↔
      ∃ c name, isLetter c = true ∧ (∀ x ∈ name, isSchemeChar x = true) ∧
        scheme = c :: name ++ "://".toList ∧ s = scheme ++ rest := by
  constructor
  · intro h
    unfold scheme? at h
    split at h
    · next c s =>
      split at h
      · next hletter =>
        split at h
        · next rest hrest =>
          cases h
          refine ⟨c, s.takeWhile isSchemeChar, hletter, fun x hx => List.mem_takeWhile_imp hx, rfl, ?_⟩
          have hs := List.takeWhile_append_dropWhile (p := isSchemeChar) (l := s)
          rw [hrest] at hs
          simpa using hs.symm
        · cases h
      · cases h
    · cases h
  · rintro ⟨c, name, hletter, hall, rfl, rfl⟩
    have happ : c :: name ++ "://".toList ++ rest = c :: (name ++ ':' :: '/' :: '/' :: rest) := by
      simp
    have hcolon : isSchemeChar ':' = false := by decide
    rw [happ, scheme?, if_pos hletter, List.dropWhile_append_of_pos hall,
      List.takeWhile_append_of_pos hall]
    simp [hcolon]

theorem user?_append {x : List Char} (hat : '@' ∉ x) (hslash : '/' ∉ x) (s : List Char) :
    user? (x ++ s) = (user? s).map fun (user, rest) => (x ++ user, rest) := by
  have hall : ∀ c ∈ x, (c != '@' && c != '/') = true := by
    intro c hc
    simp [ne_of_mem_of_not_mem hc hat, ne_of_mem_of_not_mem hc hslash]
  rw [user?, user?, List.takeWhile_append_of_pos hall, List.dropWhile_append_of_pos hall]
  split <;> simp

/-- The user of an address form ends at the first `@` in front of the first `/`. -/
theorem user?_eq_some_iff {s user rest : List Char} :
    user? s = some (user, rest) ↔
      ∃ x, '@' ∉ x ∧ '/' ∉ x ∧ user = x ++ ['@'] ∧ s = user ++ rest := by
  constructor
  · intro h
    unfold user? at h
    split at h
    · next hrest =>
      cases h
      have hs := List.takeWhile_append_dropWhile (p := fun c => c != '@' && c != '/') (l := s)
      rw [hrest] at hs
      refine ⟨s.takeWhile fun c => c != '@' && c != '/', fun hmem => ?_, fun hmem => ?_, rfl,
        by simpa using hs.symm⟩
      · simpa using List.mem_takeWhile_imp hmem
      · simpa using List.mem_takeWhile_imp hmem
    · cases h
  · rintro ⟨x, hat, hslash, rfl, rfl⟩
    rw [List.append_assoc, user?_append hat hslash]
    simp [user?]

theorem address?_eq_some_iff {s : List Char} :
    address? s = some p ↔
      ∃ scheme rest, scheme? s = some (scheme, rest) ∧
        ((∃ user rest', user? rest = some (user, rest') ∧
            hostOnward? addressHostChar addressTail (scheme ++ user) rest' = some p) ∨
          (∀ user rest', user? rest = some (user, rest') →
            hostOnward? addressHostChar addressTail [] rest' = none) ∧
          hostOnward? addressHostChar addressTail scheme rest = some p) := by
  unfold address?
  cases hscheme : scheme? s with
  | none => simp
  | some read =>
    obtain ⟨scheme, rest⟩ := read
    simp only [Option.some.injEq, Prod.mk.injEq, and_assoc, exists_and_left, exists_eq_left']
    rcases user? rest with - | ⟨user, rest'⟩
    · simp
    · simp [Option.or_eq_some_iff, hostOnward?_eq_none_iff (scheme ++ user), and_assoc]

/-! ## Another host -/

/-- A host that holds nothing at which a name could be cut differently. -/
structure Separate (host : List Char) : Prop where
  line : '\n' ∉ host
  slash : '/' ∉ host
  user : '@' ∉ host

/-- A host that either form takes as a whole. -/
structure IsHost (host : List Char) : Prop extends Separate host where
  parenthesis : '(' ∉ host
  call : IsHostOf callHostChar host
  address : IsHostOf addressHostChar host

structure IsPort (port : List Char) : Prop where
  ne_nil : port ≠ []
  digits : ∀ c ∈ port, Text.isDecimalDigit c = true

/-- The parts with another host and port. -/
def replace (p : DsnParts) (host port : List Char) : DsnParts := { p with host, port }

variable {s rest host port tail : List Char}

theorem portAndTail?_replace {port' : List Char} (hport : IsPort port)
    (h : portAndTail? tailOk rest = some (port', tail)) :
    portAndTail? tailOk (':' :: port ++ tail) = some (port, tail) := by
  obtain ⟨-, -, hstop, htail, -⟩ := portAndTail?_eq_some_iff.1 h
  exact portAndTail?_eq_some_iff.2 ⟨hport.ne_nil, hport.digits, hstop, htail, rfl⟩

theorem IsPort.not_mem (hport : IsPort port) {c : Char} (hc : Text.isDecimalDigit c = false) :
    c ∉ port := by
  intro hmem
  rw [hport.digits c hmem] at hc
  cases hc

/-- From the host on, a name is cut with another host and port as it was cut before. -/
theorem hostOnward?_replace {head : List Char} (hcolon : hostChar ':' = false)
    (h : hostOnward? hostChar tailOk head s = some p) :
    p.head = head ∧ s = p.host ++ ':' :: p.port ++ p.tail ∧ IsPort p.port ∧
      ∀ {host port}, IsHostOf hostChar host → IsPort port →
        hostOnward? hostChar tailOk head (host ++ ':' :: port ++ p.tail) =
          some (p.replace host port) := by
  obtain ⟨rfl, rest, rfl, hread⟩ := exists_of_hostOnward? h
  obtain ⟨hne, hall, -, -, rfl⟩ := portAndTail?_eq_some_iff.1 hread
  refine ⟨rfl, by simp, ⟨hne, hall⟩, fun {host port} hhost hport => ?_⟩
  rw [List.append_assoc]
  exact hostOnward?_append hcolon hhost (portAndTail?_replace hport hread) p.head

/-- With another host and port, a user is found behind text without `@` iff one was found before. -/
theorem callWithUser?_replace_eq_none_iff {x host' port' : List Char} (hx : '@' ∉ x)
    (hhost : Separate host) (hport : IsPort port) (hhost' : Separate host') (hport' : IsPort port')
    (user tail : List Char) :
    callWithUser? user (x ++ (host ++ ':' :: port ++ tail)) = none ↔
      callWithUser? user (x ++ (host' ++ ':' :: port' ++ tail)) = none := by
  have htail : ∀ {host port}, Separate host → IsPort port →
      (callWithUser? user (x ++ (host ++ ':' :: port ++ tail)) = none ↔
        '\n' ∈ x ∨ callWithUser? [] tail = none) := by
    intro host port hhost hport
    have hat : '@' ∉ host ++ ':' :: port := by simp [hhost.user, hport.not_mem (c := '@') (by decide)]
    have hline : '\n' ∉ host ++ ':' :: port := by
      simp [hhost.line, hport.not_mem (c := '\n') (by decide)]
    rw [callWithUser?_append_eq_none_iff hx user _ [], callWithUser?_append_eq_none_iff hat [] tail []]
    simp only [hline, false_or]
  rw [htail hhost hport, htail hhost' hport']

/-- A call form from its protocol on. -/
theorem callOnward?_replace {user : List Char} (h : callOnward? user s = some p) :
    ∃ protocol, '@' ∉ protocol ∧ p.head = user ++ protocol ∧
      s = protocol ++ (p.host ++ ':' :: p.port ++ p.tail) ∧ IsPort p.port ∧
      ∀ {host port}, IsHostOf callHostChar host → IsPort port →
        callOnward? user (protocol ++ (host ++ ':' :: port ++ p.tail)) =
          some (p.replace host port) := by
  obtain ⟨word, rest, hne, hall, rfl, honward⟩ := callOnward?_eq_some_iff.1 h
  obtain ⟨hhead, rfl, hport, hreplace⟩ := hostOnward?_replace (by decide) honward
  have hat : '@' ∉ word := fun hmem => absurd (hall _ hmem) (by decide)
  refine ⟨word ++ ['('], by simp [hat], by simp [hhead], by simp, hport, fun hhost hport' => ?_⟩
  exact callOnward?_eq_some_iff.2 ⟨word, _, hne, hall, by simp, hreplace hhost hport'⟩

/-- A call form stays one: behind the host no user is found that was not found before. -/
theorem call?_replace (h : call? s = some p) (hhost : Separate p.host) (hnew : IsHost host)
    (hport : IsPort port) :
    s = p.join ∧ IsPort p.port ∧
      call? (p.replace host port).join = some (p.replace host port) := by
  unfold call? at h ⊢
  rcases Option.or_eq_some_iff.1 h with h | ⟨hnone, h⟩
  · obtain ⟨x, rest, hx, rfl, hnone, hcall⟩ := callWithUser?_eq_some_iff.1 h
    obtain ⟨protocol, hat, hhead, rfl, hold, hreplace⟩ := callOnward?_replace hcall
    refine ⟨by simp [join, hhead], hold, Option.or_eq_some_iff.2 (.inl ?_)⟩
    refine callWithUser?_eq_some_iff.2 ⟨x, protocol ++ (host ++ ':' :: port ++ p.tail), hx,
      by simp [join, replace, hhead], ?_, hreplace hnew.call hport⟩
    exact (callWithUser?_replace_eq_none_iff hat hhost hold hnew.toSeparate hport [] p.tail).1 hnone
  · obtain ⟨protocol, hat, hhead, rfl, hold, hreplace⟩ := callOnward?_replace h
    have hjoin : (p.replace host port).join = protocol ++ (host ++ ':' :: port ++ p.tail) := by
      simp [join, replace, hhead]
    rw [hjoin]
    refine ⟨by simp [join, hhead], hold, Option.or_eq_some_iff.2 (.inr ⟨?_, hreplace hnew.call hport⟩)⟩
    exact (callWithUser?_replace_eq_none_iff hat hhost hold hnew.toSeparate hport [] p.tail).1 hnone

/-- A scheme is a name without `@` and parentheses in front of `://`, whatever follows. -/
theorem exists_of_scheme? {scheme : List Char} (h : scheme? s = some (scheme, rest)) :
    ∃ name, '@' ∉ name ∧ '(' ∉ name ∧ scheme = name ++ "://".toList ∧ s = scheme ++ rest ∧
      ∀ rest', scheme? (scheme ++ rest') = some (scheme, rest') := by
  obtain ⟨c, name, hletter, hall, rfl, rfl⟩ := scheme?_eq_some_iff.1 h
  have hname : ∀ x, isSchemeChar x = false → x ∉ c :: name := by
    intro x hx hmem
    rcases List.mem_cons.1 hmem with rfl | hmem
    · simp [isSchemeChar, Char.isAlphanum, show x.isAlpha = true from hletter] at hx
    · simp [hall x hmem] at hx
  exact ⟨c :: name, hname '@' (by decide), hname '(' (by decide), rfl, rfl,
    fun rest' => scheme?_eq_some_iff.2 ⟨c, name, hletter, hall, rfl, rfl⟩⟩

/-- With another host and port, a user is found in front of the tail iff one was found before, and
then with the same rest. -/
theorem user?_host (hhost : Separate host) (hport : IsPort port) (tail : List Char) :
    user? (host ++ ':' :: port ++ tail) =
      (user? tail).map fun (user, rest) => (host ++ ':' :: port ++ user, rest) := by
  refine user?_append ?_ ?_ tail
  · simp [hhost.user, hport.not_mem (c := '@') (by decide)]
  · simp [hhost.slash, hport.not_mem (c := '/') (by decide)]

/-- An address form stays one if the call form does not come first. -/
theorem address?_replace (h : address? s = some p) (hhost : Separate p.host) (hnew : IsHost host)
    (hport : IsPort port) :
    s = p.join ∧ IsPort p.port ∧
      address? (p.replace host port).join = some (p.replace host port) := by
  obtain ⟨scheme, rest, hscheme, huser⟩ := address?_eq_some_iff.1 h
  obtain ⟨name, -, -, -, rfl, hscheme'⟩ := exists_of_scheme? hscheme
  rcases huser with ⟨user, rest', huser, honward⟩ | ⟨hnone, honward⟩
  · obtain ⟨x, hat, hslash, rfl, rfl⟩ := user?_eq_some_iff.1 huser
    obtain ⟨hhead, rfl, hold, hreplace⟩ := hostOnward?_replace (by decide) honward
    have hjoin : (p.replace host port).join =
        scheme ++ (x ++ ['@'] ++ (host ++ ':' :: port ++ p.tail)) := by
      simp [join, replace, hhead]
    refine ⟨by simp [join, hhead], hold, address?_eq_some_iff.2 ⟨scheme, _, hjoin ▸ hscheme' _, .inl ?_⟩⟩
    exact ⟨x ++ ['@'], _, user?_eq_some_iff.2 ⟨x, hat, hslash, rfl, rfl⟩,
      hreplace hnew.address hport⟩
  · obtain ⟨hhead, rfl, hold, hreplace⟩ := hostOnward?_replace (by decide) honward
    have hjoin : (p.replace host port).join = scheme ++ (host ++ ':' :: port ++ p.tail) := by
      simp [join, replace, hhead]
    refine ⟨by simp [join, hhead], hold, address?_eq_some_iff.2 ⟨scheme, _, hjoin ▸ hscheme' _, .inr ⟨?_,
      hreplace hnew.address hport⟩⟩⟩
    -- What a user would take in is part of the tail, where none was taken in before.
    intro user rest' huser
    rw [user?_host hnew.toSeparate hport] at huser
    obtain ⟨⟨later, rest'⟩, hlater, heq⟩ := Option.map_eq_some_iff.1 huser
    cases heq
    exact hnone _ rest' (by rw [user?_host hhost hold, hlater]; rfl)

/-- An address form does not become a call form. -/
theorem call?_replace_eq_none (hcall : call? s = none) (h : address? s = some p)
    (hhost : Separate p.host) (hnew : IsHost host) (hport : IsPort port) :
    call? (p.replace host port).join = none := by
  obtain ⟨scheme, rest, hscheme, huser⟩ := address?_eq_some_iff.1 h
  obtain ⟨name, hat, hname, rfl, rfl, -⟩ := exists_of_scheme? hscheme
  have honward : ∀ rest, callOnward? [] (name ++ "://".toList ++ rest) = none := by
    intro rest
    have happ : name ++ "://".toList ++ rest = name ++ ':' :: ('/' :: '/' :: rest) := by simp
    rw [happ]
    exact callOnward?_of_not_mem hname [] _
  obtain ⟨hcall, -⟩ := Option.or_eq_none_iff.1 hcall
  rcases huser with ⟨user, rest', huser, hread⟩ | ⟨-, hread⟩
  · obtain ⟨x, hx, -, rfl, rfl⟩ := user?_eq_some_iff.1 huser
    obtain ⟨hhead, rfl, hold, -⟩ := hostOnward?_replace (by decide) hread
    have happ : ∀ rest, name ++ "://".toList ++ (x ++ ['@'] ++ rest) =
        name ++ "://".toList ++ x ++ '@' :: rest := by simp
    have hfront : '@' ∉ name ++ "://".toList ++ x := by simp [hat, hx]
    have hjoin : (p.replace host port).join =
        name ++ "://".toList ++ (x ++ ['@'] ++ (host ++ ':' :: port ++ p.tail)) := by
      simp [join, replace, hhead]
    rw [hjoin]
    refine Option.or_eq_none_iff.2 ⟨?_, honward _⟩
    rw [happ, callWithUser?_append_eq_none_iff hfront [] _ [], callWithUser?_cons_eq_none_iff]
      at hcall ⊢
    refine hcall.imp_right (Or.imp_right fun ⟨hnone, _⟩ => ⟨?_, fun _ => ?_⟩)
    · exact (callWithUser?_replace_eq_none_iff (x := []) nofun hhost hold hnew.toSeparate hport
        _ p.tail).1 hnone
    · rw [List.append_assoc]
      exact callOnward?_of_not_mem hnew.parenthesis _ _
  · obtain ⟨hhead, rfl, hold, -⟩ := hostOnward?_replace (by decide) hread
    have hjoin : (p.replace host port).join =
        name ++ "://".toList ++ (host ++ ':' :: port ++ p.tail) := by
      simp [join, replace, hhead]
    rw [hjoin]
    refine Option.or_eq_none_iff.2 ⟨?_, honward _⟩
    exact (callWithUser?_replace_eq_none_iff (by simpa using hat) hhost hold hnew.toSeparate hport
      [] p.tail).1 hcall

/-- The parts of a cut put the name together again. -/
theorem join_of_cut? (h : cut? s = some p) : s = p.join ∧ IsPort p.port := by
  rcases Option.or_eq_some_iff.1 h with h | ⟨-, h⟩
  · rcases Option.or_eq_some_iff.1 h with h | ⟨-, h⟩
    · obtain ⟨x, rest, -, rfl, -, hcall⟩ := callWithUser?_eq_some_iff.1 h
      obtain ⟨protocol, -, hhead, rfl, hport, -⟩ := callOnward?_replace hcall
      exact ⟨by simp [join, hhead], hport⟩
    · obtain ⟨protocol, -, hhead, rfl, hport, -⟩ := callOnward?_replace h
      exact ⟨by simp [join, hhead], hport⟩
  · obtain ⟨scheme, rest, hscheme, huser⟩ := address?_eq_some_iff.1 h
    obtain ⟨name, -, -, -, rfl, -⟩ := exists_of_scheme? hscheme
    rcases huser with ⟨user, rest', huser, hread⟩ | ⟨-, hread⟩
    · obtain ⟨x, -, -, rfl, rfl⟩ := user?_eq_some_iff.1 huser
      obtain ⟨hhead, rfl, hport, -⟩ := hostOnward?_replace (by decide) hread
      exact ⟨by simp [join, hhead], hport⟩
    · obtain ⟨hhead, rfl, hport, -⟩ := hostOnward?_replace (by decide) hread
      exact ⟨by simp [join, hhead], hport⟩

/-- A cut puts the name together, and with another host the name is cut at the same place and in the
same form. -/
theorem cut?_replace (h : cut? s = some p) (hhost : Separate p.host) (hnew : IsHost host)
    (hport : IsPort port) :
    s = p.join ∧ IsPort p.port ∧
      cut? (p.replace host port).join = some (p.replace host port) ∧
      ((call? (p.replace host port).join).isSome ↔ (call? s).isSome) := by
  rcases Option.or_eq_some_iff.1 h with hcall | ⟨hcall, haddress⟩
  · obtain ⟨hs, hold, hcall'⟩ := call?_replace hcall hhost hnew hport
    exact ⟨hs, hold, Option.or_eq_some_iff.2 (.inl hcall'), by simp [hcall, hcall']⟩
  · obtain ⟨hs, hold, haddress'⟩ := address?_replace haddress hhost hnew hport
    have hcall' := call?_replace_eq_none hcall haddress hhost hnew hport
    exact ⟨hs, hold, Option.or_eq_some_iff.2 (.inr ⟨hcall', haddress'⟩), by simp [hcall, hcall']⟩

end EntityStore.DsnParts
