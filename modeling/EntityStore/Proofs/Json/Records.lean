import EntityStore.Proofs.Json.Writing
import Mathlib.Data.List.Nodup
import Mathlib.Logic.Function.Basic
import Mathlib.Tactic.Choose

/-!
# Written records are read back

1. A record is read from the members of an object by their names, in whatever order they stand, and
   members of other names are left aside (`fields?_object`). So the entries of a record come back in
   their order, those that are left out as unset (`fields?_entries`).
2. A reader returns a value from a text if the text reads as JSON that the reader takes for the value
   (`Returns`). What is written of truth values, numbers, texts, names and lists is returned, and so is
   an entry that is left out if it is unset (`exists_optional`).
-/

namespace EntityStore.Json

/-! ## Fields -/

theorem putField_map {names : List String} (hnames : names.Nodup) {field : String → Option Json}
    {key : String} (h : field key = none) (v : Json) :
    putField names key v (names.map field) = some (names.map (Function.update field key (some v))) := by
  unfold putField
  cases hi : names.idxOf? key with
  | none =>
    have hkey : key ∉ names := List.idxOf?_eq_none_iff.1 hi
    refine congrArg some (List.map_congr_left fun n hn => ?_)
    rw [Function.update_of_ne]
    rintro rfl
    exact hkey hn
  | some i =>
    obtain ⟨hlt, hkey, -⟩ := List.findIdx?_eq_some_iff_getElem.1 hi
    have hfield : (names.map field)[i]? = some none := by
      simp [hlt, beq_iff_eq.1 hkey, h]
    dsimp only
    rw [hfield]
    refine congrArg some (List.ext_getElem (by simp) fun j hj hj' => ?_)
    rw [List.length_map] at hj'
    rw [List.getElem_set, List.getElem_map]
    by_cases hij : i = j
    · subst hij
      rw [if_pos rfl, List.getElem_map, beq_iff_eq.1 hkey, Function.update_self]
    · have hne : names[j] ≠ key := by
        rw [← beq_iff_eq.1 hkey]
        exact fun heq => hij ((List.Nodup.getElem_inj_iff hnames).1 heq).symm
      rw [if_neg hij, List.getElem_map, Function.update_of_ne hne]

theorem putFields_map {names : List String} (hnames : names.Nodup) {ms : List Member}
    (hkeys : (ms.map (·.key)).Nodup) {field : String → Option Json}
    (h : ∀ m ∈ ms, field m.key = none) :
    putFields names (ms.map fun m => (some m.key, m.value)) (names.map field) =
      some (names.map fun n => ((ms.find? (·.key == n)).map (·.value)).or (field n)) := by
  induction ms generalizing field with
  | nil => rfl
  | cons m ms ih =>
    obtain ⟨hm, hms⟩ := List.forall_mem_cons.1 h
    rw [List.map_cons, List.nodup_cons] at hkeys
    obtain ⟨hnot, hkeys⟩ := hkeys
    have hne : ∀ n ∈ ms, n.key ≠ m.key := fun n hn heq => hnot (heq ▸ List.mem_map_of_mem hn)
    rw [List.map_cons, putFields, putField_map hnames hm, Option.bind_some, ih hkeys]
    · refine congrArg some (List.map_congr_left fun n _ => ?_)
      by_cases hn : m.key = n
      · have hnone : ms.find? (·.key == n) = none := by
          rw [← hn, List.find?_eq_none]
          exact fun k hk => by simpa using hne k hk
        simp [hn, hnone]
      · simp [hn, Function.update_of_ne (Ne.symm hn)]
    · intro n hn
      rw [Function.update_of_ne (hne n hn), hms n hn]

/-- A record is read from an object by the names of its fields. -/
theorem fields?_object {names : List String} (hnames : names.Nodup) {ms : List Member}
    (hkeys : (ms.map (·.key)).Nodup) :
    fields? names (.object (ms.map fun m => (some m.key, m.value))) =
      some (names.map fun n => (ms.find? (·.key == n)).map (·.value)) := by
  have hputs : putFields names (ms.map fun m => (some m.key, m.value)) (names.map fun _ => none) = _ :=
    putFields_map hnames hkeys fun _ _ => rfl
  simpa [fields?] using hputs

/-- An entry of a record, which may be left out. -/
structure Entry where
  key : String
  written : Option Written

namespace Entry

def member? (e : Entry) : Option Member := e.written.map fun w => ⟨w, e.key⟩

theorem key_of_member? {e : Entry} {m : Member} (h : e.member? = some m) : m.key = e.key := by
  obtain ⟨w, -, rfl⟩ := Option.map_eq_some_iff.1 h
  rfl

theorem keys_sublist (es : List Entry) :
    List.Sublist ((es.filterMap member?).map (·.key)) (es.map (·.key)) := by
  induction es with
  | nil => exact List.Sublist.refl _
  | cons e es ih =>
    cases h : e.member? with
    | none =>
      rw [List.filterMap_cons_none h, List.map_cons]
      exact ih.cons _
    | some m =>
      rw [List.filterMap_cons_some h, List.map_cons, List.map_cons, key_of_member? h]
      exact ih.cons_cons _

theorem find?_member? {es : List Entry} (hkeys : (es.map (·.key)).Nodup) {e : Entry} (he : e ∈ es) :
    (es.filterMap member?).find? (·.key == e.key) = e.member? := by
  induction es with
  | nil => cases he
  | cons e' es ih =>
    rw [List.map_cons, List.nodup_cons] at hkeys
    obtain ⟨hnot, hkeys⟩ := hkeys
    rcases List.mem_cons.1 he with rfl | he
    · have hnone : (es.filterMap member?).find? (·.key == e.key) = none := by
        rw [List.find?_eq_none]
        intro m hm hkey
        have hmem := (keys_sublist es).subset (List.mem_map_of_mem hm)
        exact hnot (beq_iff_eq.1 hkey ▸ hmem)
      cases h : e.member? with
      | none => rw [List.filterMap_cons_none h, hnone]
      | some m => rw [List.filterMap_cons_some h, List.find?_cons_of_pos (by simp [key_of_member? h])]
    · have hne : e'.key ≠ e.key := fun h => hnot (h ▸ List.mem_map_of_mem he)
      cases h : e'.member? with
      | none => rw [List.filterMap_cons_none h, ih hkeys he]
      | some m =>
        rw [List.filterMap_cons_some h, List.find?_cons_of_neg (by simp [key_of_member? h, hne]),
          ih hkeys he]

end Entry

/-- The entries of a record in the order of its fields. -/
theorem fields?_entries (es : List Entry) (hkeys : (es.map (·.key)).Nodup) :
    fields? (es.map (·.key))
        (.object ((es.filterMap Entry.member?).map fun m => (some m.key, m.value))) =
      some (es.map fun e => e.written.map (·.value)) := by
  rw [fields?_object hkeys (hkeys.sublist (Entry.keys_sublist es)), List.map_map]
  refine congrArg some (List.map_congr_left fun e he => ?_)
  rw [Function.comp_apply, Entry.find?_member? hkeys he, Entry.member?, Option.map_map]
  rfl

/-! ## What is returned -/

variable {α : Type}

@[simp] theorem required?_some (read : Json → Option α) (j : Json) :
    required? read (some j) = read j := rfl

@[simp] theorem withDefault?_some (read : Json → Option α) (default : α) (j : Json) :
    withDefault? read default (some j) = read j := rfl

/-- A reader takes a text for a value. -/
def Returns (read : Json → Option α) (text : String) (a : α) : Prop :=
  ∃ j, Reads text j ∧ read j = some a

theorem returns_text (t : String) : Returns text? (quote t) t := ⟨_, reads_quote t, rfl⟩

theorem returns_bool (b : Bool) : Returns bool? (boolText b) b := ⟨_, reads_bool b, rfl⟩

theorem returns_natBelow {limit n : Nat} (h : n < limit) :
    Returns (natBelow? limit) (toString n) n := by
  refine ⟨_, reads_number n, ?_⟩
  rw [natBelow?, Number.readDigits?_toDigits]
  exact if_pos h

theorem returns_choice {ofName? : String → Option α} {name : String} {a : α}
    (h : ofName? name = some a) : Returns (choice? ofName?) (quote name) a :=
  ⟨_, reads_quote name, h⟩

/-- A record is returned from its entries, if a reader takes these for it. -/
theorem returns_entries {read : Json → Option α} {a : α} (es : List Entry)
    (hread : read (.object ((es.filterMap Entry.member?).map fun m => (some m.key, m.value))) = some a) :
    Returns read (objectText (es.filterMap fun e => e.written.map fun w => (e.key, w.text))) a := by
  have hobject := reads_object (es.filterMap Entry.member?)
  rw [List.map_filterMap] at hobject
  refine ⟨_, ?_, hread⟩
  simpa [Entry.member?, Function.comp_def] using hobject

/-- An entry that is left out if it is unset. -/
theorem exists_optional {read : Json → Option α} {write : α → String}
    (h : ∀ a, Returns read (write a) a) (hnull : read .null = none) (o : Option α) :
    ∃ written : Option Written, written.map (·.text) = o.map write ∧
      withDefault? (optional? read) none (written.map (·.value)) = some o := by
  cases o with
  | none => exact ⟨none, rfl, rfl⟩
  | some a =>
    obtain ⟨j, hreads, hread⟩ := h a
    have hne : j ≠ .null := by
      rintro rfl
      rw [hnull] at hread
      cases hread
    refine ⟨some ⟨write a, j, hreads⟩, rfl, ?_⟩
    rw [Option.map_some, withDefault?, optional?, hread, Option.map_some]
    exact hne

theorem returns_list {read : Json → Option α} {write : α → String}
    (h : ∀ a, Returns read (write a) a) (as : List α) :
    Returns (list? read) (arrayText (as.map write)) as := by
  choose json hreads hread using h
  have hlist : (as.map json).mapM read = some as := by
    rw [List.mapM_map]
    induction as with
    | nil => rfl
    | cons a as ih => simp [hread, ih]
  have harray := reads_array (as.map fun a => ⟨write a, json a, hreads a⟩)
  rw [List.map_map, List.map_map] at harray
  exact ⟨_, harray, hlist⟩

end EntityStore.Json
