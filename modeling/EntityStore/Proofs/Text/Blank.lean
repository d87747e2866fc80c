import EntityStore.Text.Blank
import Mathlib.Data.List.TakeWhile

/-!
# What trimming leaves

A text is enclosed in blank characters in one way only: the part between them that neither begins nor
ends with a blank one is what trimming leaves (`trim_eq_iff`).
-/

namespace EntityStore.Text

/-- What blank characters enclose in a text: it neither begins nor ends with one. -/
structure Enclosed (inner s : List Char) : Prop where
  split : ∃ before after, s = before ++ inner ++ after ∧
    (∀ c ∈ before, isBlank c = true) ∧ ∀ c ∈ after, isBlank c = true
  first : ∀ c ∈ inner.head?, isBlank c = false
  last : ∀ c ∈ inner.getLast?, isBlank c = false

variable {s t inner : List Char}

theorem trimStart_append (h : ∀ c ∈ s, isBlank c = true) : trimStart (s ++ t) = trimStart t :=
  List.dropWhile_append_of_pos h

theorem trimEnd_append (h : ∀ c ∈ t, isBlank c = true) : trimEnd (s ++ t) = trimEnd s := by
  rw [trimEnd, List.reverse_append,
    List.dropWhile_append_of_pos fun c hc => h c (List.mem_reverse.1 hc), trimEnd]

theorem trimStart_eq_self (h : ∀ c ∈ s.head?, isBlank c = false) : trimStart s = s := by
  cases s with
  | nil => rfl
  | cons c s => exact trimStart_cons_of_not_blank s (h c rfl)

theorem trimEnd_eq_self (h : ∀ c ∈ s.getLast?, isBlank c = false) : trimEnd s = s := by
  have hreverse : trimStart s.reverse = s.reverse :=
    trimStart_eq_self fun c hc => h c (by rwa [← List.head?_reverse])
  exact (congrArg List.reverse hreverse).trans (List.reverse_reverse s)

theorem not_blank_of_head?_trimStart {c : Char} (h : c ∈ (trimStart s).head?) :
    isBlank c = false := by
  have hhead := List.head?_dropWhile_not isBlank s
  rw [show s.dropWhile isBlank = trimStart s from rfl, Option.mem_def.1 h] at hhead
  simpa using hhead

/-- Trimming leaves what blank characters enclose. -/
theorem trim_of_enclosed (h : Enclosed inner s) : trim s = inner := by
  obtain ⟨before, after, rfl, hbefore, hafter⟩ := h.split
  rw [trim, List.append_assoc, trimStart_append hbefore]
  cases inner with
  | nil =>
    have hnil : trimStart ([] ++ after) = [] := List.dropWhile_eq_nil_iff.2 hafter
    rw [hnil]
    rfl
  | cons c inner =>
    rw [trimStart_eq_self (s := c :: inner ++ after) h.first, trimEnd_append hafter,
      trimEnd_eq_self h.last]

theorem enclosed_trim (s : List Char) : Enclosed (trim s) s := by
  -- what is left of the front, and of the end of that
  have hstart : s.takeWhile isBlank ++ trimStart s = s := List.takeWhile_append_dropWhile
  have hend : trim s ++ ((trimStart s).reverse.takeWhile isBlank).reverse = trimStart s := by
    rw [trim, trimEnd, ← List.reverse_append, List.takeWhile_append_dropWhile, List.reverse_reverse]
  refine ⟨⟨s.takeWhile isBlank, ((trimStart s).reverse.takeWhile isBlank).reverse, ?_, ?_, ?_⟩,
    fun c hc => ?_, fun c hc => ?_⟩
  · rw [List.append_assoc, hend, hstart]
  · exact fun c hc => List.mem_takeWhile_imp hc
  · exact fun c hc => List.mem_takeWhile_imp (List.mem_reverse.1 hc)
  · refine not_blank_of_head?_trimStart (s := s) ?_
    rw [← hend, List.head?_append, Option.mem_def.1 hc]
    rfl
  · refine not_blank_of_head?_trimStart (s := (trimStart s).reverse) ?_
    rwa [← List.getLast?_reverse]

/-- A text is enclosed in blank characters in one way only. -/
theorem trim_eq_iff : trim s = inner ↔ Enclosed inner s :=
  ⟨fun h => h ▸ enclosed_trim s, trim_of_enclosed⟩

end EntityStore.Text
