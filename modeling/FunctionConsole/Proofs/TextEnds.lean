import FunctionConsole.Text.Blank
import Mathlib.Data.List.DropRight
import Mathlib.Data.List.TakeWhile

/-!
# The ends of a text

Most texts are used without the blanks at their ends, some without the line breaks or slashes there.
This file says of such a text what stays of it and what is dropped, whatever is to be dropped.
-/

namespace FunctionConsole.Text

-- ==================================================== what stays

section

variable {p : Char → Bool} {text : List Char}

theorem dropEndWhile_of_last (h : ∀ c ∈ text.getLast?, p c = false) :
    dropEndWhile p text = text := by
  refine List.rdropWhile_eq_self_iff.mpr fun hne hp => ?_
  rw [h _ (List.getLast?_eq_some_getLast hne)] at hp
  cases hp

theorem dropWhile_of_first (h : ∀ c ∈ text.head?, p c = false) : text.dropWhile p = text := by
  cases text with
  | nil => rfl
  | cons c text => rw [List.dropWhile_cons_of_neg (by simp [h c rfl])]

theorem dropAroundWhile_of_ends (hfirst : ∀ c ∈ text.head?, p c = false)
    (hlast : ∀ c ∈ text.getLast?, p c = false) : dropAroundWhile p text = text := by
  rw [dropAroundWhile, dropWhile_of_first hfirst, dropEndWhile_of_last hlast]

theorem dropEndWhile_parts (p : Char → Bool) (text : List Char) :
    ∃ dropped, text = dropEndWhile p text ++ dropped ∧ ∀ c ∈ dropped, p c = true := by
  refine ⟨(text.reverse.takeWhile p).reverse, ?_, fun c hc => ?_⟩
  · rw [dropEndWhile, ← List.reverse_append, List.takeWhile_append_dropWhile,
      List.reverse_reverse]
  · exact List.mem_takeWhile_imp (List.mem_reverse.mp hc)

theorem first_of_dropWhile : ∀ c ∈ (text.dropWhile p).head?, p c = false := by
  intro c hc
  have hfirst := List.head?_dropWhile_not p text
  rw [hc] at hfirst
  exact hfirst

theorem last_of_dropEndWhile : ∀ c ∈ (dropEndWhile p text).getLast?, p c = false := by
  intro c hc
  have hne : text.rdropWhile p ≠ [] := by
    intro hnil
    rw [dropEndWhile] at hc
    rw [List.rdropWhile] at hnil
    rw [hnil] at hc
    cases hc
  have hlast := List.rdropWhile_last_not p text hne
  have hget : (text.rdropWhile p).getLast? = some c := hc
  rw [List.getLast?_eq_some_getLast hne] at hget
  rw [Option.some.inj hget] at hlast
  exact Bool.eq_false_iff.mpr hlast

theorem mem_head?_of_dropEndWhile {c : Char} (h : c ∈ (dropEndWhile p text).head?) :
    c ∈ text.head? := by
  obtain ⟨dropped, htext, -⟩ := dropEndWhile_parts p text
  have hwhole : (dropEndWhile p text ++ dropped).head? = some c := by
    rw [List.head?_append, h]
    rfl
  rw [htext]
  exact hwhole

/-- Only what stands behind the last character to be kept is dropped. -/
theorem dropEndWhile_append (front : List Char) {c : Char} (hc : p c = false) :
    dropEndWhile p (front ++ c :: text) = front ++ c :: dropEndWhile p text := by
  have hreverse : (front ++ c :: text).reverse = text.reverse ++ (c :: front.reverse) := by simp
  rw [dropEndWhile, dropEndWhile, hreverse, List.dropWhile_append]
  split
  · next hempty =>
      rw [List.isEmpty_iff.mp hempty, List.dropWhile_cons_of_neg (by simp [hc])]
      simp
  · simp

/-- What is put around a text to be dropped is dropped, if the text itself has nothing to drop. -/
theorem dropAroundWhile_between {before after : List Char} (hbefore : ∀ c ∈ before, p c = true)
    (hafter : ∀ c ∈ after, p c = true) (hfirst : ∀ c ∈ text.head?, p c = false)
    (hlast : ∀ c ∈ text.getLast?, p c = false) :
    dropAroundWhile p (before ++ text ++ after) = text := by
  have hend : dropEndWhile p (text ++ after) = text := by
    have hreverse : ∀ c ∈ after.reverse, p c = true := fun c hc =>
      hafter c (List.mem_reverse.mp hc)
    rw [dropEndWhile, List.reverse_append, List.dropWhile_append_of_pos hreverse]
    exact dropEndWhile_of_last hlast
  rw [dropAroundWhile, List.append_assoc, List.dropWhile_append_of_pos hbefore]
  cases text with
  | nil =>
      have hnone : after.dropWhile p = [] := List.dropWhile_eq_nil_iff.mpr hafter
      rw [List.nil_append, hnone]
      rfl
  | cons c text =>
      have hc : p c = false := hfirst c rfl
      rw [List.cons_append, List.dropWhile_cons_of_neg (by simp [hc])]
      exact hend

end

-- ==================================================== dropping twice

section

variable {p q : Char → Bool}

theorem dropWhile_dropWhile (h : ∀ c, p c = true → q c = true) (text : List Char) :
    (text.dropWhile p).dropWhile q = text.dropWhile q := by
  induction text with
  | nil => rfl
  | cons c text ih =>
      by_cases hc : p c = true
      · rw [List.dropWhile_cons_of_pos hc, List.dropWhile_cons_of_pos (h c hc), ih]
      · rw [List.dropWhile_cons_of_neg hc]

/-- What is dropped at the end need not be dropped before. -/
theorem dropEndWhile_dropEndWhile (h : ∀ c, p c = true → q c = true) (text : List Char) :
    dropEndWhile q (dropEndWhile p text) = dropEndWhile q text := by
  rw [dropEndWhile, dropEndWhile, List.reverse_reverse, dropWhile_dropWhile h, dropEndWhile]

end

-- ==================================================== what is dropped

section

variable {p q : Char → Bool}

theorem filter_dropWhile (h : ∀ c, p c = true → q c = false) (text : List Char) :
    (text.dropWhile p).filter q = text.filter q := by
  induction text with
  | nil => rfl
  | cons c text ih =>
      by_cases hc : p c = true
      · rw [List.dropWhile_cons_of_pos hc, ih, List.filter_cons_of_neg (by simp [h c hc])]
      · rw [List.dropWhile_cons_of_neg hc]

/-- Dropping at the ends leaves all characters of a kind that is not dropped. -/
theorem filter_dropAroundWhile (h : ∀ c, p c = true → q c = false) (text : List Char) :
    (dropAroundWhile p text).filter q = text.filter q := by
  rw [dropAroundWhile, dropEndWhile, List.filter_reverse, filter_dropWhile h, List.filter_reverse,
    List.reverse_reverse, filter_dropWhile h]

end

end FunctionConsole.Text
