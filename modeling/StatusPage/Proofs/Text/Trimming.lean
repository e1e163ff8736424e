import Mathlib
import StatusPage.Text.Blank

/-!
# Trimmed texts

Trimming works at the two ends of a text apart from each other: a visible character shields what is
on its other side (`trim_append_visible`), and it makes no difference which end is trimmed first
(`trimStart_trimEnd`). So a text is trimmed no further than once (`trim_trim`), and the parts of a
trimmed text are trimmed to what the parts of the text itself are.
-/

namespace StatusPage.Text

/-! ## One end -/

theorem trimStart_append_visible {mark : Char} (visible : isBlank mark = false)
    (front back : List Char) :
    trimStart (front ++ mark :: back) = trimStart front ++ mark :: back := by
  induction front with
  | nil => exact trimStart_of_visible visible back
  | cons c front ih =>
    by_cases blank : isBlank c
    · simpa [trimStart, blank] using ih
    · simp [trimStart, blank]

theorem trimEnd_append_visible {mark : Char} (visible : isBlank mark = false)
    (front back : List Char) :
    trimEnd (front ++ mark :: back) = front ++ mark :: trimEnd back := by
  have reversed := trimStart_append_visible visible back.reverse front.reverse
  simp only [trimStart] at reversed
  simp [trimEnd, reversed]

theorem trimStart_trimStart (cs : List Char) : trimStart (trimStart cs) = trimStart cs :=
  List.dropWhile_idempotent isBlank cs

theorem trimEnd_trimEnd (cs : List Char) : trimEnd (trimEnd cs) = trimEnd cs := by
  have reversed := trimStart_trimStart cs.reverse
  simp only [trimStart] at reversed
  simp [trimEnd, reversed]

theorem trimEnd_eq_nil_iff {cs : List Char} : trimEnd cs = [] ↔ ∀ c ∈ cs, isBlank c = true := by
  have reversed : trimStart cs.reverse = [] ↔ _ := trimStart_eq_nil_iff
  simp only [trimStart, List.mem_reverse] at reversed
  rw [trimEnd, List.reverse_eq_nil_iff, reversed]

/-- A text that is not blank has a first visible character. -/
theorem exists_first_visible {cs : List Char} (visible : ¬ ∀ c ∈ cs, isBlank c = true) :
    ∃ blanks first rest,
      cs = blanks ++ first :: rest ∧ (∀ c ∈ blanks, isBlank c = true) ∧ isBlank first = false := by
  induction cs with
  | nil => simp at visible
  | cons c cs ih =>
    by_cases blank : isBlank c = true
    · obtain ⟨blanks, first, rest, rfl, all, seen⟩ := ih (by simpa [blank] using visible)
      exact ⟨c :: blanks, first, rest, rfl, by simpa [blank] using all, seen⟩
    · exact ⟨[], c, cs, rfl, by simp, by simpa using blank⟩

/-! ## Both ends -/

/-- It makes no difference which end is trimmed first. -/
theorem trimStart_trimEnd (cs : List Char) : trimStart (trimEnd cs) = trim cs := by
  by_cases blank : ∀ c ∈ cs, isBlank c = true
  · rw [trimEnd_eq_nil_iff.2 blank, trim_eq_nil_iff.2 blank]
    rfl
  · obtain ⟨blanks, first, rest, rfl, all, seen⟩ := exists_first_visible blank
    have none_left : trimStart blanks = [] := trimStart_eq_nil_iff.2 all
    have kept : trimEnd (first :: rest) = first :: trimEnd rest := trimEnd_append_visible seen [] rest
    rw [trim, trimEnd_append_visible seen, trimStart_append_visible seen,
      trimStart_append_visible seen, none_left, List.nil_append, List.nil_append, kept]

theorem trim_trimStart (cs : List Char) : trim (trimStart cs) = trim cs := by
  rw [trim, trimStart_trimStart, trim]

theorem trim_trimEnd (cs : List Char) : trim (trimEnd cs) = trim cs := by
  rw [← trimStart_trimEnd, trimEnd_trimEnd, trimStart_trimEnd]

theorem trim_trim (cs : List Char) : trim (trim cs) = trim cs := by
  have inner : trim cs = trimEnd (trimStart cs) := rfl
  rw [inner, trim_trimEnd, trim_trimStart, inner]

/-- A visible character shields what is on its other side. -/
theorem trim_append_visible {mark : Char} (visible : isBlank mark = false)
    (front back : List Char) :
    trim (front ++ mark :: back) = trimStart front ++ mark :: trimEnd back := by
  rw [trim, trimStart_append_visible visible, trimEnd_append_visible visible]

/-- A text that is trimmed at both ends is trimmed at either end. -/
theorem trimStart_of_trim {cs : List Char} (trimmed : trim cs = cs) : trimStart cs = cs := by
  rw [← trimmed, ← trimStart_trimEnd, trimStart_trimStart]

theorem trimEnd_of_trim {cs : List Char} (trimmed : trim cs = cs) : trimEnd cs = cs := by
  rw [← trimmed, trim, trimEnd_trimEnd]

theorem mem_of_mem_trim {c : Char} {cs : List Char} (member : c ∈ trim cs) : c ∈ cs := by
  rw [trim, trimEnd, List.mem_reverse] at member
  have kept := (List.dropWhile_sublist isBlank).subset member
  exact (List.dropWhile_sublist isBlank).subset (List.mem_reverse.1 kept)

end StatusPage.Text
