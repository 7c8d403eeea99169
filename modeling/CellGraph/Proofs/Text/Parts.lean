import CellGraph.Text.Basic

/-!
# Parts of a text

A text is cut at its separators, and nowhere else.
-/

namespace CellGraph.Text

variable {separator : Char} {t : Text}

theorem split_ne_nil (separator : Char) (t : Text) : split separator t ≠ [] := by
  cases t with
  | nil => simp [split]
  | cons c t =>
    unfold split
    split
    · simp
    · split <;> simp

/-- A separator in the middle cuts, whatever stands around it. -/
theorem split_append_separator (separator : Char) (t u : Text) :
    split separator (t ++ separator :: u) = split separator t ++ split separator u := by
  induction t with
  | nil => simp [split]
  | cons c t ih =>
    by_cases cut : c = separator
    · simp [split, cut, ih]
    · rw [List.cons_append, split, split, if_neg cut, if_neg cut, ih]
      cases parts : split separator t with
      | nil => exact absurd parts (split_ne_nil separator t)
      | cons first others => rfl

theorem split_of_not_mem (absent : separator ∉ t) : split separator t = [t] := by
  induction t with
  | nil => rfl
  | cons c t ih =>
    simp only [List.mem_cons, not_or] at absent
    simp [split, Ne.symm absent.1, ih absent.2]

theorem split_append (absent : separator ∉ t) (u : Text) :
    split separator (t ++ separator :: u) = t :: split separator u := by
  rw [split_append_separator, split_of_not_mem absent]
  rfl

/-- No part holds a separator. -/
theorem not_mem_of_mem_split {part : Text} (member : part ∈ split separator t) :
    separator ∉ part := by
  induction t generalizing part with
  | nil => simp_all [split]
  | cons c t ih =>
    unfold split at member
    by_cases cut : c = separator
    · rw [if_pos cut] at member
      rcases List.mem_cons.1 member with rfl | later
      · exact List.not_mem_nil
      · exact ih later
    · rw [if_neg cut] at member
      cases parts : split separator t with
      | nil => exact absurd parts (split_ne_nil separator t)
      | cons first others =>
        rw [parts] at member ih
        rcases List.mem_cons.1 member with rfl | later
        · have inside := ih List.mem_cons_self
          simp [Ne.symm cut, inside]
        · exact ih (List.mem_cons_of_mem _ later)

end CellGraph.Text
