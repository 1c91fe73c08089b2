import EditorKit.Text.Basic
import Mathlib.Data.List.DropRight

/-!
# Trimmed texts

Trimming takes white space away at the two ends of a text and nothing else, so a text is its own
trim exactly if it neither starts nor ends with white space (`Text.trim_eq_self_iff`).
-/

namespace EditorKit.Text

theorem trim_eq (t : Text) : t.trim = (t.dropWhile isBlank).rdropWhile isBlank := rfl

theorem isInfix_trim (t : Text) : t.trim <:+: t := by
  rw [trim_eq]
  exact (List.rdropWhile_prefix _ _).isInfix.trans (List.dropWhile_suffix _).isInfix

theorem mem_of_mem_trim {c : Char} {t : Text} (h : c ∈ t.trim) : c ∈ t :=
  (isInfix_trim t).subset h

theorem not_isBlank_of_mem_head?_dropWhile {c : Char} {t : Text}
    (h : c ∈ (t.dropWhile isBlank).head?) : ¬ isBlank c := by
  have hhead := List.head?_dropWhile_not isBlank t
  rw [Option.mem_def.1 h] at hhead
  simpa using hhead

/-- A trimmed text does not start with white space. -/
theorem not_isBlank_of_mem_head?_trim {c : Char} {t : Text} (h : c ∈ t.trim.head?) :
    ¬ isBlank c := by
  obtain ⟨behind, hbehind⟩ := List.rdropWhile_prefix isBlank (t.dropWhile isBlank)
  refine not_isBlank_of_mem_head?_dropWhile (t := t) ?_
  rw [← hbehind, ← trim_eq, List.head?_append, Option.mem_def.1 h]
  rfl

/-- A trimmed text does not end with white space. -/
theorem not_isBlank_of_mem_getLast?_trim {c : Char} {t : Text} (h : c ∈ t.trim.getLast?) :
    ¬ isBlank c := by
  rw [trim, List.getLast?_reverse] at h
  exact not_isBlank_of_mem_head?_dropWhile h

theorem trim_of_ends {t : Text} (hhead : ∀ c ∈ t.head?, ¬ isBlank c)
    (hlast : ∀ c ∈ t.getLast?, ¬ isBlank c) : t.trim = t := by
  have hfront : t.dropWhile isBlank = t := by
    cases t with
    | nil => rfl
    | cons c t => exact List.dropWhile_cons_of_neg (hhead c rfl)
  rw [trim_eq, hfront, List.rdropWhile_eq_self_iff]
  intro hne
  exact hlast _ (List.getLast?_eq_some_getLast hne)

/-- A text is its own trim exactly if there is no white space at its ends. -/
theorem trim_eq_self_iff {t : Text} :
    t.trim = t ↔ (∀ c ∈ t.head?, ¬ isBlank c) ∧ ∀ c ∈ t.getLast?, ¬ isBlank c := by
  constructor
  · intro h
    rw [← h]
    exact ⟨fun c => not_isBlank_of_mem_head?_trim, fun c => not_isBlank_of_mem_getLast?_trim⟩
  · rintro ⟨hhead, hlast⟩
    exact trim_of_ends hhead hlast

theorem trim_trim (t : Text) : t.trim.trim = t.trim :=
  trim_of_ends (fun _ => not_isBlank_of_mem_head?_trim) fun _ => not_isBlank_of_mem_getLast?_trim

theorem trim_of_forall_not_isBlank {t : Text} (h : ∀ c ∈ t, ¬ isBlank c) : t.trim = t :=
  trim_of_ends (fun c hc => h c (List.mem_of_mem_head? hc)) fun c hc =>
    h c (List.mem_of_mem_getLast? hc)

/-- Nothing is left of a blank text. -/
theorem trim_of_isBlankText {t : Text} (h : t.isBlankText) : t.trim = [] := by
  rw [trim_eq, List.dropWhile_eq_nil_iff.2 (List.all_eq_true.1 h), List.rdropWhile_nil]

/-- White space at the end makes no difference. -/
theorem trim_concat {c : Char} (hc : isBlank c) (t : Text) : trim (t ++ [c]) = t.trim := by
  rw [trim_eq, trim_eq, List.dropWhile_append]
  split
  · rename_i hempty
    rw [List.isEmpty_iff.1 hempty, List.dropWhile_cons_of_pos hc, List.dropWhile_nil]
  · rw [List.rdropWhile_concat_pos _ _ _ hc]

end EditorKit.Text
