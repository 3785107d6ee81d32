import ApiBindings.Text.Blank
import Mathlib.Data.List.DropRight

/-!
# Texts of blanks

Trimming takes away what is blank at the ends, so it leaves nothing of a text without words, and such
a text has no lines.

* `trimEnd_eq`           trimming at the end, in terms of the library;
* `trim_eq_nil_iff`      what is trimmed to nothing;
* `lines_eq_nil_iff`     only the empty text has no lines.
-/

namespace ApiBindings.Text

theorem trimEnd_eq (s : List Char) : trimEnd s = s.rdropWhile isBlank := rfl

theorem trim_eq_nil_iff {s : List Char} : trim s = [] ↔ s.all isBlank = true := by
  rw [trim, trimEnd_eq, List.rdropWhile_eq_nil_iff, List.all_eq_true]
  induction s with
  | nil => exact Iff.rfl
  | cons c s ih =>
    cases hc : isBlank c with
    | true => rw [List.dropWhile_cons_of_pos hc, ih, List.forall_mem_cons, and_iff_right hc]
    | false => rw [List.dropWhile_cons_of_neg (by rw [hc]; decide)]

theorem linesFrom_ne_nil {line : List Char} (s : List Char) (h : line ≠ []) :
    lines.go line s ≠ [] := by
  fun_induction lines.go line s with
  | case1 line =>
    rw [closeWord, if_neg (by rw [List.isEmpty_iff]; exact h)]
    exact List.cons_ne_nil _ _
  | case2 => exact List.cons_ne_nil _ _
  | case3 => exact List.cons_ne_nil _ _
  | case4 line c s _ _ ih => exact ih (List.cons_ne_nil _ _)

theorem lines_eq_nil_iff {s : List Char} : lines s = [] ↔ s = [] := by
  refine ⟨fun h => ?_, fun h => by rw [h]; rfl⟩
  unfold lines lines.go at h
  split at h
  · rfl
  · cases h
  · split at h
    · cases h
    · exact absurd h (linesFrom_ne_nil _ (List.cons_ne_nil _ _))

end ApiBindings.Text
