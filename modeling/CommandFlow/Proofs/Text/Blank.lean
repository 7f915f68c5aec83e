import CommandFlow.Text.Blank
import Mathlib.Data.List.DropRight

/-!
# Blanks at the ends

* `Text.stripChars_blanks` : blanks around a text do not matter;
* `Text.stripChars_cons` : what is no blank stays at the front; `Text.stripChars_stripChars` : nothing more is stripped
  the second time; `Text.stripChars_eq_nil_iff` : nothing is left of blanks only.
-/

namespace CommandFlow.Text

theorem stripEnd_append_blanks {after : List Char} (hafter : ∀ c ∈ after, isBlank c = true) (cs : List Char) :
    stripEnd (cs ++ after) = stripEnd cs := by
  rw [stripEnd, List.reverse_append, List.dropWhile_append_of_pos (by simpa using hafter)]
  rfl

theorem stripChars_blanks {before after : List Char} (hbefore : ∀ c ∈ before, isBlank c = true)
    (hafter : ∀ c ∈ after, isBlank c = true) (cs : List Char) :
    stripChars (before ++ (cs ++ after)) = stripChars cs := by
  rw [stripChars, List.dropWhile_append_of_pos hbefore, List.dropWhile_append]
  split
  · rename_i hblank
    rw [List.isEmpty_iff] at hblank
    have hnone : (after ++ []).dropWhile isBlank = [] := List.dropWhile_append_of_pos hafter
    rw [List.append_nil] at hnone
    rw [stripChars, hblank, hnone]
  · exact stripEnd_append_blanks hafter _

theorem stripEnd_cons {c : Char} (hc : isBlank c = false) (cs : List Char) : stripEnd (c :: cs) = c :: stripEnd cs := by
  rw [stripEnd, List.reverse_cons, List.dropWhile_append]
  split
  · rename_i hblank
    rw [List.isEmpty_iff] at hblank
    simp [stripEnd, hblank, hc]
  · simp [stripEnd]

theorem stripChars_cons {c : Char} (hc : isBlank c = false) (cs : List Char) :
    stripChars (c :: cs) = c :: stripEnd cs := by
  rw [stripChars, List.dropWhile_cons_of_neg (by simp [hc]), stripEnd_cons hc]

theorem stripChars_eq_nil_iff {cs : List Char} : stripChars cs = [] ↔ ∀ c ∈ cs, isBlank c = true := by
  rw [← List.dropWhile_eq_nil_iff, stripChars]
  cases hdrop : cs.dropWhile isBlank with
  | nil => simp [stripEnd]
  | cons c rest =>
    have hc : isBlank c = false := by
      have hhead := List.head?_dropWhile_not isBlank cs
      simpa [hdrop] using hhead
    simp [stripEnd_cons hc]

theorem stripChars_stripChars (cs : List Char) : stripChars (stripChars cs) = stripChars cs := by
  have hidempotent (ds : List Char) : stripEnd (stripEnd ds) = stripEnd ds :=
    List.rdropWhile_idempotent isBlank ds
  rw [stripChars.eq_def cs]
  cases hdrop : cs.dropWhile isBlank with
  | nil => rfl
  | cons c rest =>
    have hc : isBlank c = false := by
      have hhead := List.head?_dropWhile_not isBlank cs
      simpa [hdrop] using hhead
    rw [stripEnd_cons hc, stripChars_cons hc, hidempotent]

end CommandFlow.Text
