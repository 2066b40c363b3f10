import StyleObject.Proofs.Text.Removal
import StyleObject.Sheet

/-!
# Comments in a style sheet

A style sheet is read without its comments, so a comment may be put anywhere where no other one is
open: even between the two characters of a comment mark, and whatever the comment holds.
-/
namespace StyleObject.Sheet

open Text

/-- A comment does not change the flat text, nor anything that is made from it. -/
theorem flatten_comment {a c : Text} (ha : ¬ Opens (dropComments a)) (hc : ¬ Closes c) (b : Text) :
    flatten (a ++ comment c ++ b) = flatten (a ++ b) := by
  rw [flatten, dropComments_comment ha hc, flatten]

/-- A style sheet gives the same object, or the same fault at the same place, with a comment as
without it. -/
theorem render_comment (options : Options) {a c : Text} (ha : ¬ Opens (dropComments a))
    (hc : ¬ Closes c) (b : Text) :
    render options (a ++ comment c ++ b) = render options (a ++ b) := by
  have hd : declarations options.mode (a ++ comment c ++ b) =
      declarations options.mode (a ++ b) := by
    rw [declarations, flatten_comment ha hc, declarations]
  rw [render, object, hd, render, object]

/-- A comment that holds delimiters, a quote and an opening mark stands between a slash and a
star. -/
theorem render_comment_between :
    ¬ Opens (dropComments "é: /".toList) ∧ ¬ Closes "; \x7d ('/*".toList ∧
    render {} ("é: /".toList ++ comment "; \x7d ('/*".toList ++ "*: x".toList) =
      .error (.unexpected .colon 6 .value) := by
  have ha : ¬ Opens (dropComments "é: /".toList) := by
    rw [dropComments_of_none (by decide)]
    unfold Opens
    decide
  have hc : ¬ Closes "; \x7d ('/*".toList := by
    unfold Closes
    decide
  refine ⟨ha, hc, (render_comment {} ha hc "*: x".toList).trans ?_⟩
  have hf : flatten ("é: /".toList ++ "*: x".toList) = "é: /*: x".toList := by
    rw [flatten, dropComments_of_none (by decide)]
    decide
  rw [render, object, declarations, hf]
  decide

end StyleObject.Sheet
