import StyleObject.Proofs.Sheet.Print
import StyleObject.Proofs.Text.Runs

/-!
# Flat style sheets

Flattening a style sheet once leaves nothing for a second time: no comment, no spaces but single
inner ones, and between these the runs of the text without its comments. So a flat style sheet
gives the same object as the style sheet that it comes from, or the same fault at the same place.
-/
namespace StyleObject.Sheet

open Text

theorem dropComments_flatten (css : Text) : dropComments (flatten css) = flatten css :=
  dropComments_of_not_hasComment (not_hasComment_flatten css)

theorem squeeze_flatten (css : Text) : squeeze (flatten css) = flatten css :=
  squeeze_of_tight (tight_flatten css)

theorem words_flatten (css : Text) : words (flatten css) = words (dropComments css) :=
  words_squeeze (dropComments css)

theorem render_flatten (options : Options) (css : Text) :
    render options (flatten css) = render options css := by
  have hd : declarations options.mode (flatten css) = declarations options.mode css := by
    rw [declarations, flatten_flatten, declarations]
  rw [render, object, hd, render, object]

/-- A flat style sheet is flat for good: it stays as it is when it is flattened, freed of comments
or squeezed, it has no comment, and its spaces are single inner ones. Its runs are those of the
style sheet without comments, with one space between them. Nothing that is made from it is
different, the place of a fault included. -/
theorem flatten_fixed (css : Text) :
    flatten (flatten css) = flatten css ∧ dropComments (flatten css) = flatten css ∧
    squeeze (flatten css) = flatten css ∧ ¬ HasComment (flatten css) ∧ Tight (flatten css) ∧
    (∃ ws, (∀ vs, Runs vs (dropComments css) ↔ vs = ws) ∧ (∀ vs, Runs vs (flatten css) ↔ vs = ws) ∧
      flatten css = [' '].intercalate ws) ∧
    ∀ options, render options (flatten css) = render options css := by
  refine ⟨flatten_flatten css, dropComments_flatten css, squeeze_flatten css,
    not_hasComment_flatten css, tight_flatten css, ⟨words (dropComments css), ?_, ?_, rfl⟩,
    fun options => render_flatten options css⟩
  · intro vs
    exact runs_iff
  · intro vs
    rw [← words_flatten css]
    exact runs_iff

end StyleObject.Sheet
