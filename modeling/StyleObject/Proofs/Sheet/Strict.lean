import StyleObject.Proofs.Block.Strict
import StyleObject.Sheet

/-!
# Style sheets in the two modes

The mode has no influence on how declarations become an object, so a strict object is a lenient one.
A strict answer has at least one declaration, so the strict mode never misses them.
-/
namespace StyleObject.Sheet

open Block

variable {options : Options} {css : Text}

theorem answers_declarations (css : Text) :
    Answers (declarations .strict css) (declarations .lenient css) := answers_read (flatten css)

theorem render_lenient_of_strict {out : Text}
    (h : render { options with mode := .strict } css = .ok out) :
    render { options with mode := .lenient } css = .ok out := by
  have ha := answers_declarations css
  rw [render, object] at h ⊢
  dsimp only at h ⊢
  cases hs : declarations .strict css with
  | error f => simp [hs] at h
  | ok ds =>
    rw [hs] at ha h
    obtain ⟨-, hl⟩ := ha.refusesMore.ok ds rfl
    rw [hl]
    exact h

theorem render_strict_ne_noDeclarations :
    render { options with mode := .strict } css ≠ .error .noDeclarations := by
  have ha := answers_declarations css
  rw [render, object]
  dsimp only
  cases hs : declarations .strict css with
  | error f =>
    rw [hs] at ha
    generalize declarations .lenient css = lenient at ha
    cases ha <;> simp
  | ok ds =>
    rw [hs] at ha
    obtain ⟨hn, -⟩ := ha.refusesMore.ok ds rfl
    obtain ⟨d, ds, rfl⟩ := List.exists_cons_of_ne_nil hn
    simp

/-- The strict mode refuses more texts than the lenient one and never changes an answer. A strict
object is the lenient object of the same style sheet, and a strict style sheet without an object
has another fault than being without declarations. -/
theorem strict_refuses_more :
    (∀ t, RefusesMore (read .strict t) (read .lenient t)) ∧
    ∀ (options : Options) (css : Text),
      (∀ out, render { options with mode := .strict } css = .ok out →
        render { options with mode := .lenient } css = .ok out) ∧
      render { options with mode := .strict } css ≠ .error .noDeclarations :=
  ⟨fun t => (answers_read t).refusesMore,
    fun _ _ => ⟨fun _ => render_lenient_of_strict, render_strict_ne_noDeclarations⟩⟩

end StyleObject.Sheet
