import StyleObject.Text.Basic

/-!
# Comments

A comment opens at the first `/*` and closes at the first `*/` after those two characters. Comments
leave a text one at a time, each time looking from the start of what remains, so a comment mark that
a removal joins together counts as one. An opening mark that is never closed stays.
-/
namespace StyleObject.Text

/-- The texts before and after the first complete comment. -/
def aroundComment? (t : Text) : Option (Text × Text) := do
  let (before, rest) ← cutAt? ['/', '*'] t
  let (_, after) ← cutAt? ['*', '/'] rest
  some (before, after)

/-- A removal makes the text at least four characters shorter. -/
theorem length_around_comment {t before after : Text}
    (h : aroundComment? t = some (before, after)) :
    (before ++ after).length + 4 ≤ t.length := by
  simp only [aroundComment?, Option.bind_eq_bind, Option.bind_eq_some_iff, Option.some.injEq,
    Prod.mk.injEq] at h
  obtain ⟨⟨b, r⟩, hb, ⟨body, a⟩, ha, rfl, rfl⟩ := h
  have ho := length_of_cutAt? hb
  have hc := length_of_cutAt? ha
  simp only [List.length_append, List.length_cons, List.length_nil] at ho hc ⊢
  omega

/-- The text that remains when no complete comment is left. -/
def dropComments (t : Text) : Text :=
  match _h : aroundComment? t with
  | none => t
  | some (before, after) => dropComments (before ++ after)
termination_by t.length
decreasing_by
  have := length_around_comment _h
  omega

theorem dropComments_of_none {t : Text} (h : aroundComment? t = none) : dropComments t = t := by
  rw [dropComments]
  split
  · rfl
  · next h' => simp [h] at h'

theorem dropComments_of_some {t before after : Text} (h : aroundComment? t = some (before, after)) :
    dropComments t = dropComments (before ++ after) := by
  rw [dropComments]
  split
  · next h' => simp [h] at h'
  · next h' =>
    rw [h] at h'
    cases h'
    rfl

end StyleObject.Text
