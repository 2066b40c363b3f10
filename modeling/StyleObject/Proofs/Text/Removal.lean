import StyleObject.Proofs.Text.Comment

/-!
# Removing comments piece by piece

The first comment of a text is also the first one of every longer text, so comments may be removed
from a text before anything is put behind it. Then nothing that was removed can be seen any more:
a comment between two texts is the first one as soon as the text in front of it opens none.
-/
namespace StyleObject.Text

variable {mark s t before after : Text}

/-- The first place of a mark stays the first one when the text goes on. -/
theorem cutAt?_append (h : cutAt? mark t = some (before, after)) (u : Text) :
    cutAt? mark (t ++ u) = some (before, after ++ u) := by
  induction t generalizing before with
  | nil => cases h
  | cons c r ih =>
    rw [cutAt?] at h
    rw [List.cons_append, cutAt?]
    cases hp : mark.isPrefixOf? (c :: r) with
    | some rest =>
      obtain ⟨rfl, rfl⟩ : [] = before ∧ rest = after := by simpa [hp] using h
      have hu : mark.isPrefixOf? (c :: (r ++ u)) = some (rest ++ u) := by
        rw [List.isPrefixOf?_eq_some_iff_append_eq, ← List.append_assoc,
          List.append_eq_of_isPrefixOf?_eq_some hp]
        rfl
      rw [hu]
    | none =>
      rw [hp] at h
      obtain ⟨⟨b, a⟩, hb, he⟩ := Option.map_eq_some_iff.1 h
      obtain ⟨rfl, rfl⟩ : c :: b = before ∧ a = after := by simpa using he
      -- The mark stands in `r`, so at the start of the text it would not reach into `u`.
      have hl : mark.length ≤ (c :: r).length := by
        have := length_of_cutAt? hb
        rw [List.length_cons]
        omega
      have hu : mark.isPrefixOf? (c :: (r ++ u)) = none := by
        rw [isPrefixOf?_eq_none_iff] at hp ⊢
        intro hm
        exact hp (List.prefix_of_prefix_length_le hm (List.prefix_append (c :: r) u) hl)
      rw [hu]
      simp only [ih hb, Option.map_some]

/-- A mark of two different characters is found behind a text that does not hold it. -/
theorem cutAt?_pair {x y : Char} (hxy : x ≠ y) (hs : ¬ [x, y] <:+: s) (t : Text) :
    cutAt? [x, y] (s ++ x :: y :: t) = some (s, t) := by
  induction s with
  | nil =>
    have hp : [x, y].isPrefixOf? (x :: y :: t) = some t :=
      List.isPrefixOf?_eq_some_iff_append_eq.2 rfl
    simp [cutAt?, hp]
  | cons c r ih =>
    have hr : ¬ [x, y] <:+: r := fun h => hs (h.trans (List.suffix_cons c r).isInfix)
    have hp : [x, y].isPrefixOf? (c :: (r ++ x :: y :: t)) = none := by
      rw [isPrefixOf?_eq_none_iff]
      rintro ⟨rest, h⟩
      simp only [List.cons_append, List.nil_append, List.cons.injEq] at h
      obtain ⟨rfl, h⟩ := h
      cases r with
      | nil => exact hxy (List.cons.inj h).1.symm
      | cons d r =>
        obtain ⟨rfl, -⟩ := List.cons.inj h
        exact hs ⟨[], r, rfl⟩
    rw [List.cons_append, cutAt?, hp]
    simp only [ih hr, Option.map_some]

/-- The first comment stays the first one when the text goes on. -/
theorem aroundComment?_append (h : aroundComment? t = some (before, after)) (u : Text) :
    aroundComment? (t ++ u) = some (before, after ++ u) := by
  simp only [aroundComment?, Option.bind_eq_bind, Option.bind_eq_some_iff, Option.some.injEq,
    Prod.mk.injEq] at h
  obtain ⟨⟨b, rest⟩, hb, ⟨body, a⟩, ha, rfl, rfl⟩ := h
  simp [aroundComment?, cutAt?_append hb u, cutAt?_append ha u]

/-- Comments may be removed from the first part of a text before the others. -/
theorem dropComments_append (s t : Text) :
    dropComments (s ++ t) = dropComments (dropComments s ++ t) := by
  induction s using dropComments.induct with
  | case1 s h => rw [dropComments_of_none h]
  | case2 s before after h ih =>
    calc dropComments (s ++ t)
        = dropComments (before ++ after ++ t) := by
          rw [dropComments_of_some (aroundComment?_append h t), List.append_assoc]
      _ = dropComments (dropComments (before ++ after) ++ t) := ih
      _ = dropComments (dropComments s ++ t) := by rw [dropComments_of_some h]

/-- The comment with a given body. -/
def comment (body : Text) : Text := ['/', '*'] ++ body ++ ['*', '/']

/-- Behind a text that opens no comment, a comment is the first one. It ends where its body does,
even if the body opens comments or has a star at its end. -/
theorem aroundComment?_comment {a c : Text} (ha : ¬ Opens a) (hc : ¬ Closes c) (b : Text) :
    aroundComment? (a ++ comment c ++ b) = some (a, b) := by
  have ho : cutAt? ['/', '*'] (a ++ comment c ++ b) = some (a, c ++ '*' :: '/' :: b) := by
    simpa [comment] using cutAt?_pair (by decide) ha (c ++ '*' :: '/' :: b)
  have hk : cutAt? ['*', '/'] (c ++ '*' :: '/' :: b) = some (c, b) := cutAt?_pair (by decide) hc b
  rw [aroundComment?, ho]
  simp [hk]

/-- A comment leaves no trace where no comment is open. -/
theorem dropComments_comment {a c : Text} (ha : ¬ Opens (dropComments a)) (hc : ¬ Closes c)
    (b : Text) : dropComments (a ++ comment c ++ b) = dropComments (a ++ b) := by
  calc dropComments (a ++ comment c ++ b)
      = dropComments (dropComments a ++ comment c ++ b) := by
        rw [List.append_assoc, dropComments_append, List.append_assoc]
    _ = dropComments (dropComments a ++ b) := dropComments_of_some (aroundComment?_comment ha hc b)
    _ = dropComments (a ++ b) := (dropComments_append a b).symm

end StyleObject.Text
