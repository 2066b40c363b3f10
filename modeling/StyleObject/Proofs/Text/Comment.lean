import StyleObject.Proofs.Text.Affix
import StyleObject.Proofs.Text.Squeeze
import StyleObject.Text.Comment

/-!
# Texts without comments

Removing comments leaves a text in which no `*/` stands behind a `/*`, and it leaves such a text as
it is. What is written from such a text has no comment either, if it makes no new comment marks and
does not change the order of those that are there.
-/
namespace StyleObject.Text

theorem cutAt?_of_isInfix {mark t a c : Text} (h : t = a ++ mark ++ c) (hm : mark ≠ []) :
    ∃ b r, cutAt? mark t = some (b, r) ∧ c <:+ r := by
  induction t generalizing a with
  | nil =>
    have hn := List.append_eq_nil_iff.1 (List.append_eq_nil_iff.1 h.symm).1
    exact absurd hn.2 hm
  | cons x t ih =>
    cases hp : mark.isPrefixOf? (x :: t) with
    | some r =>
      refine ⟨[], r, by simp [cutAt?, hp], ?_⟩
      have hr := List.append_eq_of_isPrefixOf?_eq_some hp
      have hl : c.length ≤ r.length := by
        have := congrArg List.length (hr.trans h)
        simp only [List.length_append] at this
        omega
      exact List.suffix_of_suffix_length_le ⟨a ++ mark, h.symm⟩ ⟨mark, hr⟩ hl
    | none =>
      cases a with
      | nil =>
        exact absurd ⟨c, h.symm⟩ (isPrefixOf?_eq_none_iff.1 hp)
      | cons y a =>
        simp only [List.cons_append, List.cons.injEq] at h
        obtain ⟨b, r, hb, hc⟩ := ih h.2
        exact ⟨x :: b, r, by simp [cutAt?, hp, hb], hc⟩

/-- A mark is found exactly where it stands. -/
theorem cutAt?_eq_none_iff {mark t : Text} (hm : mark ≠ []) :
    cutAt? mark t = none ↔ ¬ mark <:+: t := by
  constructor
  · rintro h ⟨a, c, ha⟩
    obtain ⟨b, r, hb, -⟩ := cutAt?_of_isInfix ha.symm hm
    cases h.symm.trans hb
  · intro h
    cases hc : cutAt? mark t with
    | none => rfl
    | some p => exact absurd ⟨p.1, p.2, (eq_of_cutAt? hc).symm⟩ h

/-- A comment stands between the two texts around it. -/
theorem exists_comment {t before after : Text} (h : aroundComment? t = some (before, after)) :
    ∃ body, t = before ++ ['/', '*'] ++ (body ++ ['*', '/'] ++ after) := by
  simp only [aroundComment?, Option.bind_eq_bind, Option.bind_eq_some_iff, Option.some.injEq,
    Prod.mk.injEq] at h
  obtain ⟨⟨b, r⟩, hb, ⟨body, a⟩, ha, rfl, rfl⟩ := h
  have hr : r = body ++ ['*', '/'] ++ a := eq_of_cutAt? ha
  exact ⟨body, by rw [eq_of_cutAt? hb, hr]⟩

/-- The mark that opens a comment stands in the text. -/
def Opens (t : Text) : Prop := ['/', '*'] <:+: t

/-- The mark that closes a comment stands in the text. -/
def Closes (t : Text) : Prop := ['*', '/'] <:+: t

/-- A complete comment stands in the text. -/
def HasComment (t : Text) : Prop := ∃ u v, t = u ++ '/' :: '*' :: v ∧ Closes v

theorem aroundComment?_eq_none_iff {t : Text} : aroundComment? t = none ↔ ¬ HasComment t := by
  constructor
  · rintro h ⟨u, v, ht, a, c, rfl⟩
    have ho : t = u ++ ['/', '*'] ++ (a ++ ['*', '/'] ++ c) := by simpa using ht
    obtain ⟨b, r, hb, hv⟩ := cutAt?_of_isInfix ho (by simp)
    have hr : ['*', '/'] <:+: r := List.IsInfix.trans ⟨a, c, by simp⟩ hv.isInfix
    cases hk : cutAt? ['*', '/'] r with
    | none => exact (cutAt?_eq_none_iff (by simp)).1 hk hr
    | some p => simp [aroundComment?, hb, hk] at h
  · intro h
    cases ha : aroundComment? t with
    | none => rfl
    | some p =>
      obtain ⟨body, rfl⟩ := exists_comment ha
      exact absurd ⟨p.1, _, by simp, body, p.2, rfl⟩ h

/-- No complete comment is left. -/
theorem not_hasComment_dropComments (t : Text) : ¬ HasComment (dropComments t) := by
  induction t using dropComments.induct with
  | case1 t h =>
    rw [dropComments_of_none h]
    exact aroundComment?_eq_none_iff.1 h
  | case2 t before after h ih =>
    rw [dropComments_of_some h]
    exact ih

theorem dropComments_of_not_hasComment {t : Text} (h : ¬ HasComment t) : dropComments t = t :=
  dropComments_of_none (aroundComment?_eq_none_iff.2 h)

theorem mem_dropComments {c : Char} {t : Text} (h : c ∈ dropComments t) : c ∈ t := by
  induction t using dropComments.induct with
  | case1 t hn => rwa [dropComments_of_none hn] at h
  | case2 t before after hs ih =>
    rw [dropComments_of_some hs] at h
    obtain ⟨body, rfl⟩ := exists_comment hs
    have hm := ih h
    simp only [List.mem_append] at hm ⊢
    exact hm.elim (fun hb => Or.inl (Or.inl hb)) fun ha => Or.inr (Or.inr ha)

/-- The comment marks of one text stand in another one in the same order. -/
structure MarksWithin (s t : Text) : Prop where
  opens : Opens s → Opens t
  closes : Closes s → Closes t
  comment : HasComment s → HasComment t

theorem HasComment.of_isInfix {s t : Text} (h : s <:+: t) (hs : HasComment s) : HasComment t := by
  obtain ⟨a, b, rfl⟩ := h
  obtain ⟨u, v, rfl, hv⟩ := hs
  exact ⟨a ++ u, v ++ b, by simp, List.IsInfix.trans hv (List.prefix_append v b).isInfix⟩

theorem HasComment.opens {t : Text} (h : HasComment t) : Opens t := by
  obtain ⟨u, v, rfl, -⟩ := h
  exact ⟨u, v, by simp⟩

theorem hasComment_append {s t : Text} (hs : Opens s) (ht : Closes t) : HasComment (s ++ t) := by
  obtain ⟨a, b, rfl⟩ := hs
  exact ⟨a, b ++ t, by simp, List.IsInfix.trans ht (List.suffix_append b t).isInfix⟩

section Seam

variable {x : Char} (hx : x ≠ '/' ∧ x ≠ '*')
include hx

/-- A character that is in no comment mark separates the marks around it. -/
theorem pair_infix_seam {c d : Char} {s t : Text} (hc : c = '/' ∨ c = '*') (hd : d = '/' ∨ d = '*')
    (h : [c, d] <:+: s ++ x :: t) : [c, d] <:+: s ∨ [c, d] <:+: t := by
  have hcx : c ≠ x := by rcases hc with rfl | rfl <;> [exact hx.1.symm; exact hx.2.symm]
  have hdx : d ≠ x := by rcases hd with rfl | rfl <;> [exact hx.1.symm; exact hx.2.symm]
  rcases pair_infix_append h with h | h | ⟨-, h⟩
  · exact Or.inl h
  · rcases List.infix_cons_iff.1 h with h | h
    · exact absurd (List.cons_prefix_cons.1 h).1 hcx
    · exact Or.inr h
  · exact absurd (Option.some.inj h).symm hdx

theorem not_opens_seam {s t : Text} (hs : ¬ Opens s) (ht : ¬ Opens t) : ¬ Opens (s ++ x :: t) := by
  intro h
  exact (pair_infix_seam hx (Or.inl rfl) (Or.inr rfl) h).elim hs ht

theorem hasComment_seam {s t : Text} (h : HasComment (s ++ x :: t)) :
    HasComment s ∨ HasComment t ∨ (Opens s ∧ Closes t) := by
  obtain ⟨u, v, he, hv⟩ := h
  rcases List.append_eq_append_iff.1 he with ⟨y, rfl, hy⟩ | ⟨y, rfl, hy⟩
  · cases y with
    | nil => exact absurd (List.cons.inj hy).1 hx.1
    | cons z y =>
      obtain ⟨rfl, rfl⟩ := List.cons.inj hy
      exact Or.inr (Or.inl ⟨y, v, rfl, hv⟩)
  · rcases y with _ | ⟨a, _ | ⟨b, y⟩⟩
    · exact absurd (List.cons.inj hy).1.symm hx.1
    · exact absurd (List.cons.inj (List.cons.inj hy).2).1.symm hx.2
    · simp only [List.cons_append, List.cons.injEq] at hy
      obtain ⟨rfl, rfl, rfl⟩ := hy
      rcases pair_infix_seam hx (Or.inr rfl) (Or.inl rfl) hv with hv | hv
      · exact Or.inl ⟨u, y, rfl, hv⟩
      · exact Or.inr (Or.inr ⟨⟨u, y, by simp⟩, hv⟩)

end Seam

namespace MarksWithin

variable {s s' t t' u : Text}

theorem refl (t : Text) : MarksWithin t t := ⟨id, id, id⟩

theorem trans (h : MarksWithin s t) (h' : MarksWithin t u) : MarksWithin s u :=
  ⟨h'.opens ∘ h.opens, h'.closes ∘ h.closes, h'.comment ∘ h.comment⟩

theorem of_isInfix (h : s <:+: t) : MarksWithin s t :=
  ⟨fun hs => List.IsInfix.trans hs h, fun hs => List.IsInfix.trans hs h, HasComment.of_isInfix h⟩

/-- Two texts with a character between them have the marks of two texts around any gap. -/
theorem seam {x : Char} (hx : x ≠ '/' ∧ x ≠ '*') (hs : MarksWithin s s') (ht : MarksWithin t t')
    (gap : Text) : MarksWithin (s ++ x :: t) (s' ++ gap ++ t') := by
  have hl : s' <:+: s' ++ gap ++ t' := ⟨[], gap ++ t', by simp⟩
  have hr : t' <:+: s' ++ gap ++ t' := ⟨s' ++ gap, [], by simp⟩
  refine ⟨fun h => ?_, fun h => ?_, fun h => ?_⟩
  · rcases pair_infix_seam hx (Or.inl rfl) (Or.inr rfl) h with h | h
    · exact List.IsInfix.trans (hs.opens h) hl
    · exact List.IsInfix.trans (ht.opens h) hr
  · rcases pair_infix_seam hx (Or.inr rfl) (Or.inl rfl) h with h | h
    · exact List.IsInfix.trans (hs.closes h) hl
    · exact List.IsInfix.trans (ht.closes h) hr
  · rcases hasComment_seam hx h with h | h | ⟨ho, hc⟩
    · exact (hs.comment h).of_isInfix hl
    · exact (ht.comment h).of_isInfix hr
    · rw [List.append_assoc]
      exact hasComment_append (hs.opens ho)
        (List.IsInfix.trans (ht.closes hc) (List.suffix_append gap t').isInfix)

/-- A character that is in no comment mark adds none. -/
theorem cons {x : Char} (hx : x ≠ '/' ∧ x ≠ '*') (h : MarksWithin s t) : MarksWithin (x :: s) t :=
  seam hx (refl []) h []

theorem append_left (h : MarksWithin s t) (gap : Text) : MarksWithin s (gap ++ t) :=
  h.trans (of_isInfix (List.suffix_append gap t).isInfix)

end MarksWithin

end StyleObject.Text
