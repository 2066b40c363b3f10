import StyleObject.Proofs.Text.Removal

/-!
# Comments in one pass

One pass from left to right copies a text without its comments and never looks back at what it has
copied. It misses a comment mark that the removal of a comment joins together, and nothing else: up
to such a seam, what is copied opens no comment, so the next comment that the pass comes to is the
first one of the text that is left.
-/
namespace StyleObject.Text

/-- A place where a comment was skipped: the text copied so far, and the text behind the comment. -/
structure Seam where
  copied : Text
  rest : Text
  deriving DecidableEq, Repr

/-- What a pass has copied at its end, and where it has skipped a comment. -/
structure Pass where
  text : Text
  seams : List Seam
  deriving DecidableEq, Repr

/-- A pass that has copied a text goes on over another one. Within a comment, `body` is what has
been read of it; a comment that is open at the end is copied after all. -/
def pass (copied : Text) : Option Text → Text → Pass
  | none, '/' :: '*' :: r => pass copied (some []) r
  | none, c :: r => pass (copied ++ [c]) none r
  | none, [] => ⟨copied, []⟩
  | some _, '*' :: '/' :: r =>
    let p := pass copied none r
    ⟨p.text, ⟨copied, r⟩ :: p.seams⟩
  | some body, c :: r => pass copied (some (body ++ [c])) r
  | some body, [] => ⟨copied ++ '/' :: '*' :: body, []⟩

/-- The pass over a text. -/
def onePass (t : Text) : Pass := pass [] none t

/-- A mark of two characters stands across the seam of two texts. -/
def Straddles (x y : Char) (s t : Text) : Prop := s.getLast? = some x ∧ t.head? = some y

instance (x y : Char) (s t : Text) : Decidable (Straddles x y s t) :=
  inferInstanceAs (Decidable (_ ∧ _))

/-- A mark of two characters stands neither in the first text nor across its seam to the second. -/
structure Apart (x y : Char) (s t : Text) : Prop where
  notInfix : ¬ [x, y] <:+: s
  notStraddles : ¬ Straddles x y s t

section Apart

variable {x y c : Char} {s r : Text}

theorem apart_nil (x y : Char) (t : Text) : Apart x y [] t := ⟨by simp, by simp [Straddles]⟩

/-- A character may pass from the second text to the first if it starts no mark there. -/
theorem Apart.concat (h : Apart x y s (c :: r)) (hc : ∀ r', c = x → r = y :: r' → False) :
    Apart x y (s ++ [c]) r := by
  constructor
  · intro hi
    rcases pair_infix_append hi with hi | hi | hi
    · exact h.notInfix hi
    · exact absurd hi.length_le (by simp)
    · exact h.notStraddles hi
  · rintro ⟨hx, hy⟩
    obtain ⟨r', rfl⟩ := List.head?_eq_some_iff.1 hy
    exact hc r' (by simpa using hx) rfl

end Apart

/-- Behind a text that opens no comment, one that is not closed is no comment. -/
theorem dropComments_unclosed {a c : Text} (ha : ¬ Opens a) (hc : ¬ Closes c) :
    dropComments (a ++ '/' :: '*' :: c) = a ++ '/' :: '*' :: c := by
  apply dropComments_of_none
  have hk : cutAt? ['*', '/'] c = none := (cutAt?_eq_none_iff (by simp)).2 hc
  simp [aroundComment?, cutAt?_pair (by decide) ha c, hk]

/-- All that a pass has read of a text, without the comments that it has skipped. -/
def Pass.held (copied : Text) : Option Text → Text
  | none => copied
  | some body => copied ++ '/' :: '*' :: body

/-- What is copied opens no comment, and what is read of a comment does not close it. -/
def Pass.Sound (copied : Text) (body : Option Text) (t : Text) : Prop :=
  match body with
  | none => Apart '/' '*' copied t
  | some body => ¬ Opens copied ∧ Apart '*' '/' body t

/-- Where no seam joins a mark, a pass goes on to the text without comments. -/
theorem pass_text {copied t : Text} {body : Option Text} (h : Pass.Sound copied body t)
    (hs : ∀ s ∈ (pass copied body t).seams, ¬ Straddles '/' '*' s.copied s.rest) :
    (pass copied body t).text = dropComments (Pass.held copied body ++ t) := by
  fun_induction pass copied body t with
  | case1 copied r ih =>
    have ho : Pass.Sound copied (some []) r := ⟨h.notInfix, apart_nil '*' '/' r⟩
    simpa [Pass.held] using ih ho hs
  | case2 copied c r hc ih =>
    have hn : Pass.Sound (copied ++ [c]) none r := Apart.concat h hc
    simpa [Pass.held] using ih hn hs
  | case3 copied =>
    have hn : ¬ HasComment copied := fun hm => h.notInfix hm.opens
    simp [Pass.held, dropComments_of_not_hasComment hn]
  | case4 copied body r p ih =>
    -- The comment is the first one of the text that is held, so its removal is the next one.
    obtain ⟨hj, hr⟩ := List.forall_mem_cons.1 hs
    have ha := aroundComment?_comment h.1 h.2.notInfix r
    calc p.text = dropComments (copied ++ r) := ih ⟨h.1, hj⟩ hr
      _ = dropComments (copied ++ comment body ++ r) := (dropComments_of_some ha).symm
      _ = dropComments (Pass.held copied (some body) ++ '*' :: '/' :: r) := by
        simp [Pass.held, comment]
  | case5 copied body c r hc ih =>
    have hb : Pass.Sound copied (some (body ++ [c])) r := ⟨h.1, h.2.concat hc⟩
    simpa [Pass.held] using ih hb hs
  | case6 copied body =>
    simp [Pass.held, dropComments_unclosed h.1 h.2.notInfix]

/-- One pass removes all comments of a text if it never skips one between a slash at the end of what
it has copied and a star. -/
theorem dropComments_eq_onePass {t : Text}
    (h : ∀ s ∈ (onePass t).seams, ¬ Straddles '/' '*' s.copied s.rest) :
    dropComments t = (onePass t).text := by
  have hn : Pass.Sound [] none t := apart_nil '/' '*' t
  exact (pass_text hn h).symm

/-- Seams between a star and a slash, comments side by side, a comment that opens another one, and
one that is never closed. -/
theorem dropComments_eq_onePass_seams :
    (∀ s ∈ (onePass "a*/**//b/*/ /*x*//***/*/ c /*/d".toList).seams,
      ¬ Straddles '/' '*' s.copied s.rest) ∧
    (onePass "a*/**//b/*/ /*x*//***/*/ c /*/d".toList).seams.length = 3 ∧
    dropComments "a*/**//b/*/ /*x*//***/*/ c /*/d".toList = "a*/b*/ c /*/d".toList := by
  have h : ∀ s ∈ (onePass "a*/**//b/*/ /*x*//***/*/ c /*/d".toList).seams,
      ¬ Straddles '/' '*' s.copied s.rest := by decide
  exact ⟨h, by decide, (dropComments_eq_onePass h).trans (by decide)⟩

/-- Where a seam joins a mark, the removal takes a comment that the pass does not see. -/
example : (onePass "//**/*x*/".toList).text = "/*x*/".toList ∧
    dropComments "//**/*x*/".toList = [] := by
  have h₁ : aroundComment? "//**/*x*/".toList = some (['/'], "*x*/".toList) := by decide
  have h₂ : aroundComment? "/*x*/".toList = some ([], []) := by decide
  refine ⟨by decide, (dropComments_of_some h₁).trans ((dropComments_of_some h₂).trans ?_)⟩
  exact dropComments_of_none rfl

end StyleObject.Text
