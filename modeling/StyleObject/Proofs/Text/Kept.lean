import StyleObject.Proofs.Text.Comment
import StyleObject.Text.SingleQuoted

/-!
# What neutral characters leave as it is

The parentheses, the delimiters of a block and the characters of comment marks are the frame of a
text; every other character is neutral. A text keeps another one if both have one frame and if its
comment marks are those of the other text, in the same order. So neutral characters may be taken
from the ends of a text, or be put in place of others within it, and the text keeps what it was.
-/
namespace StyleObject.Text

/-- The characters that are not neutral. -/
def framing : List Char := ['(', ')', '\x7b', '\x7d', ':', ';', '/', '*']

def isNeutral (c : Char) : Bool := !framing.contains c

/-- A text of neutral characters. -/
def Neutral (t : Text) : Prop := ∀ c ∈ t, isNeutral c = true

instance (t : Text) : Decidable (Neutral t) :=
  decidable_of_iff (t.all isNeutral = true) List.all_eq_true

/-- The characters of a text that are not neutral, in order. -/
def frame (t : Text) : Text := t.filter (!isNeutral ·)

/-- The text `s` has the frame of `t`, and its comment marks are some of `t`, in the same order. -/
structure Kept (s t : Text) : Prop where
  frame_eq : frame s = frame t
  marks : MarksWithin s t

variable {s s' t t' u a b gap sep mark : Text} {c : Char}

/-- A class of characters without framing ones is a class of neutral ones. -/
theorem isNeutral_of {p : Char → Bool} (hp : framing.all (!p ·) = true) (hc : p c = true) :
    isNeutral c = true := by
  rw [isNeutral, Bool.not_eq_true', ← Bool.not_eq_true, List.contains_iff_mem]
  intro hm
  have hn := List.all_eq_true.1 hp c hm
  rw [hc] at hn
  cases hn

theorem isNeutral_of_isBlank (h : isBlank c = true) : isNeutral c = true :=
  isNeutral_of (p := isBlank) (by decide) h

theorem ne_slash_and_ne_star (h : isNeutral c = true) : c ≠ '/' ∧ c ≠ '*' := by
  refine ⟨?_, ?_⟩
  · rintro rfl
    cases h
  · rintro rfl
    cases h

theorem neutral_nil : Neutral [] := by simp [Neutral]

theorem neutral_cons : Neutral (c :: t) ↔ isNeutral c = true ∧ Neutral t := List.forall_mem_cons

theorem neutral_append : Neutral (s ++ t) ↔ Neutral s ∧ Neutral t := List.forall_mem_append

theorem neutral_of_blank (h : Blank t) : Neutral t := fun c hc => isNeutral_of_isBlank (h c hc)

@[simp] theorem frame_append (s t : Text) : frame (s ++ t) = frame s ++ frame t :=
  List.filter_append s t

theorem frame_eq_nil_iff : frame t = [] ↔ Neutral t := by
  simp [frame, Neutral, List.filter_eq_nil_iff]

namespace MarksWithin

theorem neutral_append (ha : Neutral a) (h : MarksWithin s t) : MarksWithin (a ++ s) t := by
  induction a with
  | nil => exact h
  | cons x a ih =>
    obtain ⟨hx, ha⟩ := neutral_cons.1 ha
    exact .cons (ne_slash_and_ne_star hx) (ih ha)

theorem of_neutral (ha : Neutral a) (t : Text) : MarksWithin a t := by
  simpa using neutral_append ha (of_isInfix (List.nil_infix : [] <:+: t))

theorem append_neutral (hb : Neutral b) (h : MarksWithin s t) : MarksWithin (s ++ b) t := by
  cases b with
  | nil => rwa [List.append_nil]
  | cons x b =>
    obtain ⟨hx, hb⟩ := neutral_cons.1 hb
    simpa using seam (ne_slash_and_ne_star hx) h (of_neutral hb []) []

end MarksWithin

namespace Kept

theorem refl (t : Text) : Kept t t := ⟨rfl, .refl t⟩

theorem trans (h : Kept s t) (h' : Kept t u) : Kept s u :=
  ⟨h.frame_eq.trans h'.frame_eq, h.marks.trans h'.marks⟩

/-- Neutral texts at the ends are taken away. -/
theorem trim (ha : Neutral a) (hb : Neutral b) (t : Text) : Kept t (a ++ t ++ b) := by
  refine ⟨?_, .of_isInfix ⟨a, b, rfl⟩⟩
  simp [frame_eq_nil_iff.2 ha, frame_eq_nil_iff.2 hb]

/-- Neutral texts are put at the ends. -/
theorem pad (ha : Neutral a) (hb : Neutral b) (t : Text) : Kept (a ++ t ++ b) t := by
  refine ⟨?_, .append_neutral hb (.neutral_append ha (.refl t))⟩
  simp [frame_eq_nil_iff.2 ha, frame_eq_nil_iff.2 hb]

theorem neutral_append (ha : Neutral a) (t : Text) : Kept (a ++ t) t := by
  simpa using pad ha neutral_nil t

theorem of_neutral (hs : Neutral s) (ht : Neutral t) : Kept s t :=
  ⟨(frame_eq_nil_iff.2 hs).trans (frame_eq_nil_iff.2 ht).symm, .of_neutral hs t⟩

theorem neutral_iff (h : Kept s t) : Neutral s ↔ Neutral t := by
  rw [← frame_eq_nil_iff, h.frame_eq, frame_eq_nil_iff]

/-- A neutral separator is put in place of a neutral gap. -/
theorem seam (hn : sep ≠ []) (hs : Neutral sep) (hg : Neutral gap) (h : Kept s s')
    (h' : Kept t t') : Kept (s ++ sep ++ t) (s' ++ gap ++ t') := by
  refine ⟨?_, ?_⟩
  · simp [frame_eq_nil_iff.2 hs, frame_eq_nil_iff.2 hg, h.frame_eq, h'.frame_eq]
  · obtain ⟨x, r, rfl⟩ := List.exists_cons_of_ne_nil hn
    obtain ⟨hx, hr⟩ := neutral_cons.1 hs
    simpa using MarksWithin.seam (ne_slash_and_ne_star hx) h.marks
      (.neutral_append hr h'.marks) gap

/-- One character in front of a text and one behind it, neutral or not, are kept. -/
theorem between {x y : Char} (hx : x ≠ '/' ∧ x ≠ '*') (hy : y ≠ '/' ∧ y ≠ '*') (h : Kept s t) :
    Kept (x :: (s ++ [y])) (x :: (t ++ [y])) := by
  refine ⟨?_, ?_⟩
  · have hf : ∀ u, frame (x :: (u ++ [y])) = frame [x] ++ (frame u ++ frame [y]) := by
      intro u
      rw [← frame_append, ← frame_append]
      rfl
    rw [hf, hf, h.frame_eq]
  · have hm := MarksWithin.cons hx (.seam hy h.marks (.refl []) [y])
    simpa using hm.append_left [x]

end Kept

theorem kept_dropStart (hm : Neutral mark) (t : Text) : Kept (dropStart mark t) t := by
  rw [dropStart]
  cases h : mark.isPrefixOf? t with
  | none => exact .refl t
  | some r =>
    rw [← List.append_eq_of_isPrefixOf?_eq_some h]
    simpa using Kept.trim hm neutral_nil r

theorem kept_dropEnd (hm : Neutral mark) (t : Text) : Kept (dropEnd mark t) t := by
  rw [dropEnd]
  cases h : mark.isSuffixOf? t with
  | none => exact .refl t
  | some r =>
    rw [← List.append_eq_of_isSuffixOf?_eq_some h]
    simpa using Kept.trim neutral_nil hm r

theorem kept_trimEnd (t : Text) : Kept (trimEnd t) t := by
  obtain ⟨b, hb, he⟩ := exists_trimEnd t
  have h := Kept.trim neutral_nil (neutral_of_blank hb) (trimEnd t)
  rwa [List.nil_append, ← he] at h

theorem kept_trim (t : Text) : Kept (trim t) t := by
  obtain ⟨a, b, ha, hb, he⟩ := exists_trim t
  have h := Kept.trim (neutral_of_blank ha) (neutral_of_blank hb) (trim t)
  rwa [← he] at h

/-- Some neutral characters are written as other neutral texts. -/
theorem kept_flatMap {g : Char → Text}
    (hg : ∀ c, g c = [c] ∨ isNeutral c = true ∧ Neutral (g c) ∧ g c ≠ []) (t : Text) :
    Kept (t.flatMap g) t := by
  -- The text in front is what stays as it is since the last change.
  have h : ∀ w, Kept (w ++ t.flatMap g) (w ++ t) := by
    induction t with
    | nil => exact fun w => .refl _
    | cons c r ih =>
      intro w
      rw [List.flatMap_cons]
      rcases hg c with hc | ⟨hc, hn, hne⟩
      · simpa [hc] using ih (w ++ [c])
      · have hs : Kept (w ++ g c ++ r.flatMap g) (w ++ [c] ++ r) :=
          .seam hne hn (neutral_cons.2 ⟨hc, neutral_nil⟩) (.refl w) (ih [])
        simpa using hs
  exact h []

theorem kept_escape (t : Text) : Kept (escape t) t := by
  refine kept_flatMap (fun c => ?_) t
  split
  · next hc =>
    subst hc
    exact Or.inr (by decide)
  · exact Or.inl rfl

theorem kept_singleQuoted (t : Text) : Kept (singleQuoted t) t :=
  (Kept.pad (a := ['\x27']) (b := ['\x27']) (by decide) (by decide) (escape t)).trans
    (kept_escape t)

/-- The elements of a list belong to parts of a text that follow each other, with neutral text
between them. -/
inductive Along {α : Type} (R : α → Text → Prop) : List α → Text → Prop where
  | nil {gap : Text} (hg : Neutral gap) : Along R [] gap
  | cons {gap y t : Text} {x : α} {xs : List α} (hg : Neutral gap) (hx : R x y)
    (h : Along R xs t) : Along R (x :: xs) (gap ++ y ++ t)

namespace Along

section Relation

variable {α β : Type} {R : α → Text → Prop} {S : β → Text → Prop} {x : α} {xs ys : List α}

theorem neutral_append (hg : Neutral gap) (h : Along R xs t) : Along R xs (gap ++ t) := by
  cases h with
  | nil hn => exact nil (Text.neutral_append.2 ⟨hg, hn⟩)
  | @cons gap' y t x xs hn hx h =>
    have hc := cons (Text.neutral_append.2 ⟨hg, hn⟩) hx h
    rwa [List.append_assoc, List.append_assoc, ← List.append_assoc gap'] at hc

theorem singleton (hx : R x t) : Along R [x] t := by
  simpa using cons neutral_nil hx (nil neutral_nil)

theorem append (h : Along R xs s) (h' : Along R ys t) : Along R (xs ++ ys) (s ++ t) := by
  induction h with
  | nil hg => exact h'.neutral_append hg
  | cons hg hx _ ih =>
    rw [List.append_assoc]
    exact cons hg hx ih

theorem map {f : α → β} (hf : ∀ x t, R x t → S (f x) t) (h : Along R xs t) :
    Along S (xs.map f) t := by
  induction h with
  | nil hg => exact nil hg
  | cons hg hx _ ih => exact cons hg (hf _ _ hx) ih

/-- Each element of a list gives elements along its own text. -/
theorem flatMap {f : β → List α} {g : β → Text} (h : ∀ b, Along R (f b) (g b)) (bs : List β) :
    Along R (bs.flatMap f) (bs.flatMap g) := by
  induction bs with
  | nil => exact nil neutral_nil
  | cons b bs ih => exact (h b).append ih

theorem nil_iff : Along R [] t ↔ Neutral t := by
  constructor
  · rintro ⟨h⟩
    exact h
  · exact nil

end Relation

variable {xs : List Text}

theorem neutral_iff (h : Along Kept [s] t) : Neutral s ↔ Neutral t := by
  cases h with
  | cons hg hx h =>
    rw [hx.neutral_iff, Text.neutral_append, Text.neutral_append]
    simp [hg, nil_iff.1 h]

/-- Texts that stand along a text keep it when they are joined by a neutral separator. -/
theorem join (hn : sep ≠ []) (hs : Neutral sep) (h : Along Kept xs t) :
    Kept (sep.intercalate xs) t := by
  induction h with
  | nil hg => exact .of_neutral neutral_nil hg
  | @cons gap y t x xs hg hx h ih =>
    by_cases he : xs = []
    · subst he
      rw [List.intercalate_singleton]
      exact hx.trans (.trim hg (nil_iff.1 h) y)
    · have hk : Kept (x ++ sep ++ sep.intercalate xs) (y ++ [] ++ t) :=
        .seam hn hs neutral_nil hx ih
      rw [List.intercalate_cons_of_ne_nil he, List.append_assoc gap]
      refine hk.trans ?_
      simpa using Kept.trim hg neutral_nil (y ++ t)

/-- The texts of a list stand along the text that they are joined to. -/
theorem intercalate (hs : Neutral sep) (xs : List Text) : Along Kept xs (sep.intercalate xs) := by
  induction xs with
  | nil => exact nil neutral_nil
  | cons x xs ih =>
    by_cases he : xs = []
    · subst he
      rw [List.intercalate_singleton]
      exact singleton (.refl x)
    · rw [List.intercalate_cons_of_ne_nil he, List.append_assoc]
      exact (singleton (.refl x)).append (ih.neutral_append hs)

theorem dropEmptyLast (h : Along Kept xs t) : Along Kept (dropEmptyLast xs) t := by
  induction xs using Text.dropEmptyLast.induct generalizing t with
  | case1 => exact h
  | case2 x he =>
    rw [List.isEmpty_iff] at he
    subst he
    exact nil (h.neutral_iff.1 neutral_nil)
  | case3 x he => simpa [Text.dropEmptyLast, he] using h
  | case4 x y ys ih =>
    cases h with
    | cons hg hx h => exact cons hg hx (ih h)

theorem closeLines (h : Along Kept xs t) : Along Kept (closeLines xs) t := by
  induction xs using Text.closeLines.induct generalizing t with
  | case1 => exact h
  | case2 x he =>
    rw [List.isEmpty_iff] at he
    subst he
    exact nil (h.neutral_iff.1 neutral_nil)
  | case3 x he => simpa [Text.closeLines, he] using h
  | case4 x y ys ih =>
    cases h with
    | cons hg hx h => exact cons hg ((kept_dropEnd (by decide) x).trans hx) (ih h)

end Along

/-- The lines of a text stand along it. -/
theorem along_lines (t : Text) : Along Kept (lines t) t := by
  have h : Along Kept (t.splitOn '\n') (['\n'].intercalate (t.splitOn '\n')) :=
    .intercalate (by decide) _
  rw [List.intercalate_splitOn] at h
  exact h.closeLines

/-- The words of a text stand along it. -/
theorem along_words (t : Text) : Along Kept (words t) t := by
  have hw : ∀ w : Text, (∀ c ∈ w, isSpace c = false) → Along Kept (words w) w := by
    intro w hw
    by_cases hn : w = []
    · rw [hn]
      exact .nil neutral_nil
    · rw [words_of_forall hn hw]
      exact .singleton (.refl w)
  induction t using word_induction with
  | word t ht => exact hw t ht
  | space w c t ht hc ih =>
    have hg : Neutral [c] :=
      neutral_cons.2 ⟨isNeutral_of_isBlank (isBlank_of_isSpace hc), neutral_nil⟩
    rw [words_append_space hc]
    exact (hw w ht).append (ih.neutral_append hg)

theorem kept_squeeze (t : Text) : Kept (squeeze t) t := (along_words t).join (by simp) (by decide)

end StyleObject.Text
