import StyleObject.Proofs.Text.Join
import Mathlib.Data.List.TakeWhile
import StyleObject.Proofs.Text.Trim

/-!
# Squeezed texts

Squeezing leaves a text whose only spaces are single inner ones, and it leaves such a text as it is.
These texts are closed under joining, with or without a space between them, and under trimming any
part of them.
-/
namespace StyleObject.Text

/-- A text whose spaces are all U+0020, one at a time and never at an end. -/
structure Tight (t : Text) : Prop where
  plain : ∀ c ∈ t, isSpace c = true → c = ' '
  single : ¬ [' ', ' '] <:+: t
  first : t.head? ≠ some ' '
  last : t.getLast? ≠ some ' '

theorem tight_nil : Tight [] := by constructor <;> simp

theorem tight_of_forall {t : Text} (h : ∀ c ∈ t, isSpace c = false) : Tight t := by
  have hs : isSpace ' ' = true := by decide
  have hn : ' ' ∉ t := fun hm => by simpa using (h ' ' hm).symm.trans hs
  refine ⟨fun c hc hs => ?_, fun hi => hn (hi.subset List.mem_cons_self), ?_, ?_⟩
  · rw [h c hc] at hs
    cases hs
  · exact fun hh => hn (List.mem_of_head? hh)
  · exact fun hh => hn (List.mem_of_getLast? hh)

theorem tight_singleton {c : Char} (h : isSpace c = false) : Tight [c] :=
  tight_of_forall (List.forall_mem_singleton.2 h)

/-- A pair of characters stands in a joined text on one side or across the seam. -/
theorem pair_infix_append {c d : Char} {s t : Text} (h : [c, d] <:+: s ++ t) :
    [c, d] <:+: s ∨ [c, d] <:+: t ∨ (s.getLast? = some c ∧ t.head? = some d) := by
  obtain ⟨a, b, h⟩ := h
  rw [List.append_assoc] at h
  rcases List.append_eq_append_iff.1 h with ⟨x, rfl, hx⟩ | ⟨x, rfl, rfl⟩
  · rcases x with _ | ⟨e, _ | ⟨f, x⟩⟩
    · exact Or.inr (Or.inl ⟨[], b, hx⟩)
    · simp only [List.cons_append, List.nil_append, List.cons.injEq] at hx
      obtain ⟨rfl, rfl⟩ := hx
      exact Or.inr (Or.inr (by simp))
    · simp only [List.cons_append, List.nil_append, List.cons.injEq] at hx
      obtain ⟨rfl, rfl, -⟩ := hx
      exact Or.inl ⟨a, x, by simp⟩
  · exact Or.inr (Or.inl ⟨x, b, by simp⟩)

namespace Tight

variable {s t : Text}

theorem append (hs : Tight s) (ht : Tight t) : Tight (s ++ t) := by
  refine ⟨fun c hc => ?_, fun h => ?_, ?_, ?_⟩
  · exact (List.mem_append.1 hc).elim (hs.plain c) (ht.plain c)
  · rcases pair_infix_append h with h | h | ⟨h, -⟩
    · exact hs.single h
    · exact ht.single h
    · exact hs.last h
  · cases s with
    | nil => exact ht.first
    | cons c r => exact hs.first
  · rw [List.getLast?_append]
    cases h : t.getLast? with
    | none => simpa using hs.last
    | some c => simpa [h] using ht.last

/-- Two texts with a space between them. -/
theorem space (hs : Tight s) (ht : Tight t) (hsn : s ≠ []) (htn : t ≠ []) :
    Tight (s ++ ' ' :: t) := by
  refine ⟨fun c hc h => ?_, fun h => ?_, ?_, ?_⟩
  · rcases List.mem_append.1 hc with hc | hc
    · exact hs.plain c hc h
    · rcases List.mem_cons.1 hc with rfl | hc
      · rfl
      · exact ht.plain c hc h
  · rcases pair_infix_append h with h | h | ⟨h, -⟩
    · exact hs.single h
    · rcases List.infix_cons_iff.1 h with hp | hi
      · cases t with
        | nil => contradiction
        | cons c r =>
          obtain ⟨rfl, -⟩ := List.cons_prefix_cons.1 (List.cons_prefix_cons.1 hp).2
          exact ht.first rfl
      · exact ht.single hi
    · exact hs.last h
  · cases s with
    | nil => contradiction
    | cons c r => exact hs.first
  · cases h : t.getLast? with
    | none => exact absurd (List.getLast?_eq_none_iff.1 h) htn
    | some c =>
      rw [List.getLast?_append, List.getLast?_cons, h]
      simpa [h] using ht.last

theorem notMem_lineFeed (h : Tight t) : '\n' ∉ t := fun hm =>
  absurd (h.plain '\n' hm (by decide)) (by decide)

theorem trim_of_isInfix (ht : Tight t) (h : s <:+: t) : Tight (Text.trim s) := by
  have hi : Text.trim s <:+: t := (trim_isInfix s).trans h
  have hb : isBlank ' ' = true := by decide
  refine ⟨fun c hc => ht.plain c (hi.subset hc), fun hp => ht.single (hp.trans hi), ?_, ?_⟩
  · intro hf
    simpa [hb] using (trimmed_trim s).first ' ' hf
  · intro hl
    simpa [hb] using (trimmed_trim s).last ' ' hl

end Tight

theorem words_nil : words [] = [] := rfl

theorem words_append_space {c : Char} (hc : isSpace c = true) (s t : Text) :
    words (s ++ c :: t) = words s ++ words t := by
  unfold words
  rw [List.splitOnP_append_cons s t hc, List.filter_append]

theorem words_space_cons {c : Char} (hc : isSpace c = true) (t : Text) :
    words (c :: t) = words t := words_append_space hc [] t

theorem words_of_forall {t : Text} (hn : t ≠ []) (h : ∀ c ∈ t, isSpace c = false) :
    words t = [t] := by
  rw [words, List.splitOnP_eq_singleton h]
  simp [hn]

/-- Every text is one word, or a word, a space and another text. -/
theorem word_induction {P : Text → Prop} (word : ∀ t, (∀ c ∈ t, isSpace c = false) → P t)
    (space : ∀ w c t, (∀ x ∈ w, isSpace x = false) → isSpace c = true → P t → P (w ++ c :: t))
    (t : Text) : P t := by
  have ht : t.takeWhile (!isSpace ·) ++ t.dropWhile (!isSpace ·) = t :=
    List.takeWhile_append_dropWhile
  have hw : ∀ x ∈ t.takeWhile (!isSpace ·), isSpace x = false := by
    intro x hx
    simpa using List.mem_takeWhile_imp hx
  rw [← ht]
  cases hd : t.dropWhile (!isSpace ·) with
  | nil =>
    rw [List.append_nil]
    exact word _ hw
  | cons c r =>
    have hc : isSpace c = true := by
      simpa [hd] using List.head?_dropWhile_not (!isSpace ·) t
    exact space _ c r hw hc (word_induction word space r)
termination_by t.length
decreasing_by
  have hl := congrArg List.length ht
  rw [hd, List.length_append, List.length_cons] at hl
  omega

theorem mem_words {w t : Text} (h : w ∈ words t) :
    w ≠ [] ∧ ∀ c ∈ w, c ∈ t ∧ isSpace c = false := by
  induction t using word_induction with
  | word t ht =>
    by_cases hn : t = []
    · simp [hn, words_nil] at h
    · rw [words_of_forall hn ht, List.mem_singleton] at h
      subst h
      exact ⟨hn, fun c hc => ⟨hc, ht c hc⟩⟩
  | space v c t hv hc ih =>
    rw [words_append_space hc, List.mem_append] at h
    rcases h with h | h
    · by_cases hn : v = []
      · simp [hn, words_nil] at h
      · rw [words_of_forall hn hv, List.mem_singleton] at h
        subst h
        exact ⟨hn, fun x hx => ⟨List.mem_append_left _ hx, hv x hx⟩⟩
    · obtain ⟨hn, hw⟩ := ih h
      exact ⟨hn, fun x hx => ⟨by simp [(hw x hx).1], (hw x hx).2⟩⟩

theorem tight_intercalate {ws : List Text} (h : ∀ w ∈ ws, w ≠ [] ∧ Tight w) :
    Tight ([' '].intercalate ws) := by
  induction ws with
  | nil => exact tight_nil
  | cons w vs ih =>
    obtain ⟨hn, hw⟩ := h w List.mem_cons_self
    have hv : ∀ v ∈ vs, v ≠ [] ∧ Tight v := fun v hv => h v (List.mem_cons_of_mem _ hv)
    by_cases he : vs = []
    · simpa [he] using hw
    · rw [List.intercalate_cons_of_ne_nil he, List.append_assoc]
      exact hw.space (ih hv) hn (intercalate_ne_nil he fun v h => (hv v h).1)

theorem tight_squeeze (t : Text) : Tight (squeeze t) :=
  tight_intercalate fun _ hw =>
    ⟨(mem_words hw).1, tight_of_forall fun c hc => ((mem_words hw).2 c hc).2⟩

theorem squeeze_space_append {c : Char} (hc : isSpace c = true) (t : Text) :
    squeeze (c :: t) = squeeze t := by
  rw [squeeze, words_space_cons hc, squeeze]

/-- A word keeps one space from the words behind it. -/
theorem squeeze_word_append {w t : Text} {c : Char} (hn : w ≠ [])
    (hw : ∀ x ∈ w, isSpace x = false) (hc : isSpace c = true) (ht : words t ≠ []) :
    squeeze (w ++ c :: t) = w ++ ' ' :: squeeze t := by
  rw [squeeze, words_append_space hc, words_of_forall hn hw, List.singleton_append,
    List.intercalate_cons_of_ne_nil ht, List.append_assoc]
  rfl

/-- Squeezing leaves a tight text as it is. -/
theorem squeeze_of_tight {t : Text} (h : Tight t) : squeeze t = t := by
  induction t using word_induction with
  | word t ht =>
    by_cases hn : t = []
    · rw [hn]
      rfl
    · rw [squeeze, words_of_forall hn ht, List.intercalate_singleton]
  | space w c r hw hc ih =>
    obtain rfl := h.plain c (by simp) hc
    have hwn : w ≠ [] := by
      rintro rfl
      exact h.first rfl
    have hrn : r ≠ [] := by
      rintro rfl
      exact h.last (by simp)
    have hr : Tight r := by
      refine ⟨fun x hx => h.plain x (by simp [hx]), fun hi => ?_, fun hf => ?_, fun hl => ?_⟩
      · exact h.single (hi.trans ⟨w ++ [' '], [], by simp⟩)
      · obtain ⟨r', rfl⟩ := List.head?_eq_some_iff.1 hf
        exact h.single ⟨w, r', by simp⟩
      · apply h.last
        rw [List.getLast?_append, List.getLast?_cons, hl]
        rfl
    have hv : words r ≠ [] := by
      intro hv
      have hs := ih hr
      rw [squeeze, hv] at hs
      exact hrn hs.symm
    rw [squeeze_word_append hwn hw hc hv, ih hr]

/-- Spaces at the end of a text are no words. -/
theorem squeeze_append_spaces {b : Text} (t : Text) (hb : ∀ c ∈ b, isSpace c = true) :
    squeeze (t ++ b) = squeeze t := by
  induction b generalizing t with
  | nil => rw [List.append_nil]
  | cons c r ih =>
    obtain ⟨hc, hr⟩ := List.forall_mem_cons.1 hb
    have h₀ : squeeze (t ++ [c]) = squeeze t := by
      rw [squeeze, words_append_space hc, words_nil, List.append_nil, squeeze]
    rw [← h₀, ← ih (t ++ [c]) hr, List.append_assoc, List.singleton_append]

/-- A word that is put behind a text is the end of the squeezed text, with or without a space before
it. -/
theorem exists_squeeze_append_word {w : Text} (hn : w ≠ []) (hw : ∀ c ∈ w, isSpace c = false)
    (t : Text) : ∃ b, Blank b ∧ squeeze (t ++ w) = squeeze t ++ b ++ w := by
  induction t using word_induction with
  | word t ht =>
    have htw : squeeze (t ++ w) = t ++ w :=
      squeeze_of_tight (tight_of_forall (List.forall_mem_append.2 ⟨ht, hw⟩))
    refine ⟨[], blank_nil, ?_⟩
    rw [htw, squeeze_of_tight (tight_of_forall ht), List.append_nil]
  | space v c r hv hc ih =>
    obtain ⟨b, hb, he⟩ := ih
    rw [List.append_assoc, List.cons_append]
    by_cases hvn : v = []
    · subst hvn
      exact ⟨b, hb, by rw [List.nil_append, squeeze_space_append hc, he, List.nil_append,
        squeeze_space_append hc]⟩
    · have hwn : words (r ++ w) ≠ [] := by
        intro h
        rw [squeeze, h] at he
        exact hn (List.append_eq_nil_iff.1 he.symm).2
      rw [squeeze_word_append hvn hv hc hwn, he]
      by_cases hrn : words r = []
      · -- The word `v` was the last one, so it gets the space behind it only now.
        have hr : squeeze r = [] := by rw [squeeze, hrn]; rfl
        have hs : squeeze (v ++ c :: r) = v := by
          rw [squeeze, words_append_space hc, hrn, List.append_nil, words_of_forall hvn hv,
            List.intercalate_singleton]
        refine ⟨' ' :: b, List.forall_mem_cons.2 ⟨by decide, hb⟩, ?_⟩
        simp [hr, hs]
      · exact ⟨b, hb, by simp [squeeze_word_append hvn hv hc hrn]⟩

/-- Squeezing brings nothing into a text but U+0020. -/
theorem mem_squeeze {c : Char} {t : Text} (h : c ∈ squeeze t) :
    c = ' ' ∨ (c ∈ t ∧ isSpace c = false) := by
  rcases mem_intercalate h with h | ⟨w, hw, hc⟩
  · exact Or.inl (List.mem_singleton.1 h)
  · exact Or.inr ((mem_words hw).2 c hc)

end StyleObject.Text
