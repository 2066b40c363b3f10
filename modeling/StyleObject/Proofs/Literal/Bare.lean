import StyleObject.Proofs.Literal.Content
import StyleObject.Proofs.Numeral.Combinators

/-!
# Bare literals

A literal stands bare exactly if the content of its token is a numeral. It makes no difference
whether the content or its escaped form is looked at: the two are one text unless there is a quote,
and then neither is a numeral.
-/
namespace StyleObject.Literal

open Text

variable {k : Numeral.Combinators} {t : Text}

/-- A text between single quotes. -/
def Quoted (t : Text) : Prop := ∃ body, t = '\x27' :: (body ++ ['\x27'])

/-- How a token is written by a writer that escapes first, and then looks for a numeral. -/
def escapeFirst (k : Numeral.Combinators) (token : Text) : Text :=
  let escaped := escape (unquote (dropPixels token))
  if k.accepts escaped then escaped else '\x27' :: (escaped ++ ['\x27'])

theorem escape_of_isNumeral (h : IsNumeral t) : escape t = t :=
  escape_of_not_mem fun hq => not_isNumeral_of_quote (Or.inl rfl) hq h

theorem isNumeral_escape_iff : IsNumeral (escape t) ↔ IsNumeral t := by
  constructor
  · intro h
    have hq : '\x27' ∉ t := by
      intro hm
      have he : '\x27' ∈ escape t := List.mem_flatMap.2 ⟨'\x27', hm, by simp⟩
      exact not_isNumeral_of_quote (Or.inl rfl) he h
    rwa [escape_of_not_mem hq] at h
  · intro h
    rwa [escape_of_isNumeral h]

/-- Escaping first makes no difference. -/
theorem escapeFirst_eq (h : k.Lawful) (token : Text) : escapeFirst k token = (ofToken token).text := by
  rw [text_ofToken, escapeFirst]
  by_cases hn : IsNumeral (unquote (dropPixels token))
  · have ha : k.accepts (escape (unquote (dropPixels token))) = true := by
      rw [h.accepts_eq, Numeral.accepts_iff, isNumeral_escape_iff]
      exact hn
    rw [if_pos ha, escape_of_isNumeral hn, written_of_isNumeral hn]
  · have ha : ¬ k.accepts (escape (unquote (dropPixels token))) = true := by
      rw [h.accepts_eq, Numeral.accepts_iff, isNumeral_escape_iff]
      exact hn
    rw [if_neg ha, written_of_not_isNumeral hn]
    rfl

theorem not_quoted_text_iff (token : Text) :
    ¬ Quoted (ofToken token).text ↔ IsNumeral (unquote (dropPixels token)) := by
  rw [text_ofToken]
  constructor
  · intro h
    by_contra hn
    exact h ⟨_, written_of_not_isNumeral hn⟩
  · rintro h ⟨body, hb⟩
    rw [written_of_isNumeral h] at hb
    exact not_isNumeral_of_quote (Or.inl rfl) (hb ▸ List.mem_cons_self) h

/-- The parser for numerals accepts exactly the texts of their grammar, and they are accepted when
literals are written. A token is written bare exactly if its content is in the grammar, and then as
this content, although a writer may escape it first. -/
theorem bare_iff_numeral (h : k.Lawful) :
    (∀ t, k.accepts t = true ↔ IsNumeral t) ∧ (∀ t, Numeral.accepts t = k.accepts t) ∧
    ∀ token, escapeFirst k token = (ofToken token).text ∧
      (¬ Quoted (ofToken token).text ↔ IsNumeral (unquote (dropPixels token))) ∧
      (¬ Quoted (ofToken token).text → (ofToken token).text = unquote (dropPixels token)) := by
  refine ⟨fun t => ?_, fun t => (h.accepts_eq t).symm, fun token => ?_⟩
  · rw [h.accepts_eq, Numeral.accepts_iff]
  · refine ⟨escapeFirst_eq h token, not_quoted_text_iff token, fun hq => ?_⟩
    rw [text_ofToken, written_of_isNumeral ((not_quoted_text_iff token).1 hq)]

/-- The parser comes back from a point with no digits behind it, and a number in quotes is bare. -/
theorem bare_iff_numeral_fraction :
    Numeral.Combinators.plain.Lawful ∧
    ¬ Numeral.Combinators.plain.accepts "1.".toList = true ∧
    ¬ Quoted (ofToken "\"-10.5\"px".toList).text ∧
    (ofToken "\"-10.5\"px".toList).text = "-10.5".toList := by
  have h := bare_iff_numeral Numeral.Combinators.lawful_plain
  have hp : ¬ IsNumeral "1.".toList := by decide
  have hn : IsNumeral (unquote (dropPixels "\"-10.5\"px".toList)) := by decide
  obtain ⟨-, hq, ht⟩ := h.2.2 "\"-10.5\"px".toList
  exact ⟨Numeral.Combinators.lawful_plain, fun ha => hp ((h.1 _).1 ha), hq.2 hn, ht (hq.2 hn)⟩

end StyleObject.Literal
