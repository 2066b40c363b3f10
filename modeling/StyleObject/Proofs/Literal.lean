import Mathlib.Data.List.Induction
import StyleObject.Key
import StyleObject.Literal
import StyleObject.Proofs.Numeral

/-!
# Where literals end

Whoever reads a literal lets a backslash take the character behind it, and ends the literal at the
first single quote that is not taken. Writing puts a backslash before each single quote of the
content and leaves the backslashes of the content as they are, so one of these may take the
backslash that was put there, or the closing quote. The literal ends where it should exactly if
neither happens.
-/
namespace StyleObject

namespace Text

variable {c : Char} {t : Text}

/-- The text behind the first single quote that no backslash takes. -/
def afterQuote? : Text → Option Text
  | [] => none
  | '\x27' :: r => some r
  | '\\' :: _ :: r => afterQuote? r
  | _ :: r => afterQuote? r

/-- A literal that starts with a single quote and ends with its last character. -/
def IsClosed (t : Text) : Prop := ∃ body, t = '\x27' :: body ∧ afterQuote? body = some []

/-- Each backslash, from the first on, takes a character that is no single quote. -/
inductive Paired : Text → Prop where
  | nil : Paired []
  | char {c : Char} {t : Text} (hc : c ≠ '\\') (h : Paired t) : Paired (c :: t)
  | taken {c : Char} {t : Text} (hc : c ≠ '\x27') (h : Paired t) : Paired ('\\' :: c :: t)

theorem paired_cons (hc : c ≠ '\\') : Paired (c :: t) ↔ Paired t := by
  constructor
  · intro h
    cases h with
    | char _ h => exact h
    | taken _ _ => exact absurd rfl hc
  · exact .char hc

theorem paired_backslash_cons : Paired ('\\' :: c :: t) ↔ c ≠ '\x27' ∧ Paired t := by
  constructor
  · intro h
    cases h with
    | char hb _ => exact absurd rfl hb
    | taken hc h => exact ⟨hc, h⟩
  · intro h
    exact .taken h.1 h.2

theorem not_paired_backslash : ¬ Paired ['\\'] := by
  intro h
  cases h with
  | char hb _ => exact hb rfl

/-- A quote of the content is taken by the backslash put before it. -/
theorem afterQuote?_escape_cons (hc : c ≠ '\\') (t u : Text) :
    afterQuote? (escape (c :: t) ++ u) = afterQuote? (escape t ++ u) := by
  rw [escape_cons]
  by_cases hq : c = '\x27'
  · rw [if_pos hq]
    rfl
  · rw [if_neg hq]
    simp [afterQuote?, hc]

/-- A backslash of the content takes the character behind it. -/
theorem afterQuote?_escape_backslash (hc : c ≠ '\x27') (t u : Text) :
    afterQuote? (escape ('\\' :: c :: t) ++ u) = afterQuote? (escape t ++ u) := by
  rw [escape_cons, escape_cons, if_neg (by decide), if_neg hc]
  rfl

/-- Before a quote of the content it takes the backslash that was put there, and the quote ends the
literal. -/
theorem afterQuote?_escape_backslash_quote (t u : Text) :
    afterQuote? (escape ('\\' :: '\x27' :: t) ++ u) = some (escape t ++ u) := rfl

/-- The closing quote ends the literal exactly if the content is paired. -/
theorem afterQuote?_escape_eq_some_nil (t : Text) :
    afterQuote? (escape t ++ ['\x27']) = some [] ↔ Paired t := by
  induction t using List.twoStepInduction with
  | nil => simpa [afterQuote?] using Paired.nil
  | singleton c =>
    by_cases hc : c = '\\'
    · subst hc
      simpa [afterQuote?] using not_paired_backslash
    · rw [afterQuote?_escape_cons hc, paired_cons hc]
      simpa [afterQuote?] using Paired.nil
  | cons_cons c d r ih ih' =>
    by_cases hc : c = '\\'
    · subst hc
      rw [paired_backslash_cons]
      by_cases hd : d = '\x27'
      · subst hd
        rw [afterQuote?_escape_backslash_quote]
        simp
      · rw [afterQuote?_escape_backslash hd, ih]
        simp [hd]
    · rw [afterQuote?_escape_cons hc, paired_cons hc]
      exact ih' d

theorem isClosed_singleQuoted : IsClosed (singleQuoted t) ↔ Paired t := by
  rw [← afterQuote?_escape_eq_some_nil]
  constructor
  · rintro ⟨body, hb, ha⟩
    rwa [(List.cons.inj hb).2]
  · intro h
    exact ⟨_, rfl, h⟩

end Text

open Text

/-- A token becomes a numeral or a literal of its content, and a property without an identifier
becomes a literal of its name. Such a literal starts with a quote, and it ends with its last
character exactly if each backslash of the content takes a character that is no quote. -/
theorem Literal.closed_iff_paired (token name : Text) :
    (IsNumeral (ofToken token).text ∨
      (ofToken token).text.head? = some '\x27' ∧
        (IsClosed (ofToken token).text ↔ Paired (unquote (dropPixels token)))) ∧
    (Key.isIdentifier (Key.ofName name) = true ∨
      (Key.ofName name).head? = some '\x27' ∧ (IsClosed (Key.ofName name) ↔ Paired name)) := by
  constructor
  · unfold ofToken
    dsimp only
    split
    · next ha => exact Or.inl (Numeral.accepts_iff.1 ha)
    · exact Or.inr ⟨rfl, isClosed_singleQuoted⟩
  · unfold Key.ofName
    split
    · exact Or.inr ⟨rfl, isClosed_singleQuoted⟩
    · split
      · next hi => exact Or.inl hi
      · exact Or.inr ⟨rfl, isClosed_singleQuoted⟩

/-- The string `'it\'s'` of a style sheet becomes a literal that ends before its last two
characters, and the literal of a backslash does not end. -/
theorem Literal.not_closed :
    (∃ body, (ofToken "'it\\'s'".toList).text = '\x27' :: body ∧
      afterQuote? body = some "s'".toList) ∧
    ∃ body, (ofToken "\\".toList).text = '\x27' :: body ∧ afterQuote? body = none := by
  exact ⟨⟨"it\\\\'s'".toList, by decide, by decide⟩, ⟨"\\'".toList, by decide, by decide⟩⟩

end StyleObject
