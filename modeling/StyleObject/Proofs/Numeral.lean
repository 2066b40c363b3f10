import Mathlib.Data.List.TakeWhile
import StyleObject.Numeral

/-!
# The grammar of numerals

The texts that are accepted as numerals are exactly those of the grammar `[+-]?digits(.digits)?`.
-/
namespace StyleObject

/-- One or more digits. -/
structure IsDigits (t : Text) : Prop where
  ne_nil : t ≠ []
  digit : ∀ c ∈ t, c.isDigit = true

/-- Digits, and optionally a point with more digits. -/
inductive IsUnsigned : Text → Prop where
  | whole {t : Text} (h : IsDigits t) : IsUnsigned t
  | fraction {t f : Text} (h : IsDigits t) (hf : IsDigits f) : IsUnsigned (t ++ '.' :: f)

/-- A numeral with or without a sign. -/
inductive IsNumeral : Text → Prop where
  | unsigned {t : Text} (h : IsUnsigned t) : IsNumeral t
  | plus {t : Text} (h : IsUnsigned t) : IsNumeral ('+' :: t)
  | minus {t : Text} (h : IsUnsigned t) : IsNumeral ('-' :: t)

namespace Numeral

variable {t : Text}

theorem isDigits_iff : isDigits t = true ↔ IsDigits t := by
  rw [isDigits, Bool.and_eq_true, List.all_eq_true]
  exact ⟨fun ⟨h, hd⟩ => ⟨by simpa using h, hd⟩, fun h => ⟨by simpa using h.ne_nil, h.digit⟩⟩

theorem takeWhile_digits (h : IsDigits t) : t.takeWhile Char.isDigit = t :=
  List.takeWhile_eq_self_iff.2 h.digit

theorem isUnsigned_iff : isUnsigned t = true ↔ IsUnsigned t := by
  constructor
  · intro h
    rw [isUnsigned, Bool.and_eq_true, isDigits_iff] at h
    obtain ⟨hw, hf⟩ := h
    have ht := List.takeWhile_append_dropWhile (p := Char.isDigit) (l := t)
    split at hf
    · next hd =>
      rw [hd, List.append_nil] at ht
      exact .whole (ht ▸ hw)
    · next f hd =>
      rw [hd] at ht
      exact ht ▸ .fraction hw (isDigits_iff.1 hf)
    · cases hf
  · intro h
    cases h with
    | whole h =>
      have hd : t.dropWhile Char.isDigit = [] := List.dropWhile_eq_nil_iff.2 h.digit
      rw [isUnsigned, takeWhile_digits h, hd, isDigits_iff.2 h]
      rfl
    | @fraction w f h hf =>
      have hp : ¬ Char.isDigit '.' = true := by decide
      rw [isUnsigned, List.takeWhile_append_of_pos h.digit, List.dropWhile_append_of_pos h.digit,
        List.takeWhile_cons_of_neg hp, List.dropWhile_cons_of_neg hp, List.append_nil,
        isDigits_iff.2 h]
      exact isDigits_iff.2 hf

/-- An unsigned numeral starts with a digit, so it has no sign to drop. -/
theorem dropSign_of_isUnsigned (h : IsUnsigned t) : dropSign t = t := by
  have hd : ∃ c r, t = c :: r ∧ c.isDigit = true := by
    cases h with
    | whole h =>
      obtain ⟨c, r, rfl⟩ := List.exists_cons_of_ne_nil h.ne_nil
      exact ⟨c, r, rfl, h.digit c List.mem_cons_self⟩
    | fraction h hf =>
      obtain ⟨c, r, rfl⟩ := List.exists_cons_of_ne_nil h.ne_nil
      exact ⟨c, r ++ '.' :: _, rfl, h.digit c List.mem_cons_self⟩
  obtain ⟨c, r, rfl, hc⟩ := hd
  unfold dropSign
  split
  · next he =>
    obtain ⟨rfl, -⟩ := List.cons.inj he
    exact absurd hc (by decide)
  · next he =>
    obtain ⟨rfl, -⟩ := List.cons.inj he
    exact absurd hc (by decide)
  · rfl

/-- The accepted texts are the numerals. -/
theorem accepts_iff : accepts t = true ↔ IsNumeral t := by
  rw [accepts, isUnsigned_iff]
  constructor
  · intro h
    unfold dropSign at h
    split at h
    · exact .plus h
    · exact .minus h
    · exact .unsigned h
  · intro h
    cases h with
    | unsigned h => rwa [dropSign_of_isUnsigned h]
    | plus h => exact h
    | minus h => exact h

/-- The characters of a numeral. -/
theorem mem_of_isNumeral (h : IsNumeral t) :
    ∀ c ∈ t, c.isDigit = true ∨ c = '+' ∨ c = '-' ∨ c = '.' := by
  have hu : ∀ t, IsUnsigned t → ∀ c ∈ t, c.isDigit = true ∨ c = '.' := by
    intro t h c hc
    cases h with
    | whole h => exact Or.inl (h.digit c hc)
    | fraction h hf =>
      rcases List.mem_append.1 hc with hc | hc
      · exact Or.inl (h.digit c hc)
      · exact (List.mem_cons.1 hc).symm.imp_left (hf.digit c)
  intro c hc
  cases h with
  | unsigned h => exact (hu _ h c hc).imp_right fun h => Or.inr (Or.inr h)
  | plus h =>
    rcases List.mem_cons.1 hc with rfl | hc
    · exact Or.inr (Or.inl rfl)
    · exact (hu _ h c hc).imp_right fun h => Or.inr (Or.inr h)
  | minus h =>
    rcases List.mem_cons.1 hc with rfl | hc
    · exact Or.inr (Or.inr (Or.inl rfl))
    · exact (hu _ h c hc).imp_right fun h => Or.inr (Or.inr h)

end Numeral

end StyleObject
