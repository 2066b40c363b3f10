import Mathlib.Data.List.Basic
import StyleObject.Text.Basic

/-!
# Marks in a text

Taking a mark from an end of a text undoes putting it there, and leaves every other text as it is. A
text that is cut at a mark is what stands before it, the mark, and what stands behind it.
-/
namespace StyleObject.Text

variable {mark t before after : Text} {c : Char}

theorem isPrefixOf?_eq_none_iff : mark.isPrefixOf? t = none ↔ ¬ mark <+: t := by
  rw [← Option.not_isSome_iff_eq_none, List.isSome_isPrefixOf?_eq_isPrefixOf,
    List.isPrefixOf_iff_prefix]

theorem dropStart_append (mark t : Text) : dropStart mark (mark ++ t) = t := by
  rw [dropStart, List.isPrefixOf?_eq_some_iff_append_eq.2 rfl, Option.getD_some]

theorem dropStart_of_not_isPrefix (h : ¬ mark <+: t) : dropStart mark t = t := by
  rw [dropStart, isPrefixOf?_eq_none_iff.2 h, Option.getD_none]

theorem dropEnd_append (mark t : Text) : dropEnd mark (t ++ mark) = t := by
  rw [dropEnd, List.isSuffixOf?_eq_some_iff_append_eq.2 rfl, Option.getD_some]

theorem dropEnd_of_not_isSuffix (h : ¬ mark <:+ t) : dropEnd mark t = t := by
  rw [dropEnd]
  cases hm : mark.isSuffixOf? t with
  | none => rfl
  | some r => exact absurd ⟨r, List.append_eq_of_isSuffixOf?_eq_some hm⟩ h

theorem dropStart_singleton (h : c ∉ t.head?) : dropStart [c] t = t := by
  apply dropStart_of_not_isPrefix
  rintro ⟨r, rfl⟩
  exact h rfl

theorem dropEnd_singleton (h : c ∉ t.getLast?) : dropEnd [c] t = t := by
  apply dropEnd_of_not_isSuffix
  rintro ⟨r, rfl⟩
  exact h List.getLast?_concat

theorem dropStart_suffix (mark t : Text) : dropStart mark t <:+ t := by
  rw [dropStart]
  cases h : mark.isPrefixOf? t with
  | none => exact List.suffix_refl t
  | some r => exact ⟨mark, List.append_eq_of_isPrefixOf?_eq_some h⟩

theorem dropEnd_isPrefix (mark t : Text) : dropEnd mark t <+: t := by
  rw [dropEnd]
  cases h : mark.isSuffixOf? t with
  | none => exact List.prefix_refl t
  | some r => exact ⟨mark, List.append_eq_of_isSuffixOf?_eq_some h⟩

/-- A cut loses the mark and nothing else. -/
theorem eq_of_cutAt? (h : cutAt? mark t = some (before, after)) : t = before ++ mark ++ after := by
  induction t generalizing before with
  | nil => cases h
  | cons c r ih =>
    unfold cutAt? at h
    split at h
    · next rest hp =>
      obtain ⟨rfl, rfl⟩ := Prod.mk.inj (Option.some.inj h)
      exact (List.append_eq_of_isPrefixOf?_eq_some hp).symm
    · obtain ⟨⟨b, a⟩, hb, he⟩ := Option.map_eq_some_iff.1 h
      obtain ⟨rfl, rfl⟩ := Prod.mk.inj he
      exact congrArg (c :: ·) (ih hb)

end StyleObject.Text
