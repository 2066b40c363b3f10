import StyleObject.Proofs.Literal.Content
import StyleObject.Proofs.Object.Insert

/-!
# Keys of two names

A key without quotes is the camel case of its name, and many names may have it. A key with quotes
tells its name: the quotes at its ends set it apart from every key without them, and within them
each character can be told from the backslashes that are put before quotes. So where the last of two
declarations wins, the entry of a quoted key takes the values of its own name only.
-/
namespace StyleObject

open Text

theorem Text.singleQuoted_injective : Function.Injective singleQuoted := by
  intro s t h
  exact escape_injective (List.append_cancel_right (List.cons.inj h).2)

namespace Key

/-- The key of the name is its camel case, without quotes. -/
def IsBare (name : Text) : Prop := name.head? ≠ some '-' ∧ isIdentifier (camel name) = true

instance : DecidablePred IsBare := fun _ => inferInstanceAs (Decidable (_ ∧ _))

variable {a b name : Text}

theorem ofName_of_isBare (h : IsBare name) : ofName name = camel name := by
  rw [ofName, if_neg h.1, if_pos h.2]

theorem ofName_of_not_isBare (h : ¬ IsBare name) : ofName name = singleQuoted name := by
  rw [ofName]
  split
  · rfl
  · next hn => exact if_neg fun hi => h ⟨hn, hi⟩

/-- No identifier starts with a quote. -/
theorem ne_singleQuoted (h : isIdentifier a = true) (t : Text) : a ≠ singleQuoted t := by
  rintro rfl
  have hq : isIdentifierStart '\x27' = false := by decide
  rw [singleQuoted, isIdentifier, hq] at h
  cases h

theorem ofName_ne_of_isBare (ha : IsBare a) (hb : ¬ IsBare b) : ofName a ≠ ofName b := by
  rw [ofName_of_isBare ha, ofName_of_not_isBare hb]
  exact ne_singleQuoted ha.2 b

/-- A quoted key is the key of one name. -/
theorem ofName_eq_iff_of_not_isBare (ha : ¬ IsBare a) : ofName b = ofName a ↔ b = a := by
  constructor
  · intro h
    by_cases hb : IsBare b
    · exact absurd h (ofName_ne_of_isBare hb ha)
    · rw [ofName_of_not_isBare ha, ofName_of_not_isBare hb] at h
      exact singleQuoted_injective h
  · rintro rfl
    rfl

theorem ofName_eq_iff (a b : Text) : ofName a = ofName b ↔
    a = b ∨ (a.head? ≠ some '-' ∧ b.head? ≠ some '-') ∧ camel a = camel b ∧
      isIdentifier (camel a) = true := by
  constructor
  · intro h
    by_cases ha : IsBare a
    · by_cases hb : IsBare b
      · rw [ofName_of_isBare ha, ofName_of_isBare hb] at h
        exact Or.inr ⟨⟨ha.1, hb.1⟩, h, ha.2⟩
      · exact absurd h (ofName_ne_of_isBare ha hb)
    · exact Or.inl ((ofName_eq_iff_of_not_isBare ha).1 h.symm).symm
  · rintro (rfl | ⟨⟨ha, hb⟩, he, hi⟩)
    · rfl
    · rw [ofName_of_isBare ⟨ha, hi⟩, ofName_of_isBare ⟨hb, he ▸ hi⟩, he]

/-- Two names have one key exactly if they are the same name, or neither is that of a vendor or
custom property and they have one camel case, which is an identifier. No identifier is a quoted key.
And where the last declaration wins, whatever has been inserted and is inserted next, an entry under
a quoted key keeps its place and its name, and takes the last value that comes under this very name,
if one does. -/
theorem keys_collide_by_camel :
    (∀ a b : Text, ofName a = ofName b ↔
      a = b ∨ (a.head? ≠ some '-' ∧ b.head? ≠ some '-') ∧ camel a = camel b ∧
        isIdentifier (camel a) = true) ∧
    (∀ a t : Text, isIdentifier a = true → a ≠ singleQuoted t) ∧
    ∀ (es later : List Entry) (i : Nat) (d : Entry),
      ((Object.empty .lastWins).insertAll es).entries[i]? = some d → ¬ IsBare d.name →
        (((Object.empty .lastWins).insertAll es).insertAll later).entries[i]? =
          some ⟨d.name, ((Entry.lastNamed? later d.name).map Entry.value).getD d.value⟩ := by
  refine ⟨ofName_eq_iff, fun a t h => ne_singleQuoted h t, ?_⟩
  intro es later i d hd hq
  have hn : Entry.last? later d.key = Entry.lastNamed? later d.name :=
    Entry.last?_eq_lastNamed? fun e _ => ofName_eq_iff_of_not_isBare hq
  rw [(Object.settled_insertAll es).getElem?_insertAll hd later, hn]

/-- The names -a\' and -a' have two keys, and a declaration of the one leaves the entry of the other
as it is. -/
theorem keys_collide_by_camel_quoted :
    ((Object.empty .lastWins).insertAll [⟨"b".toList, ⟨.single, ['1']⟩⟩,
      ⟨"-a'".toList, ⟨.single, ['1']⟩⟩]).entries[1]? =
        some ⟨"-a'".toList, ⟨.single, ['1']⟩⟩ ∧
    ¬ IsBare "-a'".toList ∧
    (((Object.empty .lastWins).insertAll [⟨"b".toList, ⟨.single, ['1']⟩⟩,
      ⟨"-a'".toList, ⟨.single, ['1']⟩⟩]).insertAll [⟨"-a'".toList, ⟨.single, ['2']⟩⟩,
        ⟨"-a\\'".toList, ⟨.single, ['3']⟩⟩, ⟨"B".toList, ⟨.single, ['4']⟩⟩]).entries[1]? =
          some ⟨"-a'".toList, ⟨.single, ['2']⟩⟩ := by
  have hd : ((Object.empty .lastWins).insertAll [⟨"b".toList, ⟨.single, ['1']⟩⟩,
      ⟨"-a'".toList, ⟨.single, ['1']⟩⟩]).entries[1]? =
        some ⟨"-a'".toList, ⟨.single, ['1']⟩⟩ := by
    rw [(Object.settled_insertAll _).entries_eq]
    decide
  have hq : ¬ IsBare "-a'".toList := by decide
  refine ⟨hd, hq, (keys_collide_by_camel.2.2 _ _ 1 _ hd hq).trans ?_⟩
  decide

end Key

end StyleObject
