import StyleObject.Proofs.Literal.Content
import StyleObject.Proofs.Nesting
import StyleObject.Proofs.Object.Grammar
import StyleObject.Proofs.Text.Kept
import StyleObject.Value.Basic

/-!
# What a value keeps

Quotes, units, brackets, commas, spaces and the marker of importance are neutral, and a value is
written part by part and token by token in the order of its text. So whatever is put in place of
what, a value keeps the text that it is made from.
-/
namespace StyleObject

open Text

variable {sep : Char} {t : Text} {ts : List Text}

namespace Nesting

theorem kept_tidy (t : Text) : Kept (tidy t) t := by
  have hf : Kept ((trim t).flatMap fun c => [if c = '\n' then ' ' else c]) (trim t) := by
    refine kept_flatMap (fun c => ?_) (trim t)
    split
    · next hc =>
      subst hc
      exact Or.inr (by decide)
    · exact Or.inl rfl
  rw [← List.map_eq_flatMap] at hf
  exact hf.trans (kept_trim t)

/-- The segments of a text stand along it. -/
theorem along_segments (hs : isNeutral sep = true) (t : Text) : Along Kept (segments sep t) t := by
  have hp : Along Kept (pieces sep {} t) ([sep].intercalate (pieces sep {} t)) :=
    .intercalate (neutral_cons.2 ⟨hs, neutral_nil⟩) _
  rw [intercalate_pieces] at hp
  exact (hp.map fun p _ h => (kept_tidy p).trans h).dropEmptyLast

end Nesting

theorem kept_inlineArray (h : Along Kept ts t) : Kept (inlineArray ts) t :=
  (Kept.pad (a := ['[']) (b := [']']) (by decide) (by decide) _).trans
    (h.join (by simp) (by decide))

theorem kept_lineArray (h : Along Kept ts t) : Kept (lineArray ts) t :=
  (Kept.pad (a := ['[', '\n']) (b := ['\n', ']']) (by decide) (by decide) _).trans
    (h.join (by simp) (by decide))

namespace Literal

theorem kept_content (t : Text) : Kept (unquote (dropPixels t)) t := by
  unfold unquote dropPixels
  refine (kept_dropEnd (by decide) _).trans ?_
  refine (kept_dropStart (by decide) _).trans ?_
  refine (kept_dropEnd (by decide) _).trans ?_
  exact (kept_dropStart (by decide) _).trans (kept_dropEnd (by decide) t)

theorem kept_ofToken (t : Text) : Kept (ofToken t).text t := by
  rcases text_ofToken_cases t with ⟨-, ht⟩ | ht
  · rw [ht]
    exact kept_content t
  · rw [ht]
    exact (kept_singleQuoted _).trans (kept_content t)

end Literal

namespace Part

variable {p : Part} {ps : List Part}

/-- The part keeps a text, with the marker of importance and without it. -/
def Keeps (p : Part) (t : Text) : Prop := ∀ important, Kept (text { p with important }) t

theorem along_tokens (key t : Text) : Along Kept (tokens key t) (squeeze t) := by
  have hs : Along Kept (Nesting.segments ' ' (squeeze t)) (squeeze t) :=
    Nesting.along_segments (by decide) (squeeze t)
  unfold tokens
  split
  · exact .singleton (.refl _)
  · split
    · next hn =>
      rw [hn, Along.nil_iff] at hs
      exact .singleton (.of_neutral neutral_nil hs)
    · next hn => rwa [hn] at hs

/-- The literals and the marker of importance stand along the text of a part. -/
theorem keeps_ofText (key t : Text) : Keeps (ofText key t) t := by
  intro important
  have hl : Along Kept ((tokens key t).map (Literal.text ∘ Literal.ofToken)) (squeeze t) :=
    (along_tokens key t).map fun u _ h => (Literal.kept_ofToken u).trans h
  have hm : Along Kept (if important then [singleQuoted importantMarker] else []) [] := by
    cases important with
    | false => exact .nil neutral_nil
    | true => exact .singleton (.of_neutral (by decide) neutral_nil)
  have hi : Along Kept (items { ofText key t with important }) (squeeze t) := by
    simpa [items, ofText] using hl.append hm
  refine Kept.trans ?_ (kept_squeeze t)
  unfold text
  split
  · exact kept_inlineArray hi
  · exact hi.join (by simp) (by decide)

theorem along_ofValue (key body : Text) : Along Keeps (ofValue key body) body := by
  have hs : Along Kept (Nesting.segments ',' body) body := Nesting.along_segments (by decide) body
  unfold ofValue
  split
  · next hn =>
    rw [hn, Along.nil_iff] at hs
    exact .singleton fun i => (keeps_ofText key [] i).trans (.of_neutral neutral_nil hs)
  · next hn =>
    rw [hn] at hs
    exact hs.map fun u _ h i => (keeps_ofText key u i).trans h

theorem along_markLast (h : Along Keeps ps t) : Along Keeps (markLast ps) t := by
  induction ps using markLast.induct generalizing t with
  | case1 => exact h
  | case2 p =>
    cases h with
    | cons hg hp h => exact .cons hg (fun important => hp important) h
  | case3 p q ps ih =>
    cases h with
    | cons hg hp h => exact .cons hg hp (ih h)

theorem kept_render (h : Along Keeps ps t) : Kept (render ps) t := by
  have ht : Along Kept (ps.map text) t := h.map fun p _ hp => hp p.important
  rcases ps with _ | ⟨p, _ | ⟨q, ps⟩⟩
  · exact .of_neutral neutral_nil (Along.nil_iff.1 ht)
  · have hj : Kept ([' '].intercalate ([p].map text)) t := ht.join (by simp) (by decide)
    rwa [List.map_singleton, List.intercalate_singleton] at hj
  · unfold render
    dsimp only
    split
    · exact kept_lineArray ht
    · exact kept_inlineArray ht

end Part

namespace Value

theorem kept_splitMarker (t : Text) : Kept (splitMarker t).1 t := by
  unfold splitMarker
  split
  · next body h =>
    have hb : Kept body ([] ++ body ++ importantMarker) := .trim neutral_nil (by decide) body
    rw [List.nil_append, List.append_eq_of_isSuffixOf?_eq_some h] at hb
    exact (kept_trimEnd body).trans hb
  · exact .refl t

/-- A value keeps the text that a declaration gives it as. -/
theorem kept_ofRaw (options : Options) (key raw : Text) :
    Kept (ofRaw options key raw).text raw := by
  have hp := Part.along_ofValue key (splitMarker (squeeze raw)).1
  refine Kept.trans ?_ ((kept_splitMarker _).trans (kept_squeeze raw))
  rw [ofRaw, partsOf]
  dsimp only
  split
  · exact Part.kept_render (Part.along_markLast hp)
  · exact Part.kept_render hp

end Value

namespace Key

theorem neutral_of_isIdentifier (h : isIdentifier t = true) : Neutral t := fun _ hc =>
  isNeutral_of (by decide) (Grammar.isIdentifierPart_of_mem h hc)

/-- A key keeps its name, or it is an identifier and so it is neutral. -/
theorem kept_or_neutral (name : Text) : Kept (ofName name) name ∨ Neutral (ofName name) := by
  unfold ofName
  split
  · exact Or.inl (kept_singleQuoted name)
  · split
    · next hi => exact Or.inr (neutral_of_isIdentifier hi)
    · exact Or.inl (kept_singleQuoted name)

theorem marksWithin_ofName (name : Text) : MarksWithin (ofName name) name := by
  rcases kept_or_neutral name with h | h
  · exact h.marks
  · exact .of_neutral h name

end Key

end StyleObject
