import StyleObject.Proofs.Value.Shape

/-!
# The marker of importance

The marker at the end of a value is no part of it: without the marker and the blanks before it, a
value has the shape and the parts that it has when no marker is written. For the keys that keep the
marker only the last part changes. It is an array then, with the marker as its last element.
-/
namespace StyleObject

open Text Nesting

variable {options : Options} {key raw gap t : Text}

theorem Shape.ofText_trimEnd (t : Text) : ofText (trimEnd t) = ofText t := by
  rw [ofText, segments_trimEnd (by decide), trim_trimEnd, ofText]

theorem inlineArray_concat {ts : List Text} (hn : ts ≠ []) (t : Text) :
    inlineArray (ts ++ [t]) = ['['] ++ commaSeparated ts ++ [',', ' '] ++ t ++ [']'] := by
  obtain ⟨u, us, rfl⟩ := List.exists_cons_of_ne_nil hn
  simp [inlineArray, commaSeparated, intercalate_cons]

namespace Part

theorem ofValue_trimEnd (key t : Text) : ofValue key (trimEnd t) = ofValue key t := by
  rw [ofValue, segments_trimEnd (by decide), ofValue]

theorem markLast_concat (ps : List Part) (p : Part) :
    markLast (ps ++ [p]) = ps ++ [{ p with important := true }] := by
  induction ps using markLast.induct with
  | case1 => rfl
  | case2 q => rfl
  | case3 q r ps ih => exact congrArg (q :: ·) ih

theorem important_of_mem_ofValue {p : Part} (h : p ∈ ofValue key t) : p.important = false := by
  obtain ⟨u, rfl⟩ := exists_of_mem_ofValue h
  rfl

theorem literals_ne_nil_of_mem_ofValue {p : Part} (h : p ∈ ofValue key t) : p.literals ≠ [] := by
  obtain ⟨u, rfl⟩ := exists_of_mem_ofValue h
  simpa [ofText] using tokens_ne_nil key u

/-- The array of the tokens of a part, with the marker of importance as its last element. -/
def markedText (p : Part) : Text :=
  inlineArray (p.literals.map Literal.text ++ ["'!important'".toList])

end Part

/-- How a value that is written in the parts `init` and `last` comes to be written with the marker
of importance. -/
structure Marking (init : List Part) (last : Part) (plain marked : Text) : Prop where
  plain_eq : plain = Part.render (init ++ [last])
  /-- A single token becomes the first of two elements. -/
  bare : init = [] → last.isArray = false → marked = ['['] ++ plain ++ ", '!important']".toList
  /-- An array of tokens gets one more element. -/
  array : init = [] → last.isArray = true → ∃ elements,
    plain = ['['] ++ elements ++ [']'] ∧ marked = ['['] ++ elements ++ ", '!important']".toList
  /-- Several parts stand on lines of their own. -/
  several : init ≠ [] → marked = lineArray (init.map Part.text ++ [last.markedText])

namespace Part

theorem markedText_eq {p : Part} (hn : p.literals ≠ []) :
    p.markedText =
      ['['] ++ commaSeparated (p.literals.map Literal.text) ++ ", '!important']".toList := by
  rw [markedText, inlineArray_concat (by simpa using hn)]
  simp

theorem text_of_not_important {p : Part} (h : p.important = false) :
    p.text = if p.isArray then ['['] ++ commaSeparated (p.literals.map Literal.text) ++ [']']
      else commaSeparated (p.literals.map Literal.text) := by
  simp [text, items, h, inlineArray]

/-- What the marker makes of the parts is written as it should be. -/
theorem marking {init : List Part} {last : Part} (hn : last.literals ≠ [])
    (hl : last.important = false) :
    Marking init last (render (init ++ [last]))
      (render (init ++ [{ last with important := true }])) := by
  refine ⟨rfl, ?_, ?_, ?_⟩
  · rintro rfl ha
    have hp : last.text = commaSeparated (last.literals.map Literal.text) := by
      simp [text_of_not_important hl, ha]
    change last.markedText = ['['] ++ last.text ++ ", '!important']".toList
    rw [hp, markedText_eq hn]
  · rintro rfl ha
    refine ⟨commaSeparated (last.literals.map Literal.text), ?_, markedText_eq hn⟩
    change last.text = _
    simp [text_of_not_important hl, ha]
  · intro hi
    have h₁ : 1 < (init ++ [{ last with important := true }]).length := by
      have := List.length_pos_iff.2 hi
      simp
      omega
    rw [render_of_one_lt h₁, List.map_append, if_pos]
    · rfl
    · simp [isArray]

end Part

namespace Value

theorem splitMarker_of_not_isSuffix (h : ¬ importantMarker <:+ t) : splitMarker t = (t, false) := by
  unfold splitMarker
  split
  · next body hb => exact absurd ⟨body, List.append_eq_of_isSuffixOf?_eq_some hb⟩ h
  · rfl

/-- The marker and the blanks before it are taken from the end of a value. -/
theorem splitMarker_marked (raw : Text) (hg : ∀ c ∈ gap, isSpace c = true) :
    splitMarker (squeeze (raw ++ gap ++ importantMarker)) = (trimEnd (squeeze raw), true) := by
  have hn : importantMarker ≠ [] := by decide
  have hs : importantMarker.all (!isSpace ·) := by decide
  have hw : ∀ c ∈ importantMarker, isSpace c = false := by simpa using hs
  obtain ⟨b, hb, he⟩ := exists_squeeze_append_word hn hw (raw ++ gap)
  rw [he, splitMarker, List.isSuffixOf?_eq_some_iff_append_eq.2 rfl, squeeze_append_spaces raw hg]
  dsimp only
  rw [trimEnd_append_blank hb]

theorem partsOf_unmarked (options : Options) (key : Text) (hr : ¬ importantMarker <:+ squeeze raw) :
    partsOf options key raw = Part.ofValue key (squeeze raw) := by
  rw [partsOf, splitMarker_of_not_isSuffix hr]
  rfl

/-- The marker changes the parts only where it is kept, and there only the last one. -/
theorem partsOf_marked (options : Options) (key : Text) (hr : ¬ importantMarker <:+ squeeze raw)
    (hg : ∀ c ∈ gap, isSpace c = true) :
    partsOf options key (raw ++ gap ++ importantMarker) =
      if options.keepsImportant key then Part.markLast (partsOf options key raw)
      else partsOf options key raw := by
  rw [partsOf_unmarked options key hr, partsOf, splitMarker_marked raw hg]
  dsimp only
  rw [Part.ofValue_trimEnd, Bool.true_and]

theorem shape_marked (options : Options) (key : Text) (hr : ¬ importantMarker <:+ squeeze raw)
    (hg : ∀ c ∈ gap, isSpace c = true) :
    (ofRaw options key (raw ++ gap ++ importantMarker)).shape = (ofRaw options key raw).shape := by
  rw [ofRaw, ofRaw, splitMarker_of_not_isSuffix hr, splitMarker_marked raw hg]
  exact Shape.ofText_trimEnd _

/-- The marker of importance behind a value changes nothing for the keys that do not keep it. For
the others it leaves the shape, the tokens and all parts but the last one as they are, and becomes
the last element of that part. -/
theorem ofRaw_marked (options : Options) (key : Text) (hr : ¬ importantMarker <:+ squeeze raw)
    (hg : ∀ c ∈ gap, isSpace c = true) :
    (options.keepsImportant key = false →
      ofRaw options key (raw ++ gap ++ importantMarker) = ofRaw options key raw) ∧
    (options.keepsImportant key = true →
      (ofRaw options key (raw ++ gap ++ importantMarker)).shape = (ofRaw options key raw).shape ∧
      ∃ init last, partsOf options key raw = init ++ [last] ∧
        (∀ p ∈ init ++ [last], p.important = false) ∧
        partsOf options key (raw ++ gap ++ importantMarker) =
          init ++ [{ last with important := true }] ∧
        Marking init last (ofRaw options key raw).text
          (ofRaw options key (raw ++ gap ++ importantMarker)).text) := by
  have hs := shape_marked options key hr hg
  have hm := partsOf_marked options key hr hg
  constructor
  · intro hk
    rw [hk, if_neg Bool.false_ne_true] at hm
    have ht : (ofRaw options key (raw ++ gap ++ importantMarker)).text =
        (ofRaw options key raw).text := congrArg Part.render hm
    exact (Value.mk.injEq ..).mpr ⟨hs, ht⟩
  · intro hk
    have hp := partsOf_unmarked options key hr
    have hn : partsOf options key raw ≠ [] := hp ▸ Part.ofValue_ne_nil key (squeeze raw)
    obtain ⟨init, last, he⟩ := (List.eq_nil_or_concat' _).resolve_left hn
    have hv : ∀ p ∈ init ++ [last], p ∈ Part.ofValue key (squeeze raw) := by
      rw [← he, hp]
      exact fun p h => h
    have hi : ∀ p ∈ init ++ [last], p.important = false := fun p h =>
      Part.important_of_mem_ofValue (hv p h)
    have hl : last ∈ init ++ [last] := List.mem_append_right init List.mem_cons_self
    rw [hk, if_pos rfl, he, Part.markLast_concat] at hm
    refine ⟨hs, init, last, he, hi, hm, ?_⟩
    rw [ofRaw, ofRaw, he, hm]
    exact Part.marking (Part.literals_ne_nil_of_mem_ofValue (hv last hl)) (hi last hl)

/-- A comma and a blank that is no space stand between the last part and the marker. -/
theorem ofRaw_marked_parts :
    ¬ importantMarker <:+ squeeze "0 1px,'a, b' ,\u00a0".toList ∧
    (∀ c ∈ ['\t'], isSpace c = true) ∧
    ofRaw {} "color".toList ("0 1px,'a, b' ,\u00a0".toList ++ ['\t'] ++ importantMarker) =
      ⟨.list, "[\n[0, 1],\n'a, b'\n]".toList⟩ ∧
    ofRaw {} "margin".toList ("0 1px,'a, b' ,\u00a0".toList ++ ['\t'] ++ importantMarker) =
      ⟨.list, "[\n[0, 1],\n['a, b', '!important']\n]".toList⟩ := by
  have hr : ¬ importantMarker <:+ squeeze "0 1px,'a, b' ,\u00a0".toList := by decide
  have hg : ∀ c ∈ ['\t'], isSpace c = true := List.forall_mem_singleton.2 (by decide)
  have hc := (ofRaw_marked {} "color".toList hr hg).1 (by decide)
  obtain ⟨hs, -⟩ := (ofRaw_marked {} "margin".toList hr hg).2 (by decide)
  exact ⟨hr, hg, hc.trans (by decide), (Value.mk.injEq ..).mpr ⟨hs.trans (by decide), by decide⟩⟩

end Value

end StyleObject
