import StyleObject.Proofs.Literal.Content
import StyleObject.Proofs.Nesting
import StyleObject.Proofs.Object.Grammar
import StyleObject.Proofs.Text.Squeeze
import StyleObject.Value.Basic

/-!
# Values as they are written

A value that is made from ordinary text is one of the grammar: each token becomes a numeral or a
literal, and these are put in arrays. What a literal is made from is a part of the text, so it has
no backslash and no line feed.
-/
namespace StyleObject

open Text Grammar

/-- A text without backslashes, line feeds and carriage returns. -/
def Ordinary (t : Text) : Prop := ∀ c ∈ t, c ≠ '\\' ∧ c ≠ '\n' ∧ c ≠ '\r'

/-- A value of the grammar without carriage returns. -/
structure Written (t : Text) : Prop where
  value : IsValue t
  noReturn : '\r' ∉ t

variable {s t : Text}

theorem ordinary_importantMarker : Ordinary importantMarker := by
  intro c hc
  refine ⟨?_, ?_, ?_⟩ <;> (rintro rfl; exact absurd hc (by decide))

theorem Ordinary.mono (ht : Ordinary t) (h : ∀ c ∈ s, c = ' ' ∨ c ∈ t) : Ordinary s := by
  intro c hc
  rcases h c hc with rfl | hm
  · decide
  · exact ht c hm

theorem Ordinary.of_isInfix (ht : Ordinary t) (h : s <:+: t) : Ordinary s := fun c hc =>
  ht c (h.subset hc)

theorem Ordinary.squeeze (h : Ordinary t) : Ordinary (squeeze t) :=
  h.mono fun _ hc => (mem_squeeze hc).imp_right And.left

/-- The escaped text of a literal. -/
theorem isBody_escape (h : Ordinary t) : IsBody (escape t) := by
  induction t with
  | nil => exact .nil
  | cons c r ih =>
    obtain ⟨hb, hl, -⟩ := h c List.mem_cons_self
    have hr := ih fun x hx => h x (List.mem_cons_of_mem _ hx)
    rw [escape_cons]
    split
    · exact .quote hr
    · next hq => exact .char hq hb hl hr

theorem isLiteral_singleQuoted (h : Ordinary t) : IsLiteral (singleQuoted t) :=
  .quoted (isBody_escape h)

theorem return_notMem_singleQuoted (h : Ordinary t) : '\r' ∉ singleQuoted t := by
  have he : '\r' ∉ escape t := by
    intro hm
    obtain ⟨c, hc, hr⟩ := List.mem_flatMap.1 hm
    have ho := (h c hc).2.2
    split at hr
    · simp at hr
    · exact ho (List.mem_singleton.1 hr).symm
  simpa [singleQuoted] using he

theorem isKey_ofName (h : Ordinary t) : IsKey (Key.ofName t) ∧ '\r' ∉ Key.ofName t := by
  have hq : IsKey (singleQuoted t) ∧ '\r' ∉ singleQuoted t :=
    ⟨.literal (isLiteral_singleQuoted h), return_notMem_singleQuoted h⟩
  unfold Key.ofName
  split
  · exact hq
  · split
    · next hi =>
      exact ⟨.identifier hi, fun hm => absurd (isIdentifierPart_of_mem hi hm) (by decide)⟩
    · exact hq

/-- The content of a token is a part of it. -/
theorem content_isInfix (t : Text) : Literal.unquote (Literal.dropPixels t) <:+: t :=
  (Literal.unquote_isInfix _).trans (dropEnd_isPrefix _ _).isInfix

theorem written_singleQuoted (h : Ordinary t) : Written (singleQuoted t) :=
  ⟨.literal (isLiteral_singleQuoted h), return_notMem_singleQuoted h⟩

theorem written_ofToken (h : Ordinary t) : Written (Literal.ofToken t).text := by
  have hc := h.of_isInfix (content_isInfix t)
  rcases Literal.text_ofToken_cases t with ⟨hn, ht⟩ | ht
  · rw [ht]
    exact ⟨.numeral hn, fun hm => (hc _ hm).2.2 rfl⟩
  · rw [ht]
    exact written_singleQuoted hc

theorem written_inlineArray {ts : List Text} (hn : ts ≠ []) (h : ∀ t ∈ ts, Written t) :
    Written (inlineArray ts) := by
  refine ⟨.inlineArray hn fun t ht => (h t ht).value, ?_⟩
  have hi : '\r' ∉ [',', ' '].intercalate ts :=
    notMem_intercalate (by decide) fun t ht => (h t ht).noReturn
  simpa [inlineArray, commaSeparated] using hi

theorem written_lineArray {ts : List Text} (hn : ts ≠ []) (h : ∀ t ∈ ts, Written t) :
    Written (lineArray ts) := by
  refine ⟨.lineArray hn fun t ht => (h t ht).value, ?_⟩
  have hi : '\r' ∉ [',', '\n'].intercalate ts :=
    notMem_intercalate (by decide) fun t ht => (h t ht).noReturn
  simpa [lineArray] using hi

namespace Part

/-- A part of one or more literals, all of which are written in the grammar. -/
structure Proper (p : Part) : Prop where
  ne_nil : p.literals ≠ []
  written : ∀ l ∈ p.literals, Written l.text

theorem proper_ofText (key : Text) (h : Ordinary t) : Proper (ofText key t) := by
  have ht : ∀ u ∈ tokens key t, Ordinary u := by
    intro u hu
    unfold tokens at hu
    split at hu
    · obtain rfl := List.mem_singleton.1 hu
      exact h.squeeze
    · split at hu
      · obtain rfl := List.mem_singleton.1 hu
        exact fun c hc => absurd hc List.not_mem_nil
      · next hs =>
        rw [← hs] at hu
        exact h.squeeze.mono fun c hc => Nesting.mem_of_mem_segments hu hc
  refine ⟨by simpa [ofText] using tokens_ne_nil key t, fun l hl => ?_⟩
  obtain ⟨u, hu, rfl⟩ := List.mem_map.1 hl
  exact written_ofToken (ht u hu)

/-- A part that is no array is a single literal. -/
theorem exists_literal {p : Part} (hn : p.literals ≠ []) (ha : p.isArray = false) :
    ∃ l, p.literals = [l] ∧ p.text = l.text := by
  obtain ⟨l, ls, hl⟩ := List.exists_cons_of_ne_nil hn
  rw [isArray, Bool.or_eq_false_iff] at ha
  simp only [hl, List.length_cons, decide_eq_false_iff_not] at ha
  obtain rfl : ls = [] := List.eq_nil_of_length_eq_zero (by omega)
  exact ⟨l, hl, by simp [Part.text, isArray, items, hl, ha.1, commaSeparated]⟩

theorem Proper.text {p : Part} (h : Proper p) : Written p.text := by
  have hi : ∀ t ∈ p.items, Written t := by
    intro t ht
    rcases List.mem_append.1 ht with ht | ht
    · obtain ⟨l, hl, rfl⟩ := List.mem_map.1 ht
      exact h.written l hl
    · split at ht
      · obtain rfl := List.mem_singleton.1 ht
        exact written_singleQuoted ordinary_importantMarker
      · cases ht
  have hn : p.items ≠ [] := by
    simp [items, h.ne_nil]
  cases ha : p.isArray with
  | true =>
    rw [Part.text, if_pos ha]
    exact written_inlineArray hn hi
  | false =>
    obtain ⟨l, hl, ht⟩ := exists_literal h.ne_nil ha
    rw [ht]
    exact h.written l (hl ▸ List.mem_cons_self)

theorem proper_ofValue (key : Text) (h : Ordinary t) : ∀ p ∈ ofValue key t, Proper p := by
  intro p hp
  unfold ofValue at hp
  split at hp
  · obtain rfl := List.mem_singleton.1 hp
    exact proper_ofText key fun c hc => absurd hc List.not_mem_nil
  · next hs =>
    rw [← hs] at hp
    obtain ⟨u, hu, rfl⟩ := List.mem_map.1 hp
    exact proper_ofText key (h.mono fun c hc => Nesting.mem_of_mem_segments hu hc)

/-- The marker of importance changes no literal. -/
theorem proper_markLast {ps : List Part} (h : ∀ p ∈ ps, Proper p) : ∀ p ∈ markLast ps, Proper p := by
  induction ps using markLast.induct with
  | case1 => exact h
  | case2 p =>
    intro q hq
    obtain rfl := List.mem_singleton.1 hq
    have hp := h p List.mem_cons_self
    exact ⟨hp.ne_nil, hp.written⟩
  | case3 p q ps ih =>
    intro r hr
    rcases List.mem_cons.1 hr with rfl | hr
    · exact h r List.mem_cons_self
    · exact ih (fun x hx => h x (List.mem_cons_of_mem _ hx)) r hr

theorem markLast_ne_nil {ps : List Part} (h : ps ≠ []) : markLast ps ≠ [] := by
  rcases ps with _ | ⟨p, _ | ⟨q, ps⟩⟩
  · contradiction
  · exact List.cons_ne_nil _ _
  · exact List.cons_ne_nil _ _

theorem written_render {ps : List Part} (hn : ps ≠ []) (h : ∀ p ∈ ps, Proper p) :
    Written (render ps) := by
  have ht : ∀ t ∈ ps.map text, Written t := by
    intro t ht
    obtain ⟨p, hp, rfl⟩ := List.mem_map.1 ht
    exact (h p hp).text
  rcases ps with _ | ⟨p, _ | ⟨q, ps⟩⟩
  · contradiction
  · exact (h p List.mem_cons_self).text
  · unfold render
    dsimp only
    split
    · exact written_lineArray (by simp) ht
    · exact written_inlineArray (by simp) ht

end Part

theorem splitMarker_isInfix (t : Text) : (Value.splitMarker t).1 <:+: t := by
  unfold Value.splitMarker
  split
  · next body h =>
    obtain ⟨b, -, he⟩ := exists_trimEnd body
    have hp : trimEnd body <+: body := ⟨b, he.symm⟩
    exact (hp.trans ⟨importantMarker, List.append_eq_of_isSuffixOf?_eq_some h⟩).isInfix
  · exact List.infix_rfl

/-- The value of an ordinary text is written in the grammar. -/
theorem written_ofRaw (options : Options) (key : Text) (h : Ordinary t) :
    Written (Value.ofRaw options key t).text := by
  have hb := h.squeeze.of_isInfix (splitMarker_isInfix (squeeze t))
  have hp : ∀ p ∈ Value.partsOf options key t, Part.Proper p := by
    unfold Value.partsOf
    dsimp only
    split
    · exact Part.proper_markLast (Part.proper_ofValue key hb)
    · exact Part.proper_ofValue key hb
  have hn : Value.partsOf options key t ≠ [] := by
    unfold Value.partsOf
    dsimp only
    split
    · exact Part.markLast_ne_nil (Part.ofValue_ne_nil key _)
    · exact Part.ofValue_ne_nil key _
  exact Part.written_render hn hp

end StyleObject
