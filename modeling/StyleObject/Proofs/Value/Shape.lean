import StyleObject.Proofs.Value.Structure
import StyleObject.Proofs.Value.Written

/-!
# Shapes and parts

The shape of a value is found by a scan of its own, beside the one that finds the parts. Both see
the same commas, and in a part between commas both see the same spaces. But where a comma at the end
leaves one part, the scan for the shape looks at the space before that comma, which the part has
lost. So the shape says how the value is written, except for one token before such a comma.
-/
namespace StyleObject

open Text Nesting

section Segments

variable {sep : Char} {body p s t : Text}

/-- At the top, a blank text adds no space but its own. -/
theorem occurs_append_blank (hs : ({} : Nesting).after s = {}) (hb : Blank t) :
    occurs ' ' (s ++ t) = true ↔ occurs ' ' s = true ∨ ' ' ∈ t := by
  rw [occurs, occursFrom_append, hs, Bool.or_eq_true]
  exact or_congr_right (occurs_of_blank hb)

theorem segments_of_trimmed (hs : isBlank sep = true) (hn : t ≠ []) (ht : Trimmed t) :
    segments sep t = (pieces sep {} t).map tidy := by
  apply dropEmptyLast_of_last
  intro u hu
  rw [List.getLast?_map] at hu
  obtain ⟨p, hp, rfl⟩ := Option.map_eq_some_iff.1 hu
  have hb := not_blank_last_piece hs hn ht p hp
  simpa [tidy, trim_eq_nil_iff] using hb

theorem tidy_of_isInfix (ht : Tight t) (h : p <:+: t) : tidy p = trim p := by
  have hp := ht.trim_of_isInfix h
  rw [← tidy_of_trimmed (trimmed_trim p) hp.notMem_lineFeed, tidy, tidy,
    trim_of_trimmed (trimmed_trim p)]

theorem tight_of_mem_segments (ht : Tight t) (hb : body <:+: t) :
    ∀ s ∈ segments sep body, Tight s ∧ Trimmed s := by
  intro s hs
  obtain ⟨p, hp, rfl⟩ := List.mem_map.1 ((dropEmptyLast_isPrefix _).subset hs)
  have hi := (isInfix_of_mem_pieces hp).trans hb
  rw [tidy_of_isInfix ht hi]
  exact ⟨ht.trim_of_isInfix hi, trimmed_trim p⟩

end Segments

namespace Part

variable {key t : Text}

/-- A part has several tokens exactly if a space stands at the top of it. -/
theorem one_lt_length_tokens (hk : key ≠ fontFamily) (ht : Tight t) (htr : Trimmed t) :
    1 < (tokens key t).length ↔ occurs ' ' t = true := by
  rw [tokens, if_neg hk, squeeze_of_tight ht]
  by_cases hn : t = []
  · subst hn
    decide
  · rw [segments_of_trimmed (by decide) hn htr, occurs, ← one_lt_length_pieces]
    obtain ⟨p, ps, hp⟩ := List.exists_cons_of_ne_nil (pieces_ne_nil ' ' {} t)
    simp [hp]

theorem isArray_ofText (hk : key ≠ fontFamily) (ht : Tight t) (htr : Trimmed t) :
    (ofText key t).isArray = occurs ' ' t := by
  rw [Bool.eq_iff_iff, ← one_lt_length_tokens hk ht htr]
  simp [isArray, ofText]

/-- The shape of a value that is written in these parts. -/
def shape : List Part → Shape
  | [p] => if p.isArray then .sequence else .single
  | ps => if ps.all isArray then .listOfSequences else .list

end Part

/-- A token with a space between it and the comma behind it, and with nothing else around it but
blanks. -/
structure IsLoose (lead token gap rest : Text) : Prop where
  ne_nil : token ≠ []
  trimmed : Trimmed token
  closed : Closed ',' token
  single : occurs ' ' token = false
  blank_lead : Blank lead
  blank_gap : Blank gap
  space_mem : ' ' ∈ gap
  blank_rest : Blank rest

/-- The text of a value that is one token and a comma with a space before it. -/
def LooseComma (body : Text) : Prop :=
  ∃ lead token gap rest, body = lead ++ token ++ gap ++ ',' :: rest ∧ IsLoose lead token gap rest

section Comma

variable {p q body t : Text}

theorem closed_of_blank (h : Blank t) : Closed ',' t := by
  refine ⟨after_of_blank h {}, ?_⟩
  rw [← Bool.not_eq_true, occurs_of_blank h]
  intro hm
  exact absurd (h ',' hm) (by decide)

theorem closed_trim (h : Closed ',' p) : Closed ',' (trim p) := by
  obtain ⟨a, b, ha, hb, he⟩ := exists_trim p
  have ht := h.after_eq
  have ho := h.occurs_eq
  rw [he, after_append, after_append, after_of_blank ha, after_of_blank hb] at ht
  rw [he, occurs, occursFrom_append, occursFrom_append, after_of_blank ha, Bool.or_eq_false_iff,
    Bool.or_eq_false_iff] at ho
  exact ⟨ht, ho.1.2⟩

theorem pieces_comma_blank (hp : Closed ',' p) (hq : Blank q) :
    pieces ',' {} (p ++ ',' :: q) = [p, q] := by
  have h : pieces ',' {} (p ++ [q].flatMap (',' :: ·)) = p :: [q] :=
    pieces_join rfl hp (List.forall_mem_singleton.2 (closed_of_blank hq))
  simpa using h

/-- The parts of a value are one that is the text, or one before a comma with blanks behind it, or
two at least. -/
theorem segments_cases (body : Text) :
    (pieces ',' {} body = [body]) ∨
    (∃ p q, body = p ++ ',' :: q ∧ Closed ',' p ∧ Blank q) ∨
    ∃ s t ts, segments ',' body = s :: t :: ts := by
  rcases hp : pieces ',' {} body with _ | ⟨p, _ | ⟨q, _ | ⟨r, rs⟩⟩⟩
  · exact absurd hp (pieces_ne_nil ',' {} body)
  · left
    have hi := intercalate_pieces ',' {} body
    rw [hp, List.intercalate_singleton] at hi
    rw [hi]
  · obtain ⟨u, rfl, ho, ht, hu⟩ := pieces_eq_cons_cons hp
    have hi := intercalate_pieces ',' ((({} : Nesting).after p).advance ',') u
    rw [hu, List.intercalate_singleton] at hi
    by_cases hq : Blank q
    · exact Or.inr (Or.inl ⟨p, q, by rw [hi], ⟨isTop_iff.1 ht, ho⟩, hq⟩)
    · refine Or.inr (Or.inr ⟨tidy p, tidy q, [], ?_⟩)
      have hn : tidy q ≠ [] := by simpa [tidy, trim_eq_nil_iff] using hq
      rw [segments, hp]
      simp [dropEmptyLast, hn]
  · exact Or.inr (Or.inr ⟨tidy p, tidy q, _, by rw [segments, hp]; rfl⟩)

theorem IsLoose.closed_append {lead token gap rest : Text} (h : IsLoose lead token gap rest) :
    Closed ',' (lead ++ token ++ gap) :=
  ((closed_of_blank h.blank_lead).append h.closed).append (closed_of_blank h.blank_gap)

/-- The comma of a loose text is the only one. -/
theorem looseComma_iff (hp : Closed ',' p) (hq : Blank q) :
    LooseComma (p ++ ',' :: q) ↔
      ∃ lead token gap, p = lead ++ token ++ gap ∧ IsLoose lead token gap q := by
  constructor
  · rintro ⟨lead, token, gap, rest, he, h⟩
    have hl := pieces_comma_blank h.closed_append h.blank_rest
    rw [← he, pieces_comma_blank hp hq] at hl
    obtain ⟨rfl, hr⟩ := List.cons.inj hl
    obtain rfl := List.singleton_inj.1 hr
    exact ⟨lead, token, gap, rfl, h⟩
  · rintro ⟨lead, token, gap, rfl, h⟩
    exact ⟨lead, token, gap, q, rfl, h⟩

theorem trimmed_comma : Trimmed [','] := by constructor <;> simp <;> decide

/-- Trimming takes the blanks before a text that ends in a comma, and those behind the comma. -/
theorem trim_comma {lead token gap rest : Text} (hl : Blank lead) (ht : Trimmed token)
    (hn : token ≠ []) (hr : Blank rest) :
    trim (lead ++ token ++ gap ++ ',' :: rest) = token ++ (gap ++ [',']) := by
  have hm := ht.append_append hn trimmed_comma (by simp) gap
  simpa using trim_blank_append_blank hl hr hm

/-- A space at the top of a trimmed text that ends in a comma stands in the token before the comma,
or behind that token. -/
theorem occurs_trim_comma {lead token gap rest : Text} (hl : Blank lead) (ht : Trimmed token)
    (hn : token ≠ []) (ha : ({} : Nesting).after token = {}) (hg : Blank gap) (hr : Blank rest) :
    occurs ' ' (trim (lead ++ token ++ gap ++ ',' :: rest)) = true ↔
      occurs ' ' token = true ∨ ' ' ∈ gap := by
  have he : ({} : Nesting).after (token ++ gap) = {} := by
    rw [after_append, ha, after_of_blank hg]
  have hc : occursFrom ' ' {} [','] = false := rfl
  rw [trim_comma hl ht hn hr, ← List.append_assoc, occurs, occursFrom_append, he, hc,
    Bool.or_false]
  exact occurs_append_blank ha hg

end Comma

section Shape

variable {key body s t p q : Text}

/-- Where there is one part, the two scans ask for a space in the whole text and in the part. -/
theorem shape_ofText_iff_of_one (hk : key ≠ fontFamily) (ht : Tight s) (htr : Trimmed s)
    (h : segments ',' body = [s] ∨ s = [] ∧ segments ',' body = []) :
    Shape.ofText body = Part.shape (Part.ofValue key body) ↔
      (occurs ' ' (trim body) = true ↔ occurs ' ' s = true) := by
  have ha := Part.isArray_ofText hk ht htr
  have hl : Shape.ofText body = if occurs ' ' (trim body) then .sequence else .single := by
    rcases h with h | ⟨-, h⟩ <;> rw [Shape.ofText, h]
  have hr : Part.shape (Part.ofValue key body) =
      if occurs ' ' s then .sequence else .single := by
    rcases h with h | ⟨rfl, h⟩ <;> simp [Part.ofValue, h, Part.shape, ha]
  rw [hl, hr]
  cases occurs ' ' (trim body) <;> cases occurs ' ' s <;> decide

/-- Where there are several parts, the two scans ask the same of each part. -/
theorem shape_ofText_of_several (hk : key ≠ fontFamily) (ht : Tight t) (hb : body <:+: t)
    {u : Text} {us : List Text} (h : segments ',' body = s :: u :: us) :
    Shape.ofText body = Part.shape (Part.ofValue key body) := by
  have ha : ∀ x ∈ s :: u :: us, occurs ' ' x = (Part.ofText key x).isArray := by
    intro x hx
    have hx := tight_of_mem_segments ht hb x (h ▸ hx)
    exact (Part.isArray_ofText hk hx.1 hx.2).symm
  have hall : (s :: u :: us).all (occurs ' ') =
      ((s :: u :: us).map (Part.ofText key)).all Part.isArray := by
    rw [List.all_map, Bool.eq_iff_iff, List.all_eq_true, List.all_eq_true]
    exact forall₂_congr fun x hx => by rw [ha x hx, Function.comp_apply]
  rw [Shape.ofText, Part.ofValue, h]
  dsimp only
  rw [hall]
  rfl

theorem segments_comma_blank (hp : Closed ',' p) (hq : Blank q) :
    segments ',' (p ++ ',' :: q) = [tidy p] := by
  have hn : tidy q = [] := by simpa [tidy, trim_eq_nil_iff] using hq
  rw [segments, pieces_comma_blank hp hq]
  simp [dropEmptyLast, hn]

/-- The space before a comma that leaves one part belongs to no part. -/
theorem occurs_trim_comma_iff (hp : Closed ',' p) (hq : Blank q) :
    (occurs ' ' (trim (p ++ ',' :: q)) = true ↔ occurs ' ' (trim p) = true) ↔
      ¬ LooseComma (p ++ ',' :: q) := by
  constructor
  · intro h hc
    obtain ⟨lead, token, gap, rfl, hl⟩ := (looseComma_iff hp hq).1 hc
    have hs := (occurs_trim_comma hl.blank_lead hl.trimmed hl.ne_nil hl.closed.after_eq hl.blank_gap
      hq).2 (Or.inr hl.space_mem)
    rw [h, trim_blank_append_blank hl.blank_lead hl.blank_gap hl.trimmed, hl.single] at hs
    cases hs
  · intro hc
    by_cases hn : trim p = []
    · have ht := trim_blank_append_blank (trim_eq_nil_iff.1 hn) hq trimmed_comma
      rw [List.append_assoc, List.singleton_append] at ht
      rw [hn, ht]
      decide
    · obtain ⟨a, b, ha, hb, he⟩ := exists_trim p
      have hs := occurs_trim_comma ha (trimmed_trim p) hn (closed_trim hp).after_eq hb hq
      rw [← he] at hs
      rw [hs]
      constructor
      · rintro (h | hm)
        · exact h
        · -- With no space at its top, the token would be loose.
          by_contra h
          apply hc
          rw [looseComma_iff hp hq]
          exact ⟨a, trim p, b, he, hn, trimmed_trim p, closed_trim hp, Bool.eq_false_iff.2 h, ha,
            hb, hm, hq⟩
      · exact Or.inl

/-- The shape is the one that the parts are written in, unless the text ends in a loose comma. -/
theorem shape_ofText_iff (hk : key ≠ fontFamily) (ht : Tight t) (hb : body <:+: t) :
    Shape.ofText body = Part.shape (Part.ofValue key body) ↔ ¬ LooseComma body := by
  rcases segments_cases body with hp | ⟨p, q, rfl, hp, hq⟩ | ⟨s, u, us, hs⟩
  · have hs : segments ',' body = [trim body] ∨ trim body = [] ∧ segments ',' body = [] := by
      rw [segments, hp, List.map_singleton, tidy_of_isInfix ht hb]
      by_cases hn : trim body = []
      · exact Or.inr ⟨hn, by rw [hn]; rfl⟩
      · exact Or.inl (by simp [dropEmptyLast, hn])
    have hl : ¬ LooseComma body := by
      rintro ⟨lead, token, gap, rest, rfl, h⟩
      rw [pieces_comma_blank h.closed_append h.blank_rest] at hp
      exact absurd (congrArg List.length hp) (by simp)
    simp [shape_ofText_iff_of_one hk (ht.trim_of_isInfix hb) (trimmed_trim body) hs, hl]
  · have hi : p <:+: t := (List.prefix_append p _).isInfix.trans hb
    have hs : segments ',' (p ++ ',' :: q) = [trim p] := by
      rw [segments_comma_blank hp hq, tidy_of_isInfix ht hi]
    rw [shape_ofText_iff_of_one hk (ht.trim_of_isInfix hi) (trimmed_trim p) (Or.inl hs)]
    exact occurs_trim_comma_iff hp hq
  · have hl : ¬ LooseComma body := by
      rintro ⟨lead, token, gap, rest, rfl, h⟩
      rw [segments_comma_blank h.closed_append h.blank_rest] at hs
      cases hs
    simp [shape_ofText_of_several hk ht hb hs, hl]

end Shape

/-- The shape says how many parts a value is written in, and which of them are arrays. -/
structure Fits (shape : Shape) (ps : List Part) : Prop where
  single : shape = .single ↔ ∃ p, ps = [p] ∧ p.isArray = false
  sequence : shape = .sequence ↔ ∃ p, ps = [p] ∧ p.isArray = true
  listOfSequences : shape = .listOfSequences ↔ 2 ≤ ps.length ∧ ∀ p ∈ ps, p.isArray = true
  list : shape = .list ↔ 2 ≤ ps.length ∧ ∃ p ∈ ps, p.isArray = false

section Fits

variable {key body : Text} {ps : List Part}

theorem fits_shape (hn : ps ≠ []) : Fits (Part.shape ps) ps := by
  rcases ps with _ | ⟨p, _ | ⟨q, ps⟩⟩
  · contradiction
  · cases ha : p.isArray <;> constructor <;> simp [Part.shape, ha]
  · have hl : 2 ≤ (p :: q :: ps).length := by simp
    by_cases ha : ∀ r ∈ p :: q :: ps, r.isArray = true
    · have hs : Part.shape (p :: q :: ps) = .listOfSequences := if_pos (List.all_eq_true.2 ha)
      rw [hs]
      refine ⟨by simp, by simp, ⟨fun _ => ⟨hl, ha⟩, fun _ => rfl⟩, ⟨nofun, ?_⟩⟩
      rintro ⟨-, r, hr, hf⟩
      rw [ha r hr] at hf
      cases hf
    · have hs : Part.shape (p :: q :: ps) = .list := if_neg (mt List.all_eq_true.1 ha)
      have hf : ∃ r ∈ p :: q :: ps, r.isArray = false := by
        obtain ⟨r, hr, hf⟩ := not_forall₂.1 ha
        exact ⟨r, hr, Bool.eq_false_iff.2 hf⟩
      rw [hs]
      exact ⟨by simp, by simp, ⟨nofun, fun h => absurd h.2 ha⟩, ⟨fun _ => ⟨hl, hf⟩, fun _ => rfl⟩⟩

/-- Only one shape fits. -/
theorem fits_iff {shape : Shape} (hn : ps ≠ []) : Fits shape ps ↔ shape = Part.shape ps := by
  have hs := fits_shape hn
  constructor
  · intro h
    cases hp : Part.shape ps with
    | single => exact h.single.2 (hs.single.1 hp)
    | sequence => exact h.sequence.2 (hs.sequence.1 hp)
    | list => exact h.list.2 (hs.list.1 hp)
    | listOfSequences => exact h.listOfSequences.2 (hs.listOfSequences.1 hp)
  · rintro rfl
    exact hs

/-- A literal does not start with a bracket. -/
theorem Literal.head?_ofToken (t : Text) : (ofToken t).text.head? ≠ some '[' := by
  intro h
  rcases text_ofToken_cases t with ⟨hn, ht⟩ | ht
  · rw [ht] at h
    exact absurd (Numeral.mem_of_isNumeral hn '[' (List.mem_of_head? h)) (by decide)
  · rw [ht] at h
    cases h

/-- A part is written with a bracket first exactly if it is an array. -/
theorem Part.head?_text (key t : Text) :
    (ofText key t).text.head? = some '[' ↔ (ofText key t).isArray = true := by
  cases ha : (ofText key t).isArray with
  | true => simp [Part.text, ha, inlineArray]
  | false =>
    have hn : (ofText key t).literals ≠ [] := by simpa [ofText] using tokens_ne_nil key t
    obtain ⟨l, hl, ht⟩ := exists_literal hn ha
    have hm : l ∈ (tokens key t).map Literal.ofToken := by
      change l ∈ (ofText key t).literals
      simp [hl]
    obtain ⟨u, -, rfl⟩ := List.mem_map.1 hm
    simp [ht, Literal.head?_ofToken]

theorem Part.exists_of_mem_ofValue {p : Part} (h : p ∈ ofValue key body) :
    ∃ t, p = ofText key t := by
  unfold ofValue at h
  split at h
  · exact ⟨[], List.mem_singleton.1 h⟩
  · obtain ⟨t, -, rfl⟩ := List.mem_map.1 h
    exact ⟨t, rfl⟩

/-- A value is written with a bracket first unless it is one part that is no array. -/
theorem Part.head?_render (hn : ps ≠ []) (h : ∀ p ∈ ps, ∃ t, p = ofText key t) :
    (render ps).head? ≠ some '[' ↔ ∃ p, ps = [p] ∧ p.isArray = false := by
  rcases ps with _ | ⟨p, _ | ⟨q, ps⟩⟩
  · contradiction
  · obtain ⟨t, rfl⟩ := h p List.mem_cons_self
    simp [render, Part.head?_text]
  · rw [render]
    split <;> simp [lineArray, inlineArray]

end Fits

/-- Without a marker of importance that is kept, the parts are those of the text of the value. -/
theorem Value.partsOf_of_not_kept {options : Options} {key raw : Text}
    (h : (splitMarker (squeeze raw)).2 = true → options.keepsImportant key = false) :
    partsOf options key raw = Part.ofValue key (splitMarker (squeeze raw)).1 := by
  rw [partsOf]
  dsimp only
  rw [if_neg]
  intro hm
  rw [Bool.and_eq_true] at hm
  rw [h hm.1] at hm
  cases hm.2

/-- Where no marker of importance is kept, the text of a value is a single token exactly if it does
not start with a bracket, and the shape fits the parts that are written exactly if the text it is
made from does not end in a loose comma. -/
theorem Value.shape_fits_iff (options : Options) {key raw : Text} (hk : key ≠ fontFamily)
    (hm : (splitMarker (squeeze raw)).2 = true → options.keepsImportant key = false) :
    (ofRaw options key raw).text = Part.render (partsOf options key raw) ∧
    (∀ p ∈ partsOf options key raw, p.important = false) ∧
    ((ofRaw options key raw).isArray = false ↔
      ∃ p, partsOf options key raw = [p] ∧ p.isArray = false) ∧
    (Fits (ofRaw options key raw).shape (partsOf options key raw) ↔
      ¬ LooseComma (splitMarker (squeeze raw)).1) := by
  have hp := partsOf_of_not_kept hm
  have hn : partsOf options key raw ≠ [] := hp ▸ Part.ofValue_ne_nil key _
  have ho : ∀ p ∈ partsOf options key raw, ∃ t, p = Part.ofText key t := by
    rw [hp]
    exact fun p => Part.exists_of_mem_ofValue
  refine ⟨rfl, ?_, ?_, ?_⟩
  · intro p h
    obtain ⟨t, rfl⟩ := ho p h
    rfl
  · rw [← Part.head?_render hn ho]
    simp [isArray, ofRaw]
  · rw [fits_iff hn, hp]
    exact shape_ofText_iff hk (tight_squeeze raw) (splitMarker_isInfix (squeeze raw))

/-- Two commas together leave an empty part, and a comma at the end leaves none. -/
theorem Value.shape_fits_list :
    "transition".toList ≠ fontFamily ∧
    ((splitMarker (squeeze "0 1px,, 'a, b' , !important".toList)).2 = true →
      Options.keepsImportant {} "transition".toList = false) ∧
    ofRaw {} "transition".toList "0 1px,, 'a, b' , !important".toList =
      ⟨.list, "[\n[0, 1],\n'',\n'a, b'\n]".toList⟩ ∧
    Fits .list (partsOf {} "transition".toList "0 1px,, 'a, b' , !important".toList) := by
  have hk : "transition".toList ≠ fontFamily := by decide
  have hm : (splitMarker (squeeze "0 1px,, 'a, b' , !important".toList)).2 = true →
      Options.keepsImportant {} "transition".toList = false := by decide
  have hv : ofRaw {} "transition".toList "0 1px,, 'a, b' , !important".toList =
      ⟨.list, "[\n[0, 1],\n'',\n'a, b'\n]".toList⟩ := by decide
  have hl : ¬ LooseComma (splitMarker (squeeze "0 1px,, 'a, b' , !important".toList)).1 := by
    rintro ⟨lead, token, gap, rest, he, h⟩
    have hs := segments_comma_blank h.closed_append h.blank_rest
    have hn : (segments ',' (splitMarker (squeeze "0 1px,, 'a, b' , !important".toList)).1).length =
        3 := by decide
    rw [he, hs] at hn
    cases hn
  have hf := (shape_fits_iff {} hk hm).2.2.2.2 hl
  rw [hv] at hf
  exact ⟨hk, hm, hv, hf⟩

/-- The shape of a token before a loose comma is that of a sequence. -/
theorem Value.shape_loose_comma :
    ofRaw {} "color".toList "a ,".toList = ⟨.sequence, "'a'".toList⟩ ∧
    (ofRaw {} "color".toList "a ,".toList).isArray = false ∧
    partsOf {} "color".toList "a ,".toList = [⟨[.string ['a']], false⟩] := by
  decide

end StyleObject
