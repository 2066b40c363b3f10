import StyleObject.Proofs.Nesting
import StyleObject.Proofs.Text.Squeeze
import StyleObject.Value.Basic

/-!
# Structured values

A structured value is written as parts with commas between them, each of which is tokens with
spaces between them. Its commas and spaces at the top are exactly these, so the parts and tokens are
found again, the shape says how many they are, and the text is nested as they are.
-/
namespace StyleObject

open Text Nesting

/-- A text that is one token of a value. -/
structure IsToken (t : Text) : Prop where
  ne_nil : t ≠ []
  trimmed : Trimmed t
  plain : ∀ c ∈ t, isSpace c = true → c = ' '
  single : ¬ [' ', ' '] <:+: t
  after_eq : ({} : Nesting).after t = {}
  noSpace : occurs ' ' t = false
  noComma : occurs ',' t = false

theorem isToken_iff {t : Text} :
    IsToken t ↔ t ≠ [] ∧ Trimmed t ∧ t.all (fun c => !isSpace c || c == ' ') ∧
      ¬ [' ', ' '] <:+: t ∧ ({} : Nesting).after t = {} ∧ occurs ' ' t = false ∧
      occurs ',' t = false := by
  have hs : t.all (fun c => !isSpace c || c == ' ') = true ↔
      ∀ c ∈ t, isSpace c = true → c = ' ' := by
    simp [List.all_eq_true, imp_iff_not_or]
  rw [hs]
  exact ⟨fun h => ⟨h.ne_nil, h.trimmed, h.plain, h.single, h.after_eq, h.noSpace, h.noComma⟩,
    fun ⟨hn, ht, hp, hi, ha, hs, hc⟩ => ⟨hn, ht, hp, hi, ha, hs, hc⟩⟩

instance (t : Text) : Decidable (IsToken t) := decidable_of_iff _ isToken_iff.symm

/-- The tokens of a part with a space between them. -/
def spaceSeparated (tokens : List Text) : Text := [' '].intercalate tokens

/-- The parts of a structured value. -/
structure Structured (parts : List (List Text)) : Prop where
  ne_nil : parts ≠ []
  part_ne_nil : ∀ p ∈ parts, p ≠ []
  token : ∀ p ∈ parts, ∀ t ∈ p, IsToken t
  /-- The last token does not end in the marker of importance. -/
  unmarked : ∀ p ∈ parts.getLast?, ∀ t ∈ p.getLast?, ¬ importantMarker <:+ t

instance (parts : List (List Text)) : Decidable (Structured parts) :=
  decidable_of_iff
    (parts ≠ [] ∧ (∀ p ∈ parts, p ≠ []) ∧ (∀ p ∈ parts, ∀ t ∈ p, IsToken t) ∧
      ∀ p ∈ parts.getLast?, ∀ t ∈ p.getLast?, ¬ importantMarker <:+ t)
    ⟨fun ⟨h₁, h₂, h₃, h₄⟩ => ⟨h₁, h₂, h₃, h₄⟩,
      fun h => ⟨h.ne_nil, h.part_ne_nil, h.token, h.unmarked⟩⟩

namespace Structured

/-- A structured value as it stands in a style sheet. -/
def source (parts : List (List Text)) : Text := commaSeparated (parts.map spaceSeparated)

/-- The shape that the numbers of parts and tokens make. -/
def shape (parts : List (List Text)) : Shape :=
  match parts with
  | [p] => if 1 < p.length then .sequence else .single
  | ps => if ps.all (1 < ·.length) then .listOfSequences else .list

/-- Whether a part of a value of `key` is written as an array. -/
def isArray (key : Text) (p : List Text) : Bool := key ≠ fontFamily && 1 < p.length

/-- A part of several tokens is the array of them. For the font family a part is one name. -/
def partText (key : Text) (p : List Text) : Text :=
  if key = fontFamily then (Literal.ofToken (spaceSeparated p)).text
  else match p with
    | [t] => (Literal.ofToken t).text
    | ts => inlineArray (ts.map fun t => (Literal.ofToken t).text)

/-- Several parts are the array of them, on lines of their own when one of them is an array. -/
def text (key : Text) (parts : List (List Text)) : Text :=
  match parts with
  | [p] => partText key p
  | ps =>
    if ps.any (isArray key) then lineArray (ps.map (partText key))
    else inlineArray (ps.map (partText key))

end Structured

theorem IsToken.tight {t : Text} (h : IsToken t) : Tight t := by
  have hb : isBlank ' ' = true := by decide
  refine ⟨h.plain, h.single, fun hf => ?_, fun hl => ?_⟩
  · exact absurd hb (by simp [h.trimmed.first ' ' hf])
  · exact absurd hb (by simp [h.trimmed.last ' ' hl])

section Part

variable {t : Text} {p : List Text}

theorem spaceSeparated_cons (t : Text) (ts : List Text) :
    spaceSeparated (t :: ts) = t ++ ts.flatMap (' ' :: ·) := intercalate_cons [' '] t ts

theorem closed_comma_space : Closed ',' [' '] := ⟨rfl, by decide⟩

/-- The text of a part is tight, trimmed and closed for the comma. -/
structure IsPart (t : Text) : Prop where
  ne_nil : t ≠ []
  trimmed : Trimmed t
  tight : Tight t
  closed : Closed ',' t

theorem IsToken.isPart (h : IsToken t) : IsPart t :=
  ⟨h.ne_nil, h.trimmed, h.tight, h.after_eq, h.noComma⟩

theorem IsPart.space {s : Text} (hs : IsPart s) (ht : IsPart t) : IsPart (s ++ ' ' :: t) := by
  refine ⟨by simp, ?_, hs.tight.space ht.tight hs.ne_nil ht.ne_nil, ?_⟩
  · exact hs.trimmed.append_append hs.ne_nil ht.trimmed ht.ne_nil [' ']
  · exact hs.closed.append (closed_comma_space.append ht.closed)

theorem isPart_spaceSeparated (hn : p ≠ []) (h : ∀ t ∈ p, IsToken t) :
    IsPart (spaceSeparated p) := by
  induction p with
  | nil => contradiction
  | cons t ts ih =>
    have ht := (h t List.mem_cons_self).isPart
    by_cases hts : ts = []
    · simpa [spaceSeparated, hts] using ht
    · rw [spaceSeparated, List.intercalate_cons_of_ne_nil hts, List.append_assoc]
      exact ht.space (ih hts fun x hx => h x (List.mem_cons_of_mem _ hx))

theorem IsToken.closed_space (h : IsToken t) : Closed ' ' t := ⟨h.after_eq, h.noSpace⟩

/-- A space stands at the top of a part exactly if it has several tokens. -/
theorem occurs_space_spaceSeparated (hn : p ≠ []) (h : ∀ t ∈ p, IsToken t) :
    occurs ' ' (spaceSeparated p) = decide (1 < p.length) := by
  cases p with
  | nil => contradiction
  | cons t ts =>
    have ht := (h t List.mem_cons_self).closed_space
    have hts : ∀ u ∈ ts, Closed ' ' u := fun u hu => (h u (List.mem_cons_of_mem _ hu)).closed_space
    rw [Bool.eq_iff_iff, spaceSeparated_cons, occurs_join rfl ht hts, decide_eq_true_iff,
      List.length_cons, Nat.lt_add_left_iff_pos, List.length_pos_iff]

/-- The tokens of a part are found again. -/
theorem segments_spaceSeparated (hn : p ≠ []) (h : ∀ t ∈ p, IsToken t) :
    segments ' ' (spaceSeparated p) = p := by
  cases p with
  | nil => contradiction
  | cons t ts =>
    have ht := (h t List.mem_cons_self).closed_space
    have hts : ∀ u ∈ ts, Closed ' ' u := fun u hu => (h u (List.mem_cons_of_mem _ hu)).closed_space
    have hm : (t :: ts).map tidy = t :: ts :=
      (List.map_congr_left fun u hu =>
        tidy_of_trimmed (h u hu).trimmed (h u hu).tight.notMem_lineFeed).trans (List.map_id _)
    rw [spaceSeparated_cons, segments, pieces_join rfl ht hts, hm,
      dropEmptyLast_of_forall fun u hu => (h u hu).ne_nil]

/-- Commas and spaces between parts make a tight text. -/
theorem tight_commaSeparated {ts : List Text} (h : ∀ t ∈ ts, IsPart t) :
    Tight (commaSeparated ts) := by
  induction ts with
  | nil => exact tight_nil
  | cons t ts ih =>
    have ht := h t List.mem_cons_self
    have hts : ∀ u ∈ ts, IsPart u := fun u hu => h u (List.mem_cons_of_mem _ hu)
    by_cases hn : ts = []
    · simpa [commaSeparated, hn] using ht.tight
    · have hc : Tight (t ++ [',']) := ht.tight.append (tight_singleton rfl)
      have hs := hc.space (ih hts) (by simp) (intercalate_ne_nil hn fun u hu => (hts u hu).ne_nil)
      rw [commaSeparated, List.intercalate_cons_of_ne_nil hn]
      simpa [commaSeparated] using hs

/-- The commas between parts are the only ones at the top, so the parts are found again. -/
theorem segments_commaSeparated {ts : List Text} (hn : ts ≠ []) (hp : ∀ t ∈ ts, IsPart t) :
    segments ',' (commaSeparated ts) = ts := by
  cases ts with
  | nil => contradiction
  | cons t ts =>
    have ht := hp t List.mem_cons_self
    have hts : ∀ u ∈ ts, IsPart u := fun u hu => hp u (List.mem_cons_of_mem _ hu)
    have he : commaSeparated (t :: ts) = t ++ (ts.map (' ' :: ·)).flatMap (',' :: ·) := by
      rw [commaSeparated, intercalate_cons, List.flatMap_map]
      rfl
    have hcl : ∀ u ∈ ts.map (' ' :: ·), Closed ',' u := by
      intro u hu
      obtain ⟨v, hv, rfl⟩ := List.mem_map.1 hu
      exact closed_comma_space.append (hts v hv).closed
    have hm : (ts.map (' ' :: ·)).map tidy = ts := by
      rw [List.map_map]
      refine (List.map_congr_left fun u hu => ?_).trans (List.map_id ts)
      exact tidy_space_append (hts u hu).trimmed (hts u hu).tight.notMem_lineFeed
    rw [he, segments, pieces_join rfl ht.closed hcl, List.map_cons, hm,
      tidy_of_trimmed ht.trimmed ht.tight.notMem_lineFeed,
      dropEmptyLast_of_forall fun u hu => (hp u hu).ne_nil]

/-- A part is read as its tokens, or for the font family as one name. -/
theorem ofText_spaceSeparated (key : Text) (hn : p ≠ []) (h : ∀ t ∈ p, IsToken t) :
    Part.ofText key (spaceSeparated p) =
      ⟨if key = fontFamily then [Literal.ofToken (spaceSeparated p)] else p.map Literal.ofToken,
        false⟩ := by
  have hs : squeeze (spaceSeparated p) = spaceSeparated p :=
    squeeze_of_tight (isPart_spaceSeparated hn h).tight
  rw [Part.ofText, Part.tokens, hs, segments_spaceSeparated hn h]
  split
  · rfl
  · cases p with
    | nil => contradiction
    | cons t ts => rfl

theorem isArray_ofText_spaceSeparated (key : Text) (hn : p ≠ []) (h : ∀ t ∈ p, IsToken t) :
    (Part.ofText key (spaceSeparated p)).isArray = Structured.isArray key p := by
  rw [ofText_spaceSeparated key hn h, Part.isArray, Structured.isArray]
  by_cases hk : key = fontFamily <;> simp [hk]

theorem text_ofText_spaceSeparated (key : Text) (hn : p ≠ []) (h : ∀ t ∈ p, IsToken t) :
    (Part.ofText key (spaceSeparated p)).text = Structured.partText key p := by
  rw [Part.text, isArray_ofText_spaceSeparated key hn h, ofText_spaceSeparated key hn h]
  by_cases hk : key = fontFamily
  · simp [Structured.isArray, Structured.partText, hk, Part.items, commaSeparated]
  · rw [if_neg hk]
    rcases p with _ | ⟨t, _ | ⟨u, us⟩⟩
    · contradiction
    · simp [Structured.isArray, Structured.partText, hk, Part.items, commaSeparated]
    · simp [Structured.isArray, Structured.partText, hk, Part.items, Function.comp_def]

end Part

theorem Part.render_of_one_lt {ps : List Part} (h : 1 < ps.length) :
    render ps =
      if ps.any Part.isArray then lineArray (ps.map Part.text)
      else inlineArray (ps.map Part.text) := by
  rcases ps with _ | ⟨p, _ | ⟨q, ps⟩⟩
  · contradiction
  · exact absurd h (lt_irrefl 1)
  · rfl

section Parts

variable {parts : List (List Text)} {key : Text}

namespace Structured

theorem isPart (h : Structured parts) : ∀ t ∈ parts.map spaceSeparated, IsPart t := by
  intro t ht
  obtain ⟨p, hp, rfl⟩ := List.mem_map.1 ht
  exact isPart_spaceSeparated (h.part_ne_nil p hp) (h.token p hp)

theorem squeeze_source (h : Structured parts) : squeeze (source parts) = source parts :=
  squeeze_of_tight (tight_commaSeparated h.isPart)

/-- No marker of importance stands behind a structured value. -/
theorem splitMarker_source (h : Structured parts) :
    Value.splitMarker (source parts) = (source parts, false) := by
  rw [Value.splitMarker]
  cases hm : importantMarker.isSuffixOf? (source parts) with
  | none => rfl
  | some body =>
    have hs : ' ' ∉ importantMarker := by decide
    have hsuf : importantMarker <:+ source parts := ⟨body, List.append_eq_of_isSuffixOf?_eq_some hm⟩
    have hp := List.getLast?_eq_some_getLast h.ne_nil
    have hpn := h.part_ne_nil _ (List.mem_of_getLast? hp)
    have ht := List.getLast?_eq_some_getLast hpn
    have hpart : importantMarker <:+ spaceSeparated (parts.getLast h.ne_nil) :=
      suffix_of_suffix_intercalate [','] hs hsuf (by simp [hp])
    exact absurd (suffix_of_suffix_intercalate [] hs hpart ht) (h.unmarked _ hp _ ht)

theorem segments_source (h : Structured parts) :
    segments ',' (source parts) = parts.map spaceSeparated :=
  segments_commaSeparated (by simpa using h.ne_nil) h.isPart

theorem shape_source (h : Structured parts) : Shape.ofText (source parts) = shape parts := by
  have ho : ∀ p ∈ parts, occurs ' ' (spaceSeparated p) = decide (1 < p.length) := fun p hp =>
    occurs_space_spaceSeparated (h.part_ne_nil p hp) (h.token p hp)
  rw [Shape.ofText, h.segments_source]
  rcases parts with _ | ⟨p, _ | ⟨q, ps⟩⟩
  · exact absurd rfl h.ne_nil
  · have ht : Text.trim (source [p]) = spaceSeparated p := by
      have hp := h.isPart (spaceSeparated p) (by simp)
      simp [source, commaSeparated, trim_of_trimmed hp.trimmed]
    simp [shape, ht, ho p List.mem_cons_self]
  · have ha : ((p :: q :: ps).map spaceSeparated).all (occurs ' ') =
        (p :: q :: ps).all (1 < ·.length) := by
      simpa [Function.comp_def] using congrArg (List.all · id) (List.map_congr_left ho)
    simpa [shape] using congrArg (if · then Shape.listOfSequences else Shape.list) ha

theorem partsOf_source (h : Structured parts) (options : Options) (key : Text) :
    Value.partsOf options key (source parts) =
      (parts.map spaceSeparated).map (Part.ofText key) := by
  rw [Value.partsOf, h.squeeze_source, h.splitMarker_source]
  simp only [Bool.false_and, Bool.false_eq_true, if_false]
  unfold Part.ofValue
  rw [h.segments_source]
  cases parts with
  | nil => exact absurd rfl h.ne_nil
  | cons p ps => rfl

theorem text_of_one_lt (hn : 1 < parts.length) :
    text key parts =
      if parts.any (isArray key) then lineArray (parts.map (partText key))
      else inlineArray (parts.map (partText key)) := by
  rcases parts with _ | ⟨p, _ | ⟨q, ps⟩⟩
  · contradiction
  · exact absurd hn (lt_irrefl 1)
  · rfl

theorem render_source (h : Structured parts) (key : Text) :
    Part.render ((parts.map spaceSeparated).map (Part.ofText key)) = text key parts := by
  have ht : ∀ p ∈ parts, (Part.ofText key (spaceSeparated p)).text = partText key p := fun p hp =>
    text_ofText_spaceSeparated key (h.part_ne_nil p hp) (h.token p hp)
  have ha : ∀ p ∈ parts, (Part.ofText key (spaceSeparated p)).isArray = isArray key p := fun p hp =>
    isArray_ofText_spaceSeparated key (h.part_ne_nil p hp) (h.token p hp)
  rw [List.map_map]
  have hts : (parts.map (Part.ofText key ∘ spaceSeparated)).map Part.text =
      parts.map (partText key) := by
    rw [List.map_map]
    exact List.map_congr_left ht
  have has : (parts.map (Part.ofText key ∘ spaceSeparated)).any Part.isArray =
      parts.any (isArray key) := by
    simpa [Function.comp_def] using congrArg (List.any · id) (List.map_congr_left ha)
  rcases parts with _ | ⟨p, _ | ⟨q, ps⟩⟩
  · exact absurd rfl h.ne_nil
  · exact ht p List.mem_cons_self
  · rw [Part.render_of_one_lt (by simp), text_of_one_lt (by simp), hts, has]

end Structured

/-- The shape and the text of a structured value are those of its parts and tokens. -/
theorem Value.ofRaw_source (options : Options) (key : Text) {parts : List (List Text)}
    (h : Structured parts) :
    ofRaw options key (Structured.source parts) =
      ⟨Structured.shape parts, Structured.text key parts⟩ := by
  rw [ofRaw, h.squeeze_source, h.splitMarker_source, h.shape_source, h.partsOf_source,
    h.render_source]

/-- The commas and spaces within parentheses and quotes belong to the tokens. -/
theorem Value.ofRaw_source_nested :
    Structured [["0".toList, "1px".toList, "f(a, b c)".toList], ["'d, e'".toList]] ∧
    ofRaw {} "boxShadow".toList "0 1px f(a, b c), 'd, e'".toList =
      ⟨.list, "[\n[0, 1, 'f(a, b c)'],\n'd, e'\n]".toList⟩ := by
  have h : Structured [["0".toList, "1px".toList, "f(a, b c)".toList], ["'d, e'".toList]] := by
    decide
  exact ⟨h, ofRaw_source {} "boxShadow".toList h⟩

end Parts

end StyleObject
