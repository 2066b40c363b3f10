import StyleObject.Proofs.Literal
import StyleObject.Proofs.Text.Affix

/-!
# What a literal keeps of its token

The unit of pixels and the quotes around a token are not part of its content. A number says as much
without its unit, and a literal as much without the quotes of its token. But the unit is taken from
every token that ends like one, and behind a single quote a double quote is taken too. So a token
without quotes is kept exactly if it is no longer than a numeral by the unit, or does not end in it,
and what stands between single quotes is kept exactly if no double quote is at its ends.
-/
namespace StyleObject

open Text

instance : DecidablePred IsNumeral := fun _ => decidable_of_iff _ Numeral.accepts_iff

namespace Text

variable {s t : Text} {c : Char}

/-- The text with each escaped quote as the quote alone. -/
def unescape : Text → Text
  | '\\' :: '\x27' :: r => '\x27' :: unescape r
  | c :: r => c :: unescape r
  | [] => []

theorem unescape_cons (ht : t.head? ≠ some '\x27') (c : Char) :
    unescape (c :: t) = c :: unescape t := by
  rw [unescape]
  rintro r - rfl
  exact ht rfl

/-- A quote is never the first character that is written. -/
theorem head?_escape_ne (t : Text) : (escape t).head? ≠ some '\x27' := by
  cases t with
  | nil => nofun
  | cons c r =>
    rw [escape_cons]
    split
    · nofun
    · next hc => simpa using hc

theorem unescape_escape (t : Text) : unescape (escape t) = t := by
  induction t with
  | nil => rfl
  | cons c r ih =>
    rw [escape_cons]
    split
    · next hq =>
      rw [hq]
      exact congrArg _ ih
    · rw [List.singleton_append, unescape_cons (head?_escape_ne r), ih]

theorem escape_injective : Function.Injective escape :=
  Function.LeftInverse.injective unescape_escape

theorem paired_of_notMem (h : '\\' ∉ t) : Paired t := by
  induction t with
  | nil => exact .nil
  | cons c r ih =>
    rw [List.mem_cons, not_or] at h
    exact .char (Ne.symm h.1) (ih h.2)

/-- A part of a text is written within the text as it is written alone. -/
theorem escape_isInfix (h : s <:+: t) : escape s <:+: escape t := by
  obtain ⟨a, b, rfl⟩ := h
  exact ⟨escape a, escape b, by rw [escape_append, escape_append]⟩

end Text

namespace Literal

/-- The quotes that may stand around a token. -/
def IsQuote (c : Char) : Prop := c = '\x27' ∨ c = '"'

instance : DecidablePred IsQuote := fun _ => inferInstanceAs (Decidable (_ ∨ _))

/-- A token without a quote at either end. -/
structure Unquoted (t : Text) : Prop where
  first : ∀ c ∈ t.head?, ¬ IsQuote c
  last : ∀ c ∈ t.getLast?, ¬ IsQuote c

theorem unquoted_iff {t : Text} :
    Unquoted t ↔ t.head?.all (¬ IsQuote ·) ∧ t.getLast?.all (¬ IsQuote ·) := by
  simp only [Option.all_eq_true, decide_eq_true_iff]
  exact ⟨fun h => ⟨h.first, h.last⟩, fun h => ⟨h.1, h.2⟩⟩

instance (t : Text) : Decidable (Unquoted t) := decidable_of_iff _ unquoted_iff.symm

/-- How a content is written. -/
def written (content : Text) : Text :=
  if Numeral.accepts content then content else singleQuoted content

variable {content body t : Text} {c q : Char}

theorem text_ofToken (t : Text) : (ofToken t).text = written (unquote (dropPixels t)) := by
  unfold ofToken written
  dsimp only
  split <;> rfl

theorem written_of_isNumeral (h : IsNumeral t) : written t = t := if_pos (Numeral.accepts_iff.2 h)

theorem written_of_not_isNumeral (h : ¬ IsNumeral t) : written t = singleQuoted t :=
  if_neg (mt Numeral.accepts_iff.1 h)

/-- A token is written as the numeral that its content is, or as the literal of its content. -/
theorem text_ofToken_cases (t : Text) :
    (IsNumeral (unquote (dropPixels t)) ∧ (ofToken t).text = unquote (dropPixels t)) ∨
      (ofToken t).text = singleQuoted (unquote (dropPixels t)) := by
  rw [text_ofToken]
  by_cases h : IsNumeral (unquote (dropPixels t))
  · exact Or.inl ⟨h, written_of_isNumeral h⟩
  · exact Or.inr (written_of_not_isNumeral h)

theorem not_isNumeral_of_mem (hc : c ∈ t)
    (h : c.isDigit = false ∧ c ≠ '+' ∧ c ≠ '-' ∧ c ≠ '.') : ¬ IsNumeral t := by
  intro hn
  have hm := Numeral.mem_of_isNumeral hn c hc
  simp [h.1, h.2.1, h.2.2.1, h.2.2.2] at hm

theorem not_isNumeral_of_quote (hq : IsQuote q) (h : q ∈ t) : ¬ IsNumeral t := by
  apply not_isNumeral_of_mem h
  rcases hq with rfl | rfl <;> decide

theorem not_isNumeral_singleQuoted (t : Text) : ¬ IsNumeral (singleQuoted t) :=
  not_isNumeral_of_quote (Or.inl rfl) List.mem_cons_self

theorem unquote_of_unquoted (h : Unquoted t) : unquote t = t := by
  have hs : '\x27' ∉ t.head? := fun hm => h.first _ hm (Or.inl rfl)
  have he : '\x27' ∉ t.getLast? := fun hm => h.last _ hm (Or.inl rfl)
  have hs' : '"' ∉ t.head? := fun hm => h.first _ hm (Or.inr rfl)
  have he' : '"' ∉ t.getLast? := fun hm => h.last _ hm (Or.inr rfl)
  rw [unquote, dropStart_singleton hs, dropEnd_singleton he, dropStart_singleton hs',
    dropEnd_singleton he']

theorem unquoted_of_isNumeral (h : IsNumeral t) : Unquoted t where
  first _ hc hq := not_isNumeral_of_quote hq (List.mem_of_head? hc) h
  last _ hc hq := not_isNumeral_of_quote hq (List.mem_of_getLast? hc) h

theorem unquote_isInfix (t : Text) : unquote t <:+: t := by
  unfold unquote
  refine (dropEnd_isPrefix _ _).isInfix.trans ?_
  refine (dropStart_suffix _ _).isInfix.trans ?_
  exact (dropEnd_isPrefix _ _).isInfix.trans (dropStart_suffix _ _).isInfix

section Pixels

/-- A text says all that the token says: it is the number of the token, to which the unit of pixels
is added back, or the literal of the whole token. -/
def SaysAll (token t : Text) : Prop :=
  (IsNumeral t ∧ (token = t ∨ token = t ++ ['p', 'x'])) ∨ t = singleQuoted token

instance (token t : Text) : Decidable (SaysAll token t) := inferInstanceAs (Decidable (_ ∨ _))

theorem saysAll_written (t : Text) : SaysAll t (written t) := by
  by_cases h : IsNumeral t
  · rw [written_of_isNumeral h]
    exact Or.inl ⟨h, Or.inl rfl⟩
  · exact Or.inr (written_of_not_isNumeral h)

/-- The literal of a text with a unit is longer than that of any part of the text. -/
theorem singleQuoted_append_ne (h : content <:+: t) :
    singleQuoted content ≠ singleQuoted (t ++ ['p', 'x']) := by
  intro he
  have hl := (escape_isInfix h).length_le
  have hn := congrArg List.length he
  simp [singleQuoted] at hn
  omega

/-- Where the unit is taken from a text, only a numeral says all that the text said. -/
theorem saysAll_written_unquote (t : Text) :
    SaysAll (t ++ ['p', 'x']) (written (unquote t)) ↔ IsNumeral t := by
  constructor
  · rintro (⟨hn, he | he⟩ | he)
    · -- A token that ends in the unit is no numeral itself.
      exact absurd (he ▸ hn) (not_isNumeral_of_mem (c := 'x') (by simp) (by decide))
    · exact List.append_cancel_right he ▸ hn
    · by_cases hc : IsNumeral (unquote t)
      · rw [written_of_isNumeral hc] at he
        exact absurd (he ▸ hc) (not_isNumeral_singleQuoted _)
      · rw [written_of_not_isNumeral hc] at he
        exact absurd he (singleQuoted_append_ne (unquote_isInfix t))
  · intro h
    rw [unquote_of_unquoted (unquoted_of_isNumeral h), written_of_isNumeral h]
    exact Or.inl ⟨h, Or.inr rfl⟩

/-- A token without quotes around it is said in full, as its number or as the literal of the whole
token, exactly if it does not end in the unit of pixels or is a numeral before that unit. -/
theorem saysAll_ofToken_iff (h : Unquoted t) :
    SaysAll t (ofToken t).text ↔ ∀ n, t = n ++ ['p', 'x'] → IsNumeral n := by
  rw [text_ofToken, dropPixels]
  by_cases hp : ['p', 'x'] <:+ t
  · obtain ⟨n, rfl⟩ := hp
    rw [dropEnd_append, saysAll_written_unquote]
    constructor
    · rintro hn m hm
      rwa [← List.append_cancel_right hm]
    · intro hn
      exact hn n rfl
  · rw [dropEnd_of_not_isSuffix hp, unquote_of_unquoted h]
    refine iff_of_true (saysAll_written t) fun n hn => ?_
    exact absurd ⟨n, hn.symm⟩ hp

/-- A length that starts with a numeral is said in full by the numeral. -/
theorem saysAll_ofToken_length :
    Unquoted "-1.5px".toList ∧ SaysAll "-1.5px".toList (ofToken "-1.5px".toList).text := by
  have hu : Unquoted "-1.5px".toList := by decide
  refine ⟨hu, (saysAll_ofToken_iff hu).2 fun n hn => ?_⟩
  have he : "-1.5".toList ++ ['p', 'x'] = n ++ ['p', 'x'] := hn
  rw [← List.append_cancel_right he]
  decide

/-- A length that starts with a point and a word that ends like a unit lose the unit, and a numeral
with a quote before the unit loses both and becomes a number. -/
theorem not_saysAll_ofToken :
    (Unquoted ".5px".toList ∧ (ofToken ".5px".toList).text = "'.5'".toList ∧
      ¬ SaysAll ".5px".toList (ofToken ".5px".toList).text) ∧
    (Unquoted "apx".toList ∧ (ofToken "apx".toList).text = "'a'".toList ∧
      ¬ SaysAll "apx".toList (ofToken "apx".toList).text) ∧
    (Unquoted "5'px".toList ∧ (ofToken "5'px".toList).text = "5".toList ∧
      ¬ SaysAll "5'px".toList (ofToken "5'px".toList).text) := by decide

end Pixels

section Quotes

/-- A literal that ends with its last character and that shows the content. -/
def Shows (content t : Text) : Prop :=
  ∃ body, t = '\x27' :: (body ++ ['\x27']) ∧ afterQuote? (body ++ ['\x27']) = some [] ∧
    unescape body = content

/-- A text stands for a content: a numeral stands for itself, and a literal for what it shows. -/
structure StandsFor (content t : Text) : Prop where
  number : IsNumeral content → t = content
  string : ¬ IsNumeral content → Shows content t

theorem shows_singleQuoted (h : '\\' ∉ t) : Shows t (singleQuoted t) :=
  ⟨escape t, rfl, (afterQuote?_escape_eq_some_nil t).2 (paired_of_notMem h), unescape_escape t⟩

theorem standsFor_written (h : '\\' ∉ t) : StandsFor t (written t) where
  number := written_of_isNumeral
  string hn := written_of_not_isNumeral hn ▸ shows_singleQuoted h

theorem Shows.unique {a b : Text} (ha : Shows a t) (hb : Shows b t) : a = b := by
  obtain ⟨r, rfl, -, rfl⟩ := ha
  obtain ⟨s, hs, -, rfl⟩ := hb
  rw [List.append_cancel_right (List.cons.inj hs).2]

theorem Shows.not_isNumeral (h : Shows content t) : ¬ IsNumeral t := by
  obtain ⟨r, rfl, -⟩ := h
  exact not_isNumeral_of_quote (Or.inl rfl) List.mem_cons_self

/-- A text stands for one content only. -/
theorem StandsFor.unique {a b : Text} (ha : StandsFor a t) (hb : StandsFor b t) : a = b := by
  by_cases hna : IsNumeral a
  · obtain rfl := ha.number hna
    by_cases hnb : IsNumeral b
    · exact hb.number hnb
    · exact absurd hna (hb.string hnb).not_isNumeral
  · by_cases hnb : IsNumeral b
    · obtain rfl := hb.number hnb
      exact absurd hnb (ha.string hna).not_isNumeral
    · exact (ha.string hna).unique (hb.string hnb)

/-- What is left of a text when a double quote is taken from each end. -/
def inner (body : Text) : Text := dropEnd ['"'] (dropStart ['"'] body)

theorem inner_isInfix (body : Text) : inner body <:+: body :=
  (dropEnd_isPrefix _ _).isInfix.trans (dropStart_suffix _ _).isInfix

/-- Nothing is taken exactly if there is no double quote at the ends. -/
theorem inner_eq_self_iff : inner body = body ↔ '"' ∉ body.head? ∧ '"' ∉ body.getLast? := by
  constructor
  · intro h
    have hs : '"' ∉ body.head? := by
      intro hm
      obtain ⟨r, rfl⟩ := List.head?_eq_some_iff.1 hm
      have hr : dropStart ['"'] ('"' :: r) = r := dropStart_append ['"'] r
      have hl := (dropEnd_isPrefix ['"'] r).length_le
      rw [inner, hr] at h
      rw [h, List.length_cons] at hl
      omega
    refine ⟨hs, fun hm => ?_⟩
    obtain ⟨r, rfl⟩ := List.getLast?_eq_some_iff.1 hm
    rw [inner, dropStart_singleton hs, dropEnd_append] at h
    simpa using congrArg List.length h
  · rintro ⟨hs, he⟩
    rw [inner, dropStart_singleton hs, dropEnd_singleton he]

/-- What a quoted token holds: behind single quotes the double quotes are taken too. -/
theorem content_quoted (hq : IsQuote q) (body : Text) :
    unquote (dropPixels (q :: (body ++ [q]))) = if q = '"' then body else inner body := by
  have hl : (q :: (body ++ [q])).getLast? = some q := by
    rw [← List.cons_append]
    exact List.getLast?_concat
  have hp : ¬ ['p', 'x'] <:+ q :: (body ++ [q]) := by
    rintro ⟨r, hr⟩
    rw [← hr, List.getLast?_append] at hl
    rcases hq with rfl | rfl <;> cases hl
  rw [dropPixels, dropEnd_of_not_isSuffix hp]
  rcases hq with rfl | rfl
  · have hs : dropStart ['\x27'] ('\x27' :: (body ++ ['\x27'])) = body ++ ['\x27'] :=
      dropStart_append ['\x27'] _
    rw [unquote, hs, dropEnd_append, if_neg (by decide)]
    rfl
  · -- The single quotes are looked for first, and the ends are double quotes.
    have hs : '\x27' ∉ ('"' :: (body ++ ['"'])).head? := by simp
    have he : '\x27' ∉ ('"' :: (body ++ ['"'])).getLast? := by simp [hl]
    have hd : dropStart ['"'] ('"' :: (body ++ ['"'])) = body ++ ['"'] := dropStart_append ['"'] _
    rw [unquote, dropStart_singleton hs, dropEnd_singleton he, hd, dropEnd_append, if_pos rfl]

/-- The literal of a quoted text without backslashes stands for the text between double quotes, and
for what is left between single quotes when the double quotes at their inner sides are taken too. So
it stands for what is between the quotes exactly if no such double quotes are there. -/
theorem standsFor_ofToken_iff (hq : IsQuote q) (hb : '\\' ∉ body) :
    StandsFor (if q = '"' then body else inner body) (ofToken (q :: (body ++ [q]))).text ∧
    (StandsFor body (ofToken (q :: (body ++ [q]))).text ↔
      q = '"' ∨ '"' ∉ body.head? ∧ '"' ∉ body.getLast?) := by
  have hc : '\\' ∉ if q = '"' then body else inner body := by
    split
    · exact hb
    · exact fun hm => hb ((inner_isInfix body).subset hm)
  have hs : StandsFor (if q = '"' then body else inner body)
      (ofToken (q :: (body ++ [q]))).text := by
    rw [text_ofToken, content_quoted hq]
    exact standsFor_written hc
  refine ⟨hs, ?_⟩
  by_cases hd : q = '"'
  · rw [if_pos hd] at hs
    exact iff_of_true hs (Or.inl hd)
  · rw [if_neg hd] at hs
    rw [or_iff_right hd, ← inner_eq_self_iff]
    constructor
    · intro h
      exact hs.unique h
    · intro h
      rwa [h] at hs

/-- Single quotes within double quotes are kept, at the ends too. -/
theorem standsFor_ofToken_single :
    IsQuote '"' ∧ '\\' ∉ "'it's'".toList ∧
    StandsFor "'it's'".toList (ofToken ('"' :: ("'it's'".toList ++ ['"']))).text := by
  have hq : IsQuote '"' := by decide
  have hb : '\\' ∉ "'it's'".toList := by decide
  exact ⟨hq, hb, (standsFor_ofToken_iff hq hb).2.2 (Or.inl rfl)⟩

/-- Double quotes within single quotes are lost at the ends, and with them a string may become a
number. -/
theorem not_standsFor_ofToken :
    (IsQuote '\x27' ∧ '\x27' ∉ "\"a\"".toList ∧ '\\' ∉ "\"a\"".toList ∧
      (ofToken "'\"a\"'".toList).text = "'a'".toList ∧
      ¬ StandsFor "\"a\"".toList (ofToken "'\"a\"'".toList).text) ∧
    ('\x27' ∉ "\"5\"".toList ∧ '\\' ∉ "\"5\"".toList ∧
      (ofToken "'\"5\"'".toList).text = "5".toList ∧
      ¬ StandsFor "\"5\"".toList (ofToken "'\"5\"'".toList).text) := by
  have ha : (ofToken "'\"a\"'".toList).text = written ['a'] := by decide
  have hn : (ofToken "'\"5\"'".toList).text = written ['5'] := by decide
  refine ⟨⟨by decide, by decide, by decide, by decide, fun h => ?_⟩, by decide, by decide,
    by decide, fun h => ?_⟩
  · rw [ha] at h
    exact absurd ((standsFor_written (by decide)).unique h) (by decide)
  · rw [hn] at h
    exact absurd ((standsFor_written (by decide)).unique h) (by decide)

end Quotes

end Literal

end StyleObject
