import StyleObject.Proofs.Numeral

/-!
# Numerals by combinators

A parser for numerals is put together from an optional sign, digits, and an optional fraction. What
the combinators do is laid down by laws: an optional parser that fails takes nothing back from the
text, and a text is consumed whole or not accepted. Under these laws the parser accepts what is
accepted as a numeral, although it may stop before a point and come back to it.
-/
namespace StyleObject.Numeral

/-- A parser looks at the start of a text. It gives what it has found and the rest of the text, or
fails, and then another parser may be tried. -/
abbrev Parser (α : Type) := Text → Option (α × Text)

/-- The combinators that a parser for numerals is put together from. -/
structure Combinators where
  /-- One of some characters. -/
  oneOf : Text → Parser Char
  /-- A given character. -/
  char : Char → Parser Char
  /-- As many digits as there are, and at least one. -/
  digits : Parser Text
  /-- What a parser finds, or else nothing. -/
  opt {α : Type} : Parser α → Parser (Option α)
  pair {α β : Type} : Parser α → Parser β → Parser (α × β)
  triple {α β γ : Type} : Parser α → Parser β → Parser γ → Parser (α × β × γ)
  /-- The text that a parser goes over. -/
  recognize {α : Type} : Parser α → Parser Text
  /-- What a parser finds in a whole text. -/
  allConsuming {α : Type} : Parser α → Parser α

namespace Combinators

/-- A numeral is a sign or none, digits, and a point with digits or nothing. -/
def numeral (k : Combinators) : Parser Text :=
  k.recognize (k.triple (k.opt (k.oneOf ['+', '-'])) k.digits (k.opt (k.pair (k.char '.') k.digits)))

/-- Whether a whole text is a numeral. -/
def accepts (k : Combinators) (t : Text) : Bool := (k.allConsuming k.numeral t).isSome

/-- What the combinators do. -/
structure Lawful (k : Combinators) : Prop where
  oneOf_found {cs r : Text} {c : Char} : c ∈ cs → k.oneOf cs (c :: r) = some (c, r)
  oneOf_failed {cs t : Text} : (∀ c ∈ t.head?, c ∉ cs) → k.oneOf cs t = none
  char_found {c : Char} {r : Text} : k.char c (c :: r) = some (c, r)
  char_failed {c : Char} {t : Text} : c ∉ t.head? → k.char c t = none
  digits_found {w r : Text} :
    IsDigits w → (∀ c ∈ r.head?, c.isDigit = false) → k.digits (w ++ r) = some (w, r)
  digits_failed {t : Text} : (∀ c ∈ t.head?, c.isDigit = false) → k.digits t = none
  opt_found {α : Type} {p : Parser α} {t r : Text} {a : α} :
    p t = some (a, r) → k.opt p t = some (some a, r)
  /-- A parser that fails after some characters leaves them in the text. -/
  opt_failed {α : Type} {p : Parser α} {t : Text} : p t = none → k.opt p t = some (none, t)
  pair_eq {α β : Type} (p : Parser α) (q : Parser β) (t : Text) :
    k.pair p q t = do
      let (a, r) ← p t
      let (b, s) ← q r
      some ((a, b), s)
  triple_eq {α β γ : Type} (p : Parser α) (q : Parser β) (o : Parser γ) (t : Text) :
    k.triple p q o t = do
      let (a, r) ← p t
      let (b, s) ← q r
      let (c, u) ← o s
      some ((a, b, c), u)
  recognize_found {α : Type} {p : Parser α} {t w r : Text} {a : α} :
    p t = some (a, r) → t = w ++ r → k.recognize p t = some (w, r)
  recognize_failed {α : Type} {p : Parser α} {t : Text} : p t = none → k.recognize p t = none
  allConsuming_found {α : Type} {p : Parser α} {t : Text} {a : α} :
    p t = some (a, []) → k.allConsuming p t = some (a, [])
  /-- A parser that leaves a rest has not found anything in the whole text. -/
  allConsuming_rest {α : Type} {p : Parser α} {t r : Text} {a : α} {c : Char} :
    p t = some (a, c :: r) → k.allConsuming p t = none
  allConsuming_failed {α : Type} {p : Parser α} {t : Text} :
    p t = none → k.allConsuming p t = none

/-- The text without a fraction at its start. A point without digits behind it is none. -/
def dropFraction : Text → Text
  | '.' :: f => if f.takeWhile Char.isDigit = [] then '.' :: f else f.dropWhile Char.isDigit
  | t => t

variable {t : Text}

theorem dropSign_suffix (t : Text) : dropSign t <:+ t := by
  unfold dropSign
  split
  · exact List.suffix_cons _ _
  · exact List.suffix_cons _ _
  · exact List.suffix_refl t

theorem dropFraction_suffix (t : Text) : dropFraction t <:+ t := by
  unfold dropFraction
  split
  · split
    · exact List.suffix_refl _
    · exact (List.dropWhile_suffix _).trans (List.suffix_cons _ _)
  · exact List.suffix_refl t

theorem isDigit_of_mem_head? (ht : t.takeWhile Char.isDigit = []) :
    ∀ c ∈ t.head?, c.isDigit = false := by
  intro c hc
  have h := congrArg List.head? ht
  rw [List.head?_takeWhile, Option.mem_def.1 hc] at h
  simpa using h

theorem isDigits_takeWhile (h : t.takeWhile Char.isDigit ≠ []) :
    IsDigits (t.takeWhile Char.isDigit) :=
  ⟨h, fun _ hc => List.mem_takeWhile_imp hc⟩

theorem isDigits_iff_dropWhile (h : t.takeWhile Char.isDigit ≠ []) :
    IsDigits t ↔ t.dropWhile Char.isDigit = [] := by
  rw [List.dropWhile_eq_nil_iff]
  refine ⟨IsDigits.digit, fun hd => ⟨?_, hd⟩⟩
  rintro rfl
  exact h rfl

theorem dropFraction_eq_nil_iff :
    dropFraction t = [] ↔ t = [] ∨ ∃ f, t = '.' :: f ∧ IsDigits f := by
  unfold dropFraction
  split
  · next f =>
    split
    · next hf =>
      have hd : ¬ IsDigits f := fun hd => hd.ne_nil ((takeWhile_digits hd).symm.trans hf)
      simp [hd]
    · next hf => simp [isDigits_iff_dropWhile hf]
  · next hp =>
    refine ⟨Or.inl, ?_⟩
    rintro (h | ⟨f, hf, -⟩)
    · exact h
    · exact absurd hf (hp f)

/-- An unsigned numeral is digits with nothing behind them, or nothing but a fraction. -/
theorem isUnsigned_iff_dropFraction : isUnsigned t = true ↔
    t.takeWhile Char.isDigit ≠ [] ∧ dropFraction (t.dropWhile Char.isDigit) = [] := by
  have hw : IsDigits (t.takeWhile Char.isDigit) ↔ t.takeWhile Char.isDigit ≠ [] :=
    ⟨IsDigits.ne_nil, isDigits_takeWhile⟩
  rw [isUnsigned, Bool.and_eq_true, isDigits_iff, hw, dropFraction_eq_nil_iff]
  refine and_congr_right fun _ => ?_
  split
  · next hr => simp [hr]
  · next f hr => simp [hr, isDigits_iff]
  · next hn hp =>
    refine iff_of_false Bool.false_ne_true ?_
    rintro (h | ⟨f, hf, -⟩)
    · exact hn h
    · exact hp f hf

namespace Lawful

variable {k : Combinators}

theorem digits_eq_none (h : k.Lawful) (ht : t.takeWhile Char.isDigit = []) : k.digits t = none :=
  h.digits_failed (isDigit_of_mem_head? ht)

theorem digits_eq_some (h : k.Lawful) (ht : t.takeWhile Char.isDigit ≠ []) :
    k.digits t = some (t.takeWhile Char.isDigit, t.dropWhile Char.isDigit) := by
  have hr : ∀ c ∈ (t.dropWhile Char.isDigit).head?, c.isDigit = false := by
    intro c hc
    have h := List.head?_dropWhile_not Char.isDigit t
    rwa [Option.mem_def.1 hc] at h
  have hs := h.digits_found (isDigits_takeWhile ht) hr
  rwa [List.takeWhile_append_dropWhile] at hs

theorem exists_sign (h : k.Lawful) (t : Text) :
    ∃ sign, k.opt (k.oneOf ['+', '-']) t = some (sign, dropSign t) := by
  unfold dropSign
  split
  · exact ⟨_, h.opt_found (h.oneOf_found (by decide))⟩
  · exact ⟨_, h.opt_found (h.oneOf_found (by decide))⟩
  · next hp hm =>
    refine ⟨none, h.opt_failed (h.oneOf_failed fun c hc hs => ?_)⟩
    obtain ⟨r, rfl⟩ : ∃ r, t = c :: r := List.head?_eq_some_iff.1 hc
    simp only [List.mem_cons, List.not_mem_nil, or_false] at hs
    rcases hs with rfl | rfl
    · exact hp r rfl
    · exact hm r rfl

theorem exists_fraction (h : k.Lawful) (t : Text) :
    ∃ fraction, k.opt (k.pair (k.char '.') k.digits) t = some (fraction, dropFraction t) := by
  unfold dropFraction
  split
  · next f =>
    split
    · next hf =>
      -- The point was read before the digits failed, and is given back.
      refine ⟨none, h.opt_failed ?_⟩
      rw [h.pair_eq, h.char_found]
      simp [h.digits_eq_none hf]
    · next hf =>
      refine ⟨some ('.', f.takeWhile Char.isDigit), h.opt_found ?_⟩
      rw [h.pair_eq, h.char_found]
      simp [h.digits_eq_some hf]
  · next hp =>
    refine ⟨none, h.opt_failed ?_⟩
    have hc : '.' ∉ t.head? := fun hc => by
      obtain ⟨r, rfl⟩ := List.head?_eq_some_iff.1 hc
      exact hp r rfl
    rw [h.pair_eq, h.char_failed hc]
    rfl

theorem numeral_eq_none (h : k.Lawful) (hd : (dropSign t).takeWhile Char.isDigit = []) :
    k.numeral t = none := by
  obtain ⟨sign, hs⟩ := h.exists_sign t
  refine h.recognize_failed ?_
  rw [h.triple_eq, hs]
  simp [h.digits_eq_none hd]

theorem exists_numeral (h : k.Lawful) (hd : (dropSign t).takeWhile Char.isDigit ≠ []) :
    ∃ w, k.numeral t = some (w, dropFraction ((dropSign t).dropWhile Char.isDigit)) := by
  obtain ⟨sign, hs⟩ := h.exists_sign t
  obtain ⟨fraction, hf⟩ := h.exists_fraction ((dropSign t).dropWhile Char.isDigit)
  obtain ⟨w, hw⟩ : dropFraction ((dropSign t).dropWhile Char.isDigit) <:+ t :=
    (dropFraction_suffix _).trans ((List.dropWhile_suffix _).trans (dropSign_suffix t))
  refine ⟨w, ?_⟩
  have ht : k.triple (k.opt (k.oneOf ['+', '-'])) k.digits
      (k.opt (k.pair (k.char '.') k.digits)) t =
        some ((sign, (dropSign t).takeWhile Char.isDigit, fraction),
          dropFraction ((dropSign t).dropWhile Char.isDigit)) := by
    rw [h.triple_eq, hs]
    simp only [h.digits_eq_some hd, hf, Option.bind_eq_bind, Option.bind_some]
  exact h.recognize_found ht hw.symm

/-- The parser accepts what is accepted as a numeral. -/
theorem accepts_eq (h : k.Lawful) (t : Text) : k.accepts t = Numeral.accepts t := by
  rw [Bool.eq_iff_iff, Numeral.accepts, isUnsigned_iff_dropFraction, Combinators.accepts]
  by_cases hd : (dropSign t).takeWhile Char.isDigit = []
  · simp [h.allConsuming_failed (h.numeral_eq_none hd), hd]
  · obtain ⟨w, hw⟩ := h.exists_numeral hd
    cases hr : dropFraction ((dropSign t).dropWhile Char.isDigit) with
    | nil => simp [h.allConsuming_found (hr ▸ hw), hd]
    | cons c r => simp [h.allConsuming_rest (hr ▸ hw)]

end Lawful

/-- Combinators that do what the laws say. -/
def plain : Combinators where
  oneOf cs
    | [] => none
    | c :: r => if c ∈ cs then some (c, r) else none
  char c
    | [] => none
    | d :: r => if d = c then some (d, r) else none
  digits t :=
    if t.takeWhile Char.isDigit = [] then none
    else some (t.takeWhile Char.isDigit, t.dropWhile Char.isDigit)
  opt p t :=
    match p t with
    | some (a, r) => some (some a, r)
    | none => some (none, t)
  pair p q t := do
    let (a, r) ← p t
    let (b, s) ← q r
    some ((a, b), s)
  triple p q o t := do
    let (a, r) ← p t
    let (b, s) ← q r
    let (c, u) ← o s
    some ((a, b, c), u)
  recognize p t := (p t).map fun (_, r) => (t.take (t.length - r.length), r)
  allConsuming p t :=
    match p t with
    | some (a, []) => some (a, [])
    | _ => none

theorem lawful_plain : plain.Lawful where
  oneOf_found hc := if_pos hc
  oneOf_failed {cs t} hc := by
    cases t with
    | nil => rfl
    | cons c r => exact if_neg (hc c rfl)
  char_found := if_pos rfl
  char_failed {c t} hc := by
    cases t with
    | nil => rfl
    | cons d r => exact if_neg fun hd => hc (congrArg some hd)
  digits_found {w r} hw hr := by
    have hd : r.takeWhile Char.isDigit = [] ∧ r.dropWhile Char.isDigit = r := by
      cases r with
      | nil => exact ⟨rfl, rfl⟩
      | cons c r => simp [hr c rfl]
    have hn : (w ++ r).takeWhile Char.isDigit = w := by
      rw [List.takeWhile_append_of_pos hw.digit, hd.1, List.append_nil]
    simp only [plain, hn, hw.ne_nil, if_false, List.dropWhile_append_of_pos hw.digit, hd.2]
  digits_failed {t} ht := by
    cases t with
    | nil => rfl
    | cons c r => simp [plain, ht c rfl]
  opt_found h := by simp [plain, h]
  opt_failed h := by simp [plain, h]
  pair_eq _ _ _ := rfl
  triple_eq _ _ _ _ := rfl
  recognize_found h ht := by
    subst ht
    simp [plain, h]
  recognize_failed h := by simp [plain, h]
  allConsuming_found h := by simp [plain, h]
  allConsuming_rest h := by simp [plain, h]
  allConsuming_failed h := by simp [plain, h]

end Combinators

end StyleObject.Numeral
