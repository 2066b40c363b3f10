import StyleObject.Proofs.Object.Grammar
import StyleObject.Proofs.Text.Join

/-!
# Reading an object back

A reader that knows the indent cuts the text of an object at the commas, and every item at its
colon, where these stand outside of literals and arrays. What may stand in a key or in a value never
holds such a comma or colon, so the reader finds the fields of every object, and no text is an
object with other fields.
-/
namespace StyleObject.Grammar

/-- Where a reader stands: at a depth of arrays, outside of literals, in one, or behind a backslash
in one. -/
inductive Place where
  | plain (depth : Nat)
  | quoted (depth : Nat)
  | escaped (depth : Nat)
  deriving DecidableEq, Repr

/-- The place behind one more character. -/
def Place.next : Place → Char → Place
  | .plain d, c =>
    if c = '\x27' then .quoted d
    else if c = '[' then .plain (d + 1)
    else if c = ']' then .plain (d - 1)
    else .plain d
  | .quoted d, c => if c = '\x27' then .plain d else if c = '\\' then .escaped d else .quoted d
  | .escaped d, _ => .quoted d

/-- The text between the marks that stand outside of literals and arrays. -/
def chunks (mark : Char) (p : Place) : Text → List Text
  | [] => [[]]
  | c :: r =>
    if p = .plain 0 ∧ c = mark then [] :: chunks mark p r
    else (chunks mark (p.next c) r).modifyHead (c :: ·)

/-- The text without the `n` characters behind each line feed, and without `k` at its start. -/
def unindentFrom (n : Nat) : Nat → Text → Text
  | _, [] => []
  | k + 1, _ :: r => unindentFrom n k r
  | 0, c :: r => c :: unindentFrom n (if c = '\n' then n else 0) r

/-- The field of an item. -/
def readItem? (n : Nat) (item : Text) : Option Field :=
  match (indentLines n ['\n']).isPrefixOf? item with
  | none => none
  | some r =>
    match chunks ':' (.plain 0) r with
    | [key, ' ' :: value] => some ⟨key, unindentFrom n 0 value⟩
    | _ => none

/-- The fields of an object that is written with indent `n`. -/
def read? (n : Nat) (t : Text) : Option (List Field) :=
  match t with
  | '\x7b' :: r =>
    let items := chunks ',' (.plain 0) r
    if items.getLast? = some ['\n', '\x7d'] then items.dropLast.mapM (readItem? n) else none
  | _ => none

/-- The characters that end a key or an item. -/
def IsMark (c : Char) : Prop := c = ':' ∨ c = ','

/-- A reader goes over the text without the mark outside of literals and arrays. -/
inductive Passes (mark : Char) : Place → Text → Place → Prop where
  | nil (p : Place) : Passes mark p [] p
  | cons {p q : Place} {c : Char} {t : Text} (h : ¬ (p = .plain 0 ∧ c = mark))
    (ht : Passes mark (p.next c) t q) : Passes mark p (c :: t) q

variable {p q r : Place} {n d : Nat} {mark : Char} {s t : Text}

namespace Passes

theorem append (hs : Passes mark p s q) (ht : Passes mark q t r) : Passes mark p (s ++ t) r := by
  induction hs with
  | nil p => exact ht
  | cons h _ ih => exact .cons h (ih ht)

/-- Outside of literals a reader stays where it is, if there are no quotes and brackets, and not the
mark unless it is in an array. -/
theorem of_forall (h : ∀ c ∈ t, c ≠ '\x27' ∧ c ≠ '[' ∧ c ≠ ']') (hm : d = 0 → mark ∉ t) :
    Passes mark (.plain d) t (.plain d) := by
  induction t with
  | nil => exact .nil _
  | cons c r ih =>
    obtain ⟨hq, ho, hc⟩ := h c List.mem_cons_self
    have hn : (Place.plain d).next c = .plain d := by simp [Place.next, hq, ho, hc]
    refine .cons (fun ⟨hp, hs⟩ => ?_) ?_
    · exact hm (Place.plain.inj hp) (hs ▸ List.mem_cons_self)
    · rw [hn]
      exact ih (fun x hx => h x (List.mem_cons_of_mem _ hx))
        fun hd hx => hm hd (List.mem_cons_of_mem _ hx)

/-- The glue of an array is passed within it. -/
theorem glue (h : ∀ c ∈ t, c ≠ '\x27' ∧ c ≠ '[' ∧ c ≠ ']') :
    Passes mark (.plain (d + 1)) t (.plain (d + 1)) :=
  of_forall h fun hd => absurd hd (Nat.succ_ne_zero d)

theorem body (h : IsBody t) : Passes mark (.quoted d) t (.quoted d) := by
  induction h with
  | nil => exact .nil _
  | char hq hb _ _ ih =>
    refine .cons (by simp) ?_
    rwa [Place.next, if_neg hq, if_neg hb]
  | quote _ ih => exact .cons (by simp) (.cons (by simp [Place.next]) ih)

/-- Texts within an array are passed, with whatever stands between them. -/
theorem intercalate {sep : Text} {ts : List Text} (hs : Passes mark p sep p)
    (h : ∀ t ∈ ts, Passes mark p t p) : Passes mark p (sep.intercalate ts) p := by
  induction ts with
  | nil => exact .nil _
  | cons t ts ih =>
    have ht := h t List.mem_cons_self
    have hts : ∀ u ∈ ts, Passes mark p u p := fun u hu => h u (List.mem_cons_of_mem _ hu)
    by_cases hn : ts = []
    · simpa [hn] using ht
    · rw [List.intercalate_cons_of_ne_nil hn]
      exact (ht.append hs).append (ih hts)

theorem spaces (hp : p.next ' ' = p) (hm : mark ≠ ' ') (k : Nat) :
    Passes mark p (List.replicate k ' ') p := by
  induction k with
  | zero => exact .nil _
  | succ k ih =>
    refine .cons (fun h => hm h.2.symm) ?_
    rwa [hp]

/-- The indent does not move the reader. -/
theorem indentLines (hm : mark ≠ ' ') (h : Passes mark p t q) :
    Passes mark p (indentLines n t) q := by
  induction h with
  | nil p => exact .nil p
  | @cons p q c t hc _ ih =>
    by_cases hl : c = '\n'
    · subst hl
      have hs : (p.next '\n').next ' ' = p.next '\n' := by cases p <;> rfl
      exact .cons hc ((spaces hs hm n).append ih)
    · rw [indentLines_cons, if_neg hl]
      exact .cons hc ih

section Mark

variable (hm : IsMark mark)
include hm

theorem literal (h : IsLiteral t) : Passes mark (.plain d) t (.plain d) := by
  have hq : mark ≠ '\x27' := by rcases hm with rfl | rfl <;> decide
  cases h with
  | quoted h =>
    have hclose : Passes mark (.quoted d) ['\x27'] (.plain d) := .cons (by simp) (.nil _)
    exact .cons (fun h => hq h.2.symm) ((body h).append hclose)

theorem numeral (h : IsNumeral t) : Passes mark (.plain d) t (.plain d) := by
  refine of_forall (fun c hc => ?_) fun _ hc => ?_
  · rcases Numeral.mem_of_isNumeral h c hc with hd | rfl | rfl | rfl
    · refine ⟨?_, ?_, ?_⟩ <;> (rintro rfl; exact absurd hd (by decide))
    all_goals decide
  · have hn := Numeral.mem_of_isNumeral h mark hc
    rcases hm with rfl | rfl <;> exact absurd hn (by decide)

theorem key (h : IsKey t) : Passes mark (.plain d) t (.plain d) := by
  cases h with
  | literal h => exact literal hm h
  | identifier h =>
    refine of_forall (fun c hc => ?_) fun _ hc => ?_
    · have hp := isIdentifierPart_of_mem h hc
      refine ⟨?_, ?_, ?_⟩ <;> (rintro rfl; exact absurd hp (by decide))
    · have hp := isIdentifierPart_of_mem h hc
      rcases hm with rfl | rfl <;> exact absurd hp (by decide)

/-- Brackets around a text that is passed within an array. -/
theorem brackets (h : Passes mark (.plain (d + 1)) t (.plain (d + 1))) :
    Passes mark (.plain d) ('[' :: (t ++ [']'])) (.plain d) := by
  have ho : mark ≠ '[' := by rcases hm with rfl | rfl <;> decide
  have hclose : Passes mark (.plain (d + 1)) [']'] (.plain d) := .cons (by simp) (.nil _)
  exact .cons (fun h => ho h.2.symm) (h.append hclose)

theorem value (h : IsValue t) : Passes mark (.plain d) t (.plain d) := by
  induction h generalizing d with
  | numeral h => exact numeral hm h
  | literal h => exact literal hm h
  | inlineArray _ _ ih => exact brackets hm (intercalate (glue (by simp)) fun t ht => ih t ht)
  | lineArray _ _ ih =>
    have hf : Passes mark (.plain (d + 1)) ['\n'] (.plain (d + 1)) := glue (by simp)
    have hs : Passes mark (.plain (d + 1)) [',', '\n'] (.plain (d + 1)) := glue (by simp)
    have hi := intercalate hs fun t ht => ih t ht
    simpa [StyleObject.lineArray] using brackets hm ((hf.append hi).append hf)

/-- What stands behind the colon of an item. -/
theorem colon_value (h : IsValue t) :
    Passes mark (.plain 0) (' ' :: Grammar.indentLines n t) (.plain 0) := by
  have hs : mark ≠ ' ' := by rcases hm with rfl | rfl <;> decide
  exact .cons (fun h => hs h.2.symm) ((value hm h).indentLines hs)

end Mark

/-- The colon of an item is no comma, so a reader of items goes over the whole item. -/
theorem itemText {f : Field} (hk : IsKey f.key) (hv : IsValue f.value) :
    Passes ',' (.plain 0) (itemText n f) (.plain 0) := by
  have hl : Passes ',' (.plain 0) (Grammar.indentLines n ['\n']) (.plain 0) :=
    indentLines (by decide) (of_forall (by simp) (by decide))
  have hc : Passes ',' (.plain 0) [':', ' '] (.plain 0) := of_forall (by simp) (by decide)
  have hm : IsMark ',' := Or.inr rfl
  have hi : Passes ',' (.plain 0) (Grammar.indentLines n f.value) (.plain 0) :=
    (value hm hv).indentLines (by decide)
  exact ((hl.append (key hm hk)).append hc).append hi

end Passes

/-- A text that is passed belongs to the first chunk. -/
theorem chunks_append (h : Passes mark p s q) (t : Text) :
    chunks mark p (s ++ t) = (chunks mark q t).modifyHead (s ++ ·) := by
  induction h with
  | nil p => cases hc : chunks mark p t <;> simp [hc]
  | cons hc _ ih =>
    rw [List.cons_append, chunks, if_neg hc, ih, List.modifyHead_modifyHead]
    rfl

/-- The mark behind a text that is passed ends the first chunk. -/
theorem chunks_mark (h : Passes mark (.plain 0) s (.plain 0)) (t : Text) :
    chunks mark (.plain 0) (s ++ mark :: t) = s :: chunks mark (.plain 0) t := by
  rw [chunks_append h, chunks, if_pos ⟨rfl, rfl⟩, List.modifyHead_cons, List.append_nil]

theorem chunks_of_passes (h : Passes mark p s q) : chunks mark p s = [s] := by
  have hc := chunks_append h []
  rwa [List.append_nil, chunks, List.modifyHead_cons, List.append_nil] at hc

theorem unindentFrom_spaces (n k : Nat) (t : Text) :
    unindentFrom n k (List.replicate k ' ' ++ t) = unindentFrom n 0 t := by
  induction k with
  | zero => rfl
  | succ k ih => exact ih

theorem unindentFrom_indentLines (n : Nat) (t : Text) :
    unindentFrom n 0 (indentLines n t) = t := by
  induction t with
  | nil => rfl
  | cons c r ih =>
    by_cases hl : c = '\n'
    · subst hl
      rw [indentLines_cons, if_pos rfl, List.cons_append, unindentFrom, if_pos rfl,
        unindentFrom_spaces, ih]
    · rw [indentLines_cons, if_neg hl, List.singleton_append, unindentFrom, if_neg hl, ih]

theorem readItem?_itemText {f : Field} (hk : IsKey f.key) (hv : IsValue f.value) :
    readItem? n (itemText n f) = some f := by
  have hm : IsMark ':' := Or.inl rfl
  have hp : (indentLines n ['\n']).isPrefixOf? (itemText n f) =
      some (f.key ++ ':' :: ' ' :: indentLines n f.value) := by
    rw [List.isPrefixOf?_eq_some_iff_append_eq, itemText]
    simp only [List.append_assoc, List.cons_append, List.nil_append]
  have hc : chunks ':' (.plain 0) (f.key ++ ':' :: ' ' :: indentLines n f.value) =
      [f.key, ' ' :: indentLines n f.value] := by
    rw [chunks_mark (Passes.key hm hk), chunks_of_passes (Passes.colon_value hm hv)]
  rw [readItem?, hp]
  simp only [hc, unindentFrom_indentLines]

/-- The commas at the top of an object end its items. -/
theorem chunks_items {fs : List Field} (hk : ∀ f ∈ fs, IsKey f.key)
    (hv : ∀ f ∈ fs, IsValue f.value) :
    chunks ',' (.plain 0) ((fs.flatMap fun f => itemText n f ++ [',']) ++ ['\n', '\x7d']) =
      fs.map (itemText n) ++ [['\n', '\x7d']] := by
  induction fs with
  | nil => rfl
  | cons f fs ih =>
    have hi : Passes ',' (.plain 0) (itemText n f) (.plain 0) :=
      .itemText (hk f List.mem_cons_self) (hv f List.mem_cons_self)
    rw [List.flatMap_cons, List.append_assoc, List.append_assoc, List.singleton_append,
      chunks_mark hi, ih (fun g hg => hk g (List.mem_cons_of_mem _ hg))
        fun g hg => hv g (List.mem_cons_of_mem _ hg), List.map_cons, List.cons_append]

theorem mapM_readItem? {fs : List Field} (hk : ∀ f ∈ fs, IsKey f.key)
    (hv : ∀ f ∈ fs, IsValue f.value) : (fs.map (itemText n)).mapM (readItem? n) = some fs := by
  induction fs with
  | nil => rfl
  | cons f fs ih =>
    rw [List.map_cons, List.mapM_cons,
      readItem?_itemText (hk f List.mem_cons_self) (hv f List.mem_cons_self),
      ih (fun g hg => hk g (List.mem_cons_of_mem _ hg))
        fun g hg => hv g (List.mem_cons_of_mem _ hg)]
    rfl

/-- The fields of an object are read back. -/
theorem IsObject.read?_eq {fs : List Field} (h : IsObject n fs t) : read? n t = some fs := by
  rw [h.text, List.cons_append, read?]
  simp only [chunks_items h.key h.value, List.getLast?_concat, if_true, List.dropLast_concat]
  exact mapM_readItem? h.key h.value

/-- A text is an object with one list of fields only. -/
theorem IsObject.unique {fs gs : List Field} (hf : IsObject n fs t) (hg : IsObject n gs t) :
    fs = gs := Option.some.inj (hf.read?_eq.symm.trans hg.read?_eq)

end StyleObject.Grammar
