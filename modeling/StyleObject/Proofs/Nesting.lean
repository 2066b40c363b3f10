import Mathlib.Algebra.Group.Nat.Even
import StyleObject.Nesting
import StyleObject.Proofs.Text.Join
import StyleObject.Proofs.Text.Trim

/-!
# Splitting at the top

A text is closed for a separator when its nesting ends where it starts and the separator does not
stand at the top of it. Closed texts with the separator between them are split into these texts.
-/
namespace StyleObject

namespace Text

theorem dropEmptyLast_isPrefix (ts : List Text) : dropEmptyLast ts <+: ts := by
  induction ts using dropEmptyLast.induct with
  | case1 => exact List.prefix_refl _
  | case2 t h => simp [dropEmptyLast, h]
  | case3 t h => simp [dropEmptyLast, h]
  | case4 t u ts ih => exact (List.prefix_cons_inj t).2 ih

theorem dropEmptyLast_of_last {ts : List Text} (h : ∀ t ∈ ts.getLast?, t ≠ []) :
    dropEmptyLast ts = ts := by
  induction ts using dropEmptyLast.induct with
  | case1 => rfl
  | case2 t he => exact absurd (List.isEmpty_iff.1 he) (h t rfl)
  | case3 t he => simp [dropEmptyLast, he]
  | case4 t u ts ih =>
    rw [List.getLast?_cons_cons] at h
    rw [dropEmptyLast, ih h]

theorem dropEmptyLast_of_forall {ts : List Text} (h : ∀ t ∈ ts, t ≠ []) :
    dropEmptyLast ts = ts :=
  dropEmptyLast_of_last fun t ht => h t (List.mem_of_getLast? ht)

theorem dropEmptyLast_concat (ts : List Text) (u : Text) :
    dropEmptyLast (ts ++ [u]) = ts ++ if u = [] then [] else [u] := by
  induction ts using dropEmptyLast.induct with
  | case1 => cases u <;> rfl
  | case2 t h => cases u <;> rfl
  | case3 t h => cases u <;> rfl
  | case4 t u ts ih => exact congrArg (t :: ·) ih

/-- Each character changes the depth of parentheses by at most one. -/
theorem depth_bounds (t : Text) : -(t.length : Int) ≤ (t.count '(' : Int) - t.count ')' ∧
    (t.count '(' : Int) - t.count ')' ≤ t.length := by
  have ho : t.count '(' ≤ t.length := List.count_le_length
  have hc : t.count ')' ≤ t.length := List.count_le_length
  omega

/-- A counter of 32 bits holds the depth of a text that is not too long. -/
theorem depth_counter {t : Text} (h : t.length < 2 ^ 31) :
    Int32.minValue.toInt ≤ (t.count '(' : Int) - t.count ')' ∧
      (t.count '(' : Int) - t.count ')' ≤ Int32.maxValue.toInt := by
  obtain ⟨hl, hr⟩ := depth_bounds t
  rw [Int32.toInt_minValue, Int32.toInt_maxValue]
  omega

end Text

namespace Nesting

variable {sep : Char}

theorem occursFrom_append (n : Nesting) (s t : Text) :
    occursFrom sep n (s ++ t) = (occursFrom sep n s || occursFrom sep (n.after s) t) := by
  induction s generalizing n with
  | nil => rfl
  | cons c r ih => rw [List.cons_append, occursFrom, ih, occursFrom, Bool.or_assoc, after_cons]

theorem mem_of_occursFrom {n : Nesting} {t : Text} (h : occursFrom sep n t = true) : sep ∈ t := by
  induction t generalizing n with
  | nil => cases h
  | cons c r ih =>
    rw [occursFrom, Bool.or_eq_true] at h
    rcases h with h | h
    · rw [cutsAt, Bool.and_eq_true, beq_iff_eq] at h
      exact h.2 ▸ List.mem_cons_self
    · exact List.mem_cons_of_mem c (ih h)

/-- A text without the separator at the top is the start of the first piece. -/
theorem pieces_append {n : Nesting} {s : Text} (h : occursFrom sep n s = false) (t : Text) :
    pieces sep n (s ++ t) = (pieces sep (n.after s) t).modifyHead (s ++ ·) := by
  induction s generalizing n with
  | nil => cases hp : pieces sep n t <;> simp [hp]
  | cons c r ih =>
    rw [occursFrom, Bool.or_eq_false_iff] at h
    rw [List.cons_append, pieces, h.1, if_neg Bool.false_ne_true, ih h.2, after_cons,
      List.modifyHead_modifyHead]
    rfl

theorem pieces_of_not_occursFrom {n : Nesting} {t : Text} (h : occursFrom sep n t = false) :
    pieces sep n t = [t] := by
  have hp := pieces_append h []
  rwa [List.append_nil, pieces, List.modifyHead_cons, List.append_nil] at hp

/-- The pieces with the separator between them are the text. -/
theorem intercalate_pieces (sep : Char) (n : Nesting) (t : Text) :
    [sep].intercalate (pieces sep n t) = t := by
  induction t generalizing n with
  | nil => simp [pieces]
  | cons c r ih =>
    have hr := ih (n.advance c)
    rw [pieces]
    split
    · next hc =>
      rw [cutsAt, Bool.and_eq_true, beq_iff_eq] at hc
      rw [List.intercalate_cons_of_ne_nil (pieces_ne_nil sep _ r), hr, hc.2]
      rfl
    · obtain ⟨p, ps, hp⟩ := List.exists_cons_of_ne_nil (pieces_ne_nil sep (n.advance c) r)
      rw [hp, Text.intercalate_cons] at hr
      rw [hp, List.modifyHead_cons, Text.intercalate_cons, List.cons_append, hr]

theorem isInfix_of_mem_pieces {n : Nesting} {p t : Text} (hp : p ∈ pieces sep n t) : p <:+: t := by
  have hi := Text.infix_of_mem_intercalate [sep] hp
  rwa [intercalate_pieces] at hi

theorem mem_of_mem_segments {p t : Text} {c : Char} (hp : p ∈ segments sep t) (hc : c ∈ p) :
    c = ' ' ∨ c ∈ t := by
  obtain ⟨q, hq, rfl⟩ := List.mem_map.1 ((Text.dropEmptyLast_isPrefix _).subset hp)
  obtain ⟨d, hd, rfl⟩ := List.mem_map.1 hc
  split
  · exact Or.inl rfl
  · exact Or.inr (((Text.trim_isInfix q).trans (isInfix_of_mem_pieces hq)).subset hd)

theorem isTop_iff {n : Nesting} : n.isTop = true ↔ n = {} := by
  cases n
  simp [isTop, and_assoc]

/-- Only parentheses and quotes change the nesting. -/
theorem advance_of_notMem {c : Char} (h : c ∉ ['(', ')', '\x27', '"']) (n : Nesting) :
    n.advance c = n := by
  simp only [List.mem_cons, List.not_mem_nil, or_false, not_or] at h
  unfold advance
  split
  · exact absurd rfl h.1
  · exact absurd rfl h.2.1
  · exact absurd rfl h.2.2.1
  · exact absurd rfl h.2.2.2
  · rfl

section Blank

variable {t : Text}

theorem advance_of_isBlank {c : Char} (h : Text.isBlank c = true) (n : Nesting) :
    n.advance c = n := by
  have hb : ['(', ')', '\x27', '"'].all (!Text.isBlank ·) := by decide
  apply advance_of_notMem
  intro hm
  simpa [h] using List.all_eq_true.1 hb c hm

theorem after_of_blank (h : Text.Blank t) (n : Nesting) : n.after t = n := by
  induction t with
  | nil => rfl
  | cons c r ih =>
    rw [after_cons, advance_of_isBlank (h c List.mem_cons_self)]
    exact ih fun d hd => h d (List.mem_cons_of_mem _ hd)

/-- Of blanks at the top, each one that is the separator cuts. -/
theorem occurs_of_blank (h : Text.Blank t) : occurs sep t = true ↔ sep ∈ t := by
  rw [occurs]
  induction t with
  | nil => simp [occursFrom]
  | cons c r ih =>
    have hr := ih fun d hd => h d (List.mem_cons_of_mem _ hd)
    have ht : ({} : Nesting).isTop = true := rfl
    rw [occursFrom, cutsAt, advance_of_isBlank (h c List.mem_cons_self), Bool.or_eq_true, hr, ht,
      Bool.true_and, beq_iff_eq, List.mem_cons, eq_comm]

/-- The last piece of a trimmed text is not blank, if the separator is. -/
theorem not_blank_last_piece (hs : Text.isBlank sep = true) (hn : t ≠ []) (ht : Text.Trimmed t)
    {n : Nesting} : ∀ p ∈ (pieces sep n t).getLast?, ¬ Text.Blank p := by
  intro p hp hb
  have hi := Text.intercalate_of_getLast? [sep] hp
  rw [intercalate_pieces] at hi
  rcases hi with rfl | ⟨s, rfl⟩
  · exact hn (ht.eq_nil_of_blank_suffix hb List.suffix_rfl)
  · have hc : Text.Blank ([sep] ++ p) := List.forall_mem_append.2 ⟨by simpa using hs, hb⟩
    have he := ht.eq_nil_of_blank_suffix hc ⟨s, by simp⟩
    cases he

/-- Blanks behind a text belong to the last piece, if the separator is no blank. -/
theorem exists_pieces_append_blank (hs : Text.isBlank sep = false) {b : Text} (hb : Text.Blank b)
    (n : Nesting) (t : Text) :
    ∃ init last, pieces sep n t = init ++ [last] ∧ pieces sep n (t ++ b) = init ++ [last ++ b] := by
  induction t generalizing n with
  | nil =>
    have ho : occursFrom sep n b = false := by
      rw [← Bool.not_eq_true]
      intro h
      rw [hb sep (mem_of_occursFrom h)] at hs
      cases hs
    exact ⟨[], [], rfl, pieces_of_not_occursFrom ho⟩
  | cons c r ih =>
    obtain ⟨init, last, hr, hrb⟩ := ih (n.advance c)
    rw [List.cons_append, pieces, pieces, hr, hrb]
    split
    · exact ⟨[] :: init, last, rfl, rfl⟩
    · cases init with
      | nil => exact ⟨[], c :: last, rfl, rfl⟩
      | cons p ps => exact ⟨(c :: p) :: ps, last, rfl, rfl⟩

/-- Blanks at the end of a text are in none of its segments. -/
theorem segments_trimEnd (hs : Text.isBlank sep = false) (t : Text) :
    segments sep (Text.trimEnd t) = segments sep t := by
  obtain ⟨b, hb, ht⟩ := Text.exists_trimEnd t
  obtain ⟨init, last, he, heb⟩ := exists_pieces_append_blank hs hb {} (Text.trimEnd t)
  have hl : tidy (last ++ b) = tidy last := by rw [tidy, Text.trim_append_blank last hb, tidy]
  rw [← ht] at heb
  rw [segments, segments, he, heb, List.map_append, List.map_append, List.map_singleton,
    List.map_singleton, hl]

end Blank

/-- A text whose nesting ends where it starts, without the separator at the top. -/
structure Closed (sep : Char) (t : Text) : Prop where
  after_eq : ({} : Nesting).after t = {}
  occurs_eq : occurs sep t = false

theorem Closed.append {s t : Text} (hs : Closed sep s) (ht : Closed sep t) :
    Closed sep (s ++ t) := by
  refine ⟨by rw [after_append, hs.after_eq, ht.after_eq], ?_⟩
  rw [occurs, occursFrom_append, hs.after_eq]
  exact Bool.or_eq_false_iff.2 ⟨hs.occurs_eq, ht.occurs_eq⟩

/-- The first of several pieces ends at the first separator at the top. -/
theorem pieces_eq_cons_cons {n : Nesting} {t p q : Text} {ps : List Text}
    (h : pieces sep n t = p :: q :: ps) :
    ∃ u, t = p ++ sep :: u ∧ occursFrom sep n p = false ∧
      ((n.after p).advance sep).isTop = true ∧
        pieces sep ((n.after p).advance sep) u = q :: ps := by
  induction t generalizing n p with
  | nil => cases h
  | cons c r ih =>
    rw [pieces] at h
    split at h
    · next hc =>
      rw [cutsAt, Bool.and_eq_true, beq_iff_eq] at hc
      obtain ⟨ht, rfl⟩ := hc
      obtain ⟨rfl, hr⟩ := List.cons.inj h
      exact ⟨r, rfl, rfl, ht, hr⟩
    · next hc =>
      obtain ⟨p', ps', hp⟩ := List.exists_cons_of_ne_nil (pieces_ne_nil sep (n.advance c) r)
      rw [hp, List.modifyHead_cons] at h
      obtain ⟨rfl, rfl⟩ := List.cons.inj h
      obtain ⟨u, rfl, ho, ht, hu⟩ := ih hp
      refine ⟨u, rfl, ?_, ht, hu⟩
      rw [occursFrom, ho, Bool.or_false]
      exact Bool.eq_false_iff.2 hc

section Separator

-- The separator is neither a parenthesis nor a quote.
variable (hsep : ({} : Nesting).advance sep = {})
include hsep

theorem cutsAt_start : cutsAt sep {} sep = true := by
  rw [cutsAt, hsep, beq_self_eq_true, Bool.and_true]
  rfl

/-- The separator behind a closed text ends the first piece. -/
theorem pieces_closed {s : Text} (hs : Closed sep s) (t : Text) :
    pieces sep {} (s ++ sep :: t) = s :: pieces sep {} t := by
  rw [pieces_append hs.occurs_eq, hs.after_eq, pieces, if_pos (cutsAt_start hsep), hsep,
    List.modifyHead_cons, List.append_nil]

/-- Closed texts with separators between them are the pieces of the whole. -/
theorem pieces_join {s : Text} {ts : List Text} (hs : Closed sep s) (ht : ∀ t ∈ ts, Closed sep t) :
    pieces sep {} (s ++ ts.flatMap (sep :: ·)) = s :: ts := by
  induction ts generalizing s with
  | nil => rw [List.flatMap_nil, List.append_nil, pieces_of_not_occursFrom hs.occurs_eq]
  | cons t ts ih =>
    rw [List.flatMap_cons, List.cons_append, pieces_closed hsep hs,
      ih (ht t List.mem_cons_self) fun x hx => ht x (List.mem_cons_of_mem _ hx)]

/-- The separator stands at the top exactly if there is more than one text. -/
theorem occurs_join {s : Text} {ts : List Text} (hs : Closed sep s) (ht : ∀ t ∈ ts, Closed sep t) :
    occurs sep (s ++ ts.flatMap (sep :: ·)) = true ↔ ts ≠ [] := by
  rw [occurs, ← one_lt_length_pieces, pieces_join hsep hs ht, List.length_cons,
    Nat.lt_add_left_iff_pos, List.length_pos_iff]

end Separator

theorem tidy_of_notMem {t : Text} (h : '\n' ∉ t) : tidy t = Text.trim t := by
  refine (List.map_congr_left fun c hc => if_neg ?_).trans (List.map_id _)
  rintro rfl
  exact h ((Text.trim_isInfix t).subset hc)

theorem tidy_of_trimmed {t : Text} (h : Text.Trimmed t) (hn : '\n' ∉ t) : tidy t = t := by
  rw [tidy_of_notMem hn, Text.trim_of_trimmed h]

theorem tidy_space_append {t : Text} (h : Text.Trimmed t) (hn : '\n' ∉ t) :
    tidy (' ' :: t) = t := by
  have ht : tidy (' ' :: t) = tidy t := by
    rw [tidy, Text.trim_space_append h, tidy, Text.trim_of_trimmed h]
  rw [ht, tidy_of_trimmed h hn]

end Nesting

end StyleObject
