import StyleObject.Proofs.Block.Reading
import StyleObject.Proofs.Block.Segment
import StyleObject.Proofs.Text.Trim

/-!
# The fields of a block

The properties and values that reading finds stand in the text of the block one after the other,
without sharing a character. Each of them is clean: it is trimmed and flat, so it says the same in
every other block.
-/
namespace StyleObject.Block

/-- The texts stand in another text one after the other. -/
inductive InOrder : List Text → Text → Prop where
  | nil (t : Text) : InOrder [] t
  | cons (gap x : Text) {xs : List Text} {t : Text} (h : InOrder xs t) :
    InOrder (x :: xs) (gap ++ x ++ t)

/-- The properties and values of some declarations, in order. -/
def fields (ds : List Declaration) : List Text := ds.flatMap fun d => [d.property, d.value]

/-- A trimmed text whose parentheses and delimiters end within it. -/
structure Clean (t : Text) : Prop extends Text.Trimmed t, Flat t

theorem clean_iff {t : Text} : Clean t ↔ Text.Trimmed t ∧ Balanced t ∧ Sheltered t := by
  rw [← flat_iff_sheltered]
  exact ⟨fun h => ⟨h.toTrimmed, h.toFlat⟩, fun h => ⟨h.1, h.2⟩⟩

/-- A declaration of clean texts. -/
structure CleanDeclaration (d : Declaration) : Prop where
  property : Clean d.property
  value : Clean d.value

theorem forall_mem_fields {P : Text → Prop} {ds : List Declaration} :
    (∀ x ∈ fields ds, P x) ↔ ∀ d ∈ ds, P d.property ∧ P d.value := by
  rw [fields, List.forall_mem_flatMap]
  simp

theorem clean_fields_iff {ds : List Declaration} :
    (∀ x ∈ fields ds, Clean x) ↔ ∀ d ∈ ds, CleanDeclaration d := by
  rw [forall_mem_fields]
  exact forall₂_congr fun d _ => ⟨fun h => ⟨h.1, h.2⟩, fun h => ⟨h.property, h.value⟩⟩

namespace InOrder

variable {xs : List Text} {t : Text}

theorem append_left (h : InOrder xs t) (u : Text) : InOrder xs (u ++ t) := by
  cases h with
  | nil => exact nil _
  | cons gap x h =>
    have hc := cons (u ++ gap) x h
    rwa [List.append_assoc, List.append_assoc, ← List.append_assoc gap] at hc

/-- Trimming only widens the gaps. -/
theorem cons_trim (h : InOrder xs t) (x : Text) : InOrder (Text.trim x :: xs) (x ++ t) := by
  obtain ⟨a, b, -, -, he⟩ := Text.exists_trim x
  have hc := cons a (Text.trim x) (h.append_left b)
  rwa [← List.append_assoc, ← he] at hc

theorem infix_of_mem (h : InOrder xs t) {x : Text} (hx : x ∈ xs) : x <:+: t := by
  induction h with
  | nil => cases hx
  | cons gap y h ih =>
    rcases List.mem_cons.1 hx with rfl | hx
    · exact List.infix_append gap x _
    · exact (ih hx).trans (List.suffix_append _ _).isInfix

end InOrder

theorem inOrder_declarationsOf (ss : List Segment) (rest : Text) :
    InOrder (fields (declarationsOf ss)) (join ss ++ rest) := by
  induction ss using declarationsOf.induct with
  | case1 => exact .nil _
  | case2 s => exact .nil _
  | case3 s r ss hd ih =>
    rw [declarationsOf, if_pos hd, join_cons_append, join_cons_append]
    exact .cons_trim (.append_left (.cons_trim (ih.append_left [_]) r.text) [_]) s.text
  | case4 s r ss hd ih =>
    rw [declarationsOf, if_neg hd, join_cons_append]
    exact (ih.append_left [_]).append_left _

theorem exists_of_mem_declarationsOf {ss : List Segment} {d : Declaration}
    (h : d ∈ declarationsOf ss) :
    ∃ s ∈ ss, ∃ r ∈ ss, d = ⟨Text.trim s.text, Text.trim r.text⟩ := by
  induction ss using declarationsOf.induct with
  | case1 => cases h
  | case2 s => cases h
  | case3 s r ss hd ih =>
    rw [declarationsOf, if_pos hd, List.mem_cons] at h
    rcases h with rfl | h
    · exact ⟨s, by simp, r, by simp, rfl⟩
    · obtain ⟨p, hp, q, hq, he⟩ := ih h
      exact ⟨p, by simp [hp], q, by simp [hq], he⟩
  | case4 s r ss hd ih =>
    rw [declarationsOf, if_neg hd] at h
    obtain ⟨p, hp, q, hq, he⟩ := ih h
    exact ⟨p, List.mem_cons_of_mem _ hp, q, List.mem_cons_of_mem _ hq, he⟩

theorem flat_nil : Flat [] := ⟨rfl, rfl⟩

/-- Characters that are neither parentheses nor delimiters make a flat text. -/
theorem flat_of_forall {t : Text}
    (h : ∀ c ∈ t, c ≠ '(' ∧ c ≠ ')' ∧ Delimiter.ofChar? c = none) : Flat t := by
  refine ⟨?_, ?_⟩
  · have ho : t.count '(' = 0 := List.count_eq_zero.2 fun hm => (h _ hm).1 rfl
    have hc : t.count ')' = 0 := List.count_eq_zero.2 fun hm => (h _ hm).2.1 rfl
    rw [Balanced, ho, hc]
  · refine List.eq_nil_iff_forall_not_mem.2 fun m hm => ?_
    obtain ⟨-, hp⟩ := prefix_of_mem_marks hm
    have hd := (h m.delimiter.char (hp.subset (by simp))).2.2
    simp at hd

theorem flat_of_blank {t : Text} (h : Text.Blank t) : Flat t := by
  apply flat_of_forall
  intro c hc
  have hb := h c hc
  refine ⟨?_, ?_, ?_⟩
  · rintro rfl
    exact absurd hb (by decide)
  · rintro rfl
    exact absurd hb (by decide)
  · cases hd : Delimiter.ofChar? c with
    | none => rfl
    | some d =>
      obtain rfl := Delimiter.ofChar?_eq_some_iff.1 hd
      exact absurd hb (by cases d <;> decide)

namespace Flat

variable {s t : Text}

theorem append (hs : Flat s) (ht : Flat t) : Flat (s ++ t) := by
  refine ⟨(balanced_append hs.balanced t).2 ht.balanced, ?_⟩
  rw [marks_append hs.balanced, hs.marks_eq_nil, ht.marks_eq_nil]
  rfl

/-- What is left of a flat text when a flat text is taken from its start is flat. -/
theorem of_append_right (hs : Flat s) (h : Flat (s ++ t)) : Flat t := by
  refine ⟨(balanced_append hs.balanced t).1 h.balanced, ?_⟩
  have hm := h.marks_eq_nil
  rw [marks_append hs.balanced, hs.marks_eq_nil, List.nil_append] at hm
  exact List.map_eq_nil_iff.1 hm

theorem of_append_left (ht : Flat t) (h : Flat (s ++ t)) : Flat s := by
  have hm := marks_isPrefix s t
  rw [h.marks_eq_nil] at hm
  refine ⟨?_, List.prefix_nil.1 hm⟩
  have hb := h.balanced
  have hc := ht.balanced
  rw [Balanced, List.count_append, List.count_append] at hb
  unfold Balanced at hc ⊢
  omega

theorem trim (h : Flat t) : Flat (Text.trim t) := by
  obtain ⟨a, b, ha, hb, he⟩ := Text.exists_trim t
  have hf : Flat (a ++ Text.trim t ++ b) := by rwa [← he]
  exact (flat_of_blank ha).of_append_right ((flat_of_blank hb).of_append_left hf)

end Flat

theorem Flat.clean_trim {t : Text} (h : Flat t) : Clean (Text.trim t) :=
  ⟨Text.trimmed_trim t, h.trim⟩

/-- The declarations that reading finds are the declarations of the first segments of the text. -/
theorem exists_join_of_read {mode : Mode} {t : Text} {ds : List Declaration}
    (h : read mode t = .ok ds) :
    ∃ ss rest, t = join ss ++ rest ∧ (∀ s ∈ ss, Flat s.text) ∧ ds = declarationsOf ss := by
  have hv : ∃ v, v <+: t ∧ ds = declarationsFrom 0 (marks v) := by
    rcases read_cases mode t with ⟨v, hv, -, hr⟩ | ⟨v, d, p, -, -, -, -, -, hr⟩ | ⟨p, -, -, hr⟩
    · exact ⟨v, hv, Except.ok.inj (h.symm.trans hr)⟩
    · cases h.symm.trans hr
    · have ha := h.symm.trans hr
      unfold answerAtEnd at ha
      split at ha
      · cases ha
      · split at ha
        · cases ha
        · exact ⟨t, List.prefix_refl t, Except.ok.inj ha⟩
  obtain ⟨v, ⟨w, rfl⟩, rfl⟩ := hv
  obtain ⟨ss, rest, rfl, hss, hr⟩ := exists_join v
  exact ⟨ss, rest ++ w, by rw [List.append_assoc], hss, declarationsFrom_join_append hss hr⟩

theorem inOrder_of_read {mode : Mode} {t : Text} {ds : List Declaration}
    (h : read mode t = .ok ds) : InOrder (fields ds) t := by
  obtain ⟨ss, rest, rfl, -, rfl⟩ := exists_join_of_read h
  exact inOrder_declarationsOf ss rest

theorem clean_of_read {mode : Mode} {t : Text} {ds : List Declaration}
    (h : read mode t = .ok ds) : ∀ d ∈ ds, CleanDeclaration d := by
  obtain ⟨ss, rest, -, hss, rfl⟩ := exists_join_of_read h
  intro d hd
  obtain ⟨s, hs, r, hr, rfl⟩ := exists_of_mem_declarationsOf hd
  exact ⟨(hss s hs).clean_trim, (hss r hr).clean_trim⟩

end StyleObject.Block
