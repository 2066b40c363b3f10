import Mathlib.Data.List.TakeWhile
import StyleObject.Text.Space

/-!
# Trimmed texts

Trimming takes blanks from the two ends of a text and nothing else, so a text that has no blank at
either end is what is left of every text that surrounds it with blanks.
-/
namespace StyleObject.Text

/-- A text of blanks. -/
def Blank (t : Text) : Prop := ∀ c ∈ t, isBlank c = true

/-- A text without a blank at either end. -/
structure Trimmed (t : Text) : Prop where
  first : ∀ c ∈ t.head?, isBlank c = false
  last : ∀ c ∈ t.getLast?, isBlank c = false

theorem trimmed_iff {t : Text} :
    Trimmed t ↔ t.head?.all (!isBlank ·) ∧ t.getLast?.all (!isBlank ·) := by
  simp only [Option.all_eq_true, Bool.not_eq_true']
  exact ⟨fun h => ⟨h.first, h.last⟩, fun h => ⟨h.1, h.2⟩⟩

instance (t : Text) : Decidable (Trimmed t) := decidable_of_iff _ trimmed_iff.symm

theorem blank_nil : Blank [] := by simp [Blank]

theorem blank_space : Blank [' '] := by simp [Blank]; decide

theorem trimStart_blank_append {a t : Text} (h : Blank a) : trimStart (a ++ t) = trimStart t :=
  List.dropWhile_append_of_pos h

theorem trimEnd_append_blank {t b : Text} (h : Blank b) : trimEnd (t ++ b) = trimEnd t := by
  have hr : ∀ c ∈ b.reverse, isBlank c = true := fun c hc => h c (List.mem_reverse.1 hc)
  rw [trimEnd, List.reverse_append, List.dropWhile_append_of_pos hr]
  rfl

theorem trimStart_of_first {t : Text} (h : ∀ c ∈ t.head?, isBlank c = false) : trimStart t = t := by
  cases t with
  | nil => rfl
  | cons c r => simp [trimStart, h c rfl]

theorem trimEnd_of_last {t : Text} (h : ∀ c ∈ t.getLast?, isBlank c = false) : trimEnd t = t := by
  have hr := trimStart_of_first (t := t.reverse) (by simpa using h)
  rw [trimEnd]
  change (trimStart t.reverse).reverse = t
  rw [hr, List.reverse_reverse]

theorem exists_trimStart (t : Text) : ∃ a, Blank a ∧ t = a ++ trimStart t :=
  ⟨t.takeWhile isBlank, fun _ hc => List.mem_takeWhile_imp hc, List.takeWhile_append_dropWhile.symm⟩

theorem exists_trimEnd (t : Text) : ∃ b, Blank b ∧ t = trimEnd t ++ b := by
  obtain ⟨a, ha, he⟩ := exists_trimStart t.reverse
  refine ⟨a.reverse, fun c hc => ha c (List.mem_reverse.1 hc), ?_⟩
  have h := congrArg List.reverse he
  rwa [List.reverse_reverse, List.reverse_append] at h

/-- A text is its trimmed text between blanks. -/
theorem exists_trim (t : Text) : ∃ a b, Blank a ∧ Blank b ∧ t = a ++ trim t ++ b := by
  obtain ⟨a, ha, hs⟩ := exists_trimStart t
  obtain ⟨b, hb, he⟩ := exists_trimEnd (trimStart t)
  refine ⟨a, b, ha, hb, ?_⟩
  rw [List.append_assoc]
  change t = a ++ (trimEnd (trimStart t) ++ b)
  rw [← he, ← hs]

theorem trim_isInfix (t : Text) : trim t <:+: t := by
  obtain ⟨a, b, -, -, h⟩ := exists_trim t
  exact ⟨a, b, h.symm⟩

theorem first_trimStart (t : Text) : ∀ c ∈ (trimStart t).head?, isBlank c = false := by
  intro c hc
  have h := List.head?_dropWhile_not isBlank t
  rw [Option.mem_def] at hc
  change List.head? (List.dropWhile isBlank t) = some c at hc
  simpa [hc] using h

theorem trimmed_trim (t : Text) : Trimmed (trim t) := by
  have hl : ∀ c ∈ (trim t).getLast?, isBlank c = false := by
    intro c hc
    rw [trim, trimEnd, List.getLast?_reverse] at hc
    exact first_trimStart _ c hc
  refine ⟨fun c hc => ?_, hl⟩
  -- What is trimmed at the end leaves the first character where it is.
  obtain ⟨b, -, he⟩ := exists_trimEnd (trimStart t)
  apply first_trimStart t c
  rw [he]
  change c ∈ (trimEnd (trimStart t)).head? at hc
  cases h : trimEnd (trimStart t) with
  | nil => simp [h] at hc
  | cons d r => simpa [h] using hc

/-- A trimmed text is all that trimming leaves of it between blanks. -/
theorem trim_blank_append_blank {a t b : Text} (ha : Blank a) (hb : Blank b) (ht : Trimmed t) :
    trim (a ++ t ++ b) = t := by
  rw [trim, List.append_assoc, trimStart_blank_append ha]
  cases t with
  | nil =>
    have hn : trimStart b = [] := List.dropWhile_eq_nil_iff.2 hb
    rw [List.nil_append, hn]
    rfl
  | cons c r =>
    rw [trimStart_of_first (t := c :: r ++ b) (by simpa using ht.first), trimEnd_append_blank hb,
      trimEnd_of_last ht.last]

theorem trim_of_trimmed {t : Text} (h : Trimmed t) : trim t = t := by
  simpa using trim_blank_append_blank blank_nil blank_nil h

theorem trim_append_blank {b : Text} (t : Text) (hb : Blank b) : trim (t ++ b) = trim t := by
  obtain ⟨a, b', ha, hb', he⟩ := exists_trim t
  have hbb : Blank (b' ++ b) := List.forall_mem_append.2 ⟨hb', hb⟩
  have h := trim_blank_append_blank ha hbb (trimmed_trim t)
  rwa [← List.append_assoc, ← he] at h

theorem trim_trimEnd (t : Text) : trim (trimEnd t) = trim t := by
  obtain ⟨b, hb, ht⟩ := exists_trimEnd t
  have h := trim_append_blank (trimEnd t) hb
  rw [← ht] at h
  exact h.symm

theorem trim_eq_nil_iff {t : Text} : trim t = [] ↔ Blank t := by
  constructor
  · intro h
    obtain ⟨a, b, ha, hb, ht⟩ := exists_trim t
    rw [h, List.append_nil] at ht
    rw [ht]
    exact List.forall_mem_append.2 ⟨ha, hb⟩
  · intro h
    have ht : Trimmed [] := by constructor <;> simp
    simpa using trim_blank_append_blank h blank_nil ht

theorem trim_space_append {t : Text} (h : Trimmed t) : trim (' ' :: t) = t := by
  simpa using trim_blank_append_blank blank_space blank_nil h

theorem Trimmed.eq_nil_of_blank_suffix {t b : Text} (ht : Trimmed t) (hb : Blank b) (h : b <:+ t) :
    b = [] := by
  obtain ⟨s, rfl⟩ := h
  cases hl : b.getLast? with
  | none => exact List.getLast?_eq_none_iff.1 hl
  | some c =>
    have hc := ht.last c (by rw [List.getLast?_append, hl]; rfl)
    rw [hb c (List.mem_of_getLast? hl)] at hc
    cases hc

/-- The ends of a text decide whether it is trimmed. -/
theorem Trimmed.append_append {s t : Text} (hs : Trimmed s) (hsn : s ≠ []) (ht : Trimmed t)
    (htn : t ≠ []) (m : Text) : Trimmed (s ++ (m ++ t)) := by
  obtain ⟨c, r, rfl⟩ := List.exists_cons_of_ne_nil hsn
  refine ⟨hs.first, fun d hd => ht.last d ?_⟩
  rwa [← List.append_assoc, List.getLast?_append, List.getLast?_eq_some_getLast htn,
    Option.some_or, ← List.getLast?_eq_some_getLast htn] at hd

end StyleObject.Text
