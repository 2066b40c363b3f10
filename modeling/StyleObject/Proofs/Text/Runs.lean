import StyleObject.Proofs.Text.Squeeze

/-!
# Runs

The words of a text are its maximal runs of characters that are no spaces. Every text has one list
of them, and squeezing the text changes what stands between the runs, but not the runs.
-/
namespace StyleObject.Text

/-- A text of spaces. -/
def Spaces (t : Text) : Prop := ∀ c ∈ t, isSpace c = true

/-- The maximal runs of a text, in order: each is not empty and has no space, and it ends only where
a space or the end of the text follows. -/
inductive Runs : List Text → Text → Prop where
  | nil {gap : Text} (hg : Spaces gap) : Runs [] gap
  | cons {gap run t : Text} {runs : List Text} (hg : Spaces gap) (hn : run ≠ [])
    (hr : ∀ c ∈ run, isSpace c = false) (ht : ∀ c ∈ t.head?, isSpace c = true)
    (h : Runs runs t) : Runs (run :: runs) (gap ++ run ++ t)

variable {s t : Text} {ws : List Text} {c : Char}

theorem spaces_nil : Spaces [] := by simp [Spaces]

theorem Runs.space_cons (h : Runs ws t) (hc : isSpace c = true) : Runs ws (c :: t) := by
  cases h with
  | nil hg => exact .nil (List.forall_mem_cons.2 ⟨hc, hg⟩)
  | cons hg hn hr ht h => exact .cons (List.forall_mem_cons.2 ⟨hc, hg⟩) hn hr ht h

/-- A run may stand at the start of a text. -/
theorem Runs.append (h : Runs ws t) (hn : s ≠ []) (hs : ∀ c ∈ s, isSpace c = false)
    (ht : ∀ c ∈ t.head?, isSpace c = true) : Runs (s :: ws) (s ++ t) :=
  .cons spaces_nil hn hs ht h

/-- The words of a text are its runs. -/
theorem runs_words (t : Text) : Runs (words t) t := by
  induction t using word_induction with
  | word t ht =>
    have he : Runs [] [] := .nil spaces_nil
    by_cases hn : t = []
    · rw [hn]
      exact he
    · rw [words_of_forall hn ht]
      simpa using he.append hn ht (by simp)
  | space w c t hw hc ih =>
    have hr : Runs (words t) (c :: t) := ih.space_cons hc
    rw [words_append_space hc]
    by_cases hn : w = []
    · rw [hn]
      exact hr
    · rw [words_of_forall hn hw]
      exact hr.append hn hw (by simpa using hc)

theorem words_spaces_append {gap : Text} (hg : Spaces gap) (t : Text) :
    words (gap ++ t) = words t := by
  induction gap with
  | nil => rfl
  | cons c r ih =>
    obtain ⟨hc, hr⟩ := List.forall_mem_cons.1 hg
    rw [List.cons_append, words_space_cons hc, ih hr]

/-- A text has no other runs than its words. -/
theorem Runs.eq_words (h : Runs ws t) : ws = words t := by
  induction h with
  | @nil gap hg => rw [← List.append_nil gap, words_spaces_append hg, words_nil]
  | @cons gap run t runs hg hn hr ht h ih =>
    rw [List.append_assoc, words_spaces_append hg, ih]
    cases t with
    | nil => rw [List.append_nil, words_of_forall hn hr, words_nil]
    | cons c r =>
      have hc : isSpace c = true := ht c rfl
      rw [words_append_space hc, words_of_forall hn hr, words_space_cons hc, List.singleton_append]

theorem runs_iff : Runs ws t ↔ ws = words t := by
  constructor
  · exact Runs.eq_words
  · rintro rfl
    exact runs_words t

/-- Words with one space between them are the words of the text that they are joined to. -/
theorem words_intercalate (h : ∀ w ∈ ws, w ≠ [] ∧ ∀ c ∈ w, isSpace c = false) :
    words ([' '].intercalate ws) = ws := by
  induction ws with
  | nil => rfl
  | cons w vs ih =>
    obtain ⟨hn, hw⟩ := h w List.mem_cons_self
    by_cases he : vs = []
    · rw [he, List.intercalate_singleton, words_of_forall hn hw]
    · have hs : isSpace ' ' = true := by decide
      rw [List.intercalate_cons_of_ne_nil he, List.append_assoc, List.singleton_append,
        words_append_space hs, words_of_forall hn hw,
        ih fun v hv => h v (List.mem_cons_of_mem _ hv), List.singleton_append]

/-- Squeezing keeps the words. -/
theorem words_squeeze (t : Text) : words (squeeze t) = words t :=
  words_intercalate fun _ hw => ⟨(mem_words hw).1, fun c hc => ((mem_words hw).2 c hc).2⟩

end StyleObject.Text
