import StyleObject.Proofs.Text.Affix
import StyleObject.Proofs.Text.Join
import StyleObject.Text.Space

/-!
# Lines

A text that is cut at its line feeds has one line more than it has line feeds, and no line holds
one. A text that ends in a comma has as many lines, of which some may have lost a carriage return.
-/
namespace StyleObject.Text

variable {t l : Text} {ts : List Text} {c : Char}

theorem notMem_of_mem_splitOn (h : l ∈ t.splitOn c) : c ∉ l := by
  induction t generalizing l with
  | nil => simp_all
  | cons x r ih =>
    rw [List.splitOn_cons_eq_if_modifyHead] at h
    obtain ⟨s, ss, hs⟩ := List.exists_cons_of_ne_nil (List.splitOn_ne_nil c r)
    rw [hs] at h ih
    by_cases hx : x = c
    · rw [if_pos (by simpa using hx), List.mem_cons] at h
      rcases h with rfl | h
      · exact List.not_mem_nil
      · exact ih h
    · rw [if_neg (by simpa using hx), List.modifyHead_cons, List.mem_cons] at h
      rcases h with rfl | h
      · exact List.not_mem_cons_of_ne_of_not_mem (Ne.symm hx) (ih List.mem_cons_self)
      · exact ih (List.mem_cons_of_mem _ h)

theorem length_splitOn (c : Char) (t : Text) : (t.splitOn c).length = t.count c + 1 := by
  induction t with
  | nil => rfl
  | cons x r ih =>
    rw [List.splitOn_cons_eq_if_modifyHead]
    by_cases hx : x = c <;> simp [hx, ih]

theorem flatMap_line (ls : List Text) :
    ls.flatMap (· ++ ['\n']) = ['\n'].intercalate (ls ++ [[]]) := by
  induction ls with
  | nil => rfl
  | cons l ls ih =>
    rw [List.flatMap_cons, ih, List.cons_append]
    exact (List.intercalate_cons_of_ne_nil (List.concat_ne_nil [] ls)).symm

/-- Lines that hold no line feed can be read off the text in which each of them ends with one. -/
theorem splitOn_flatMap_line {ls : List Text} (h : ∀ l ∈ ls, '\n' ∉ l) :
    (ls.flatMap (· ++ ['\n'])).splitOn '\n' = ls ++ [[]] := by
  rw [flatMap_line, List.splitOn_intercalate _ ?_ (List.concat_ne_nil [] ls)]
  intro l hl
  rcases List.mem_append.1 hl with hl | hl
  · exact h l hl
  · obtain rfl := List.mem_singleton.1 hl
    exact List.not_mem_nil

theorem exists_isPrefix_of_mem_closeLines (h : l ∈ closeLines ts) : ∃ t ∈ ts, l <+: t := by
  induction ts using closeLines.induct with
  | case1 => cases h
  | case2 t he => simp [closeLines, he] at h
  | case3 t he =>
    rw [closeLines, if_neg he] at h
    exact ⟨l, h, List.prefix_refl l⟩
  | case4 t u ts ih =>
    rw [closeLines, List.mem_cons] at h
    rcases h with rfl | h
    · exact ⟨t, List.mem_cons_self, dropEnd_isPrefix _ t⟩
    · obtain ⟨s, hs, hl⟩ := ih h
      exact ⟨s, List.mem_cons_of_mem _ hs, hl⟩

/-- Only a last line that is empty is no line. -/
theorem length_closeLines (h : ∀ t ∈ ts.getLast?, t ≠ []) : (closeLines ts).length = ts.length := by
  induction ts using closeLines.induct with
  | case1 => rfl
  | case2 t he => exact absurd (List.isEmpty_iff.1 he) (h t rfl)
  | case3 t he => simp [closeLines, he]
  | case4 t u ts ih => rw [closeLines, List.length_cons, ih h, ← List.length_cons]

theorem closeLines_of_forall (hr : ∀ t ∈ ts, '\r' ∉ t) (hl : ∀ t ∈ ts.getLast?, t ≠ []) :
    closeLines ts = ts := by
  induction ts using closeLines.induct with
  | case1 => rfl
  | case2 t he => exact absurd (List.isEmpty_iff.1 he) (hl t rfl)
  | case3 t he => simp [closeLines, he]
  | case4 t u ts ih =>
    have ht : '\r' ∉ t.getLast? := fun hm => hr t List.mem_cons_self (List.mem_of_getLast? hm)
    rw [closeLines, dropEnd_singleton ht,
      ih (fun x hx => hr x (List.mem_cons_of_mem _ hx)) hl]

/-- The comma at the end of a text ends its last line. -/
theorem ne_nil_of_mem_getLast?_splitOn (h : [','] <:+ t) (hl : l ∈ (t.splitOn '\n').getLast?) :
    l ≠ [] := by
  have hi : [','] <:+ ['\n'].intercalate (t.splitOn '\n') := by rwa [List.intercalate_splitOn]
  have hs : [','] <:+ l := suffix_of_suffix_intercalate [] (c := '\n') (by decide) hi hl
  rintro rfl
  cases List.suffix_nil.1 hs

/-- The lines of a text without carriage returns that ends in a comma stand between line feeds. -/
theorem lines_eq_splitOn (hr : '\r' ∉ t) (h : [','] <:+ t) : lines t = t.splitOn '\n' := by
  refine closeLines_of_forall (fun l hm hc => hr ?_) fun l => ne_nil_of_mem_getLast?_splitOn h
  have hx := infix_of_mem_intercalate ['\n'] hm
  rw [List.intercalate_splitOn] at hx
  exact hx.subset hc

/-- No line of a text that ends in a comma is lost, and none is added. -/
theorem length_lines (h : [','] <:+ t) : (lines t).length = t.count '\n' + 1 := by
  rw [lines, length_closeLines fun l => ne_nil_of_mem_getLast?_splitOn h, length_splitOn]

example : lines "a\r\n\n\rb,".toList = [['a'], [], ['\r', 'b', ',']] := by decide

theorem lineFeed_notMem_of_mem_lines (h : l ∈ lines t) : '\n' ∉ l := by
  obtain ⟨s, hs, hl⟩ := exists_isPrefix_of_mem_closeLines h
  exact fun hm => notMem_of_mem_splitOn hs (hl.subset hm)

theorem cons_intercalate_lineFeed (h : ts ≠ []) :
    '\n' :: ['\n'].intercalate ts = ts.flatMap ('\n' :: ·) := by
  cases ts with
  | nil => contradiction
  | cons l ls =>
    rw [intercalate_cons, List.flatMap_cons]
    rfl

end StyleObject.Text
