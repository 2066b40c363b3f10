import Mathlib.Data.List.Infix
import StyleObject.Text.Basic

/-!
# Joined texts

Texts are joined with a separator between them. The joined text is the first text and then each of
the others behind a separator, so it has no characters but theirs and the separator's.
-/
namespace StyleObject.Text

variable {sep : Text}

theorem intercalate_cons (sep x : Text) (xs : List Text) :
    sep.intercalate (x :: xs) = x ++ xs.flatMap (sep ++ ·) := by
  induction xs generalizing x with
  | nil => simp
  | cons y ys ih => rw [List.intercalate_cons_cons, ih, List.flatMap_cons, List.append_assoc,
    List.append_assoc]

theorem mem_intercalate {xs : List Text} {c : Char} (h : c ∈ sep.intercalate xs) :
    c ∈ sep ∨ ∃ x ∈ xs, c ∈ x := by
  cases xs with
  | nil => cases h
  | cons x xs =>
    rw [intercalate_cons, List.mem_append, List.mem_flatMap] at h
    rcases h with h | ⟨y, hy, h⟩
    · exact Or.inr ⟨x, List.mem_cons_self, h⟩
    · exact (List.mem_append.1 h).imp_right fun h => ⟨y, List.mem_cons_of_mem _ hy, h⟩

theorem notMem_intercalate {xs : List Text} {c : Char} (hs : c ∉ sep) (h : ∀ x ∈ xs, c ∉ x) :
    c ∉ sep.intercalate xs := by
  intro hm
  rcases mem_intercalate hm with hm | ⟨x, hx, hm⟩
  · exact hs hm
  · exact h x hx hm

theorem infix_of_mem_intercalate (sep : Text) {xs : List Text} {x : Text} (h : x ∈ xs) :
    x <:+: sep.intercalate xs := by
  obtain ⟨ys, zs, rfl⟩ := List.append_of_mem h
  cases ys with
  | nil =>
    rw [List.nil_append, intercalate_cons]
    exact (List.prefix_append x _).isInfix
  | cons y ys =>
    rw [List.cons_append, intercalate_cons, List.flatMap_append, List.flatMap_cons]
    exact ⟨y ++ (ys.flatMap (sep ++ ·) ++ sep), zs.flatMap (sep ++ ·), by simp⟩

theorem intercalate_ne_nil {xs : List Text} (hn : xs ≠ []) (h : ∀ x ∈ xs, x ≠ []) :
    sep.intercalate xs ≠ [] := by
  cases xs with
  | nil => contradiction
  | cons x xs =>
    rw [intercalate_cons]
    exact List.append_ne_nil_of_left_ne_nil (h x List.mem_cons_self) _

/-- A joined text ends with the last of the texts, behind a separator if there are others. -/
theorem intercalate_of_getLast? (sep : Text) {xs : List Text} {x : Text} (h : x ∈ xs.getLast?) :
    sep.intercalate xs = x ∨ ∃ s, sep.intercalate xs = s ++ (sep ++ x) := by
  induction xs with
  | nil => cases h
  | cons y ys ih =>
    cases ys with
    | nil =>
      obtain rfl : y = x := by simpa using h
      exact Or.inl (by simp)
    | cons z zs =>
      rw [List.getLast?_cons_cons] at h
      rw [List.intercalate_cons_cons]
      rcases ih h with he | ⟨s, he⟩
      · exact Or.inr ⟨y, by rw [he, List.append_assoc]⟩
      · exact Or.inr ⟨y ++ sep ++ s, by rw [he]; simp⟩

/-- A text without the character `c` that ends a text behind a `c` is in what follows the `c`. -/
theorem suffix_of_suffix_cons {mark s t : Text} {c : Char} (hc : c ∉ mark)
    (h : mark <:+ s ++ c :: t) : mark <:+ t := by
  rcases List.suffix_or_suffix_of_suffix h (List.suffix_append s (c :: t)) with hs | hs
  · rcases List.suffix_cons_iff.1 hs with rfl | hs
    · exact absurd List.mem_cons_self hc
    · exact hs
  · exact absurd (hs.subset List.mem_cons_self) hc

/-- A text without the last character of the separator that ends a joined text ends the last of the
texts. -/
theorem suffix_of_suffix_intercalate (sep : Text) {mark x : Text} {c : Char} {xs : List Text}
    (hc : c ∉ mark) (h : mark <:+ (sep ++ [c]).intercalate xs) (hx : x ∈ xs.getLast?) :
    mark <:+ x := by
  induction xs with
  | nil => cases hx
  | cons y ys ih =>
    cases ys with
    | nil =>
      obtain rfl : y = x := by simpa using hx
      simpa using h
    | cons z zs =>
      rw [List.intercalate_cons_cons, ← List.append_assoc, List.append_assoc,
        List.singleton_append] at h
      rw [List.getLast?_cons_cons] at hx
      exact ih (suffix_of_suffix_cons hc h) hx

end StyleObject.Text
