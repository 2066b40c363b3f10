import Mathlib.Algebra.GroupWithZero.Nat
import StyleObject.Object
import StyleObject.Proofs.Text.Line

/-!
# The indent of an object

The lines of an entry hold no line feed, and there is one more of them than the entry has line
feeds, since an entry ends in a comma. So a rendered object that is cut at its line feeds falls into
the braces and the lines of its entries, with the indent before each of these and nowhere else.
-/
namespace StyleObject

namespace Text

/-- The lines of a text without the first and the last of them. -/
def innerLines (t : Text) : List Text := (t.splitOn '\n').tail.dropLast

/-- The text without `n` spaces at the start of each of its inner lines, if they all have so
many. -/
def outdent? (n : Nat) (t : Text) : Option Text :=
  match t.splitOn '\n' with
  | [] => none
  | first :: rest =>
    ((innerLines t).mapM (List.replicate n ' ').isPrefixOf?).map fun inner =>
      ['\n'].intercalate (first :: (inner ++ rest.getLast?.toList))

theorem mapM_isPrefixOf? (mark : Text) (ts : List Text) :
    (ts.map (mark ++ ·)).mapM mark.isPrefixOf? = some ts := by
  induction ts with
  | nil => rfl
  | cons t ts ih => simp [List.mapM_cons, List.isPrefixOf?_eq_some_iff_append_eq.2 rfl, ih]

end Text

namespace Object

variable {o : Object}

theorem lines_eq_map (o : Object) (n : Nat) :
    o.lines n = (o.lines 0).map (List.replicate n ' ' ++ ·) := by
  simp [lines]

theorem length_lines (o : Object) (n : Nat) :
    (o.lines n).length = (o.entries.map fun e => e.text.count '\n' + 1).sum := by
  have h : ∀ e : Entry, (Text.lines e.text).length = e.text.count '\n' + 1 := fun e =>
    Text.length_lines (List.suffix_append _ _)
  simp [lines, List.length_flatMap, h]

theorem lineFeed_notMem_of_mem_lines {n : Nat} {l : Text} (h : l ∈ o.lines n) : '\n' ∉ l := by
  obtain ⟨s, hs, rfl⟩ := List.mem_map.1 h
  obtain ⟨e, -, he⟩ := List.mem_flatMap.1 hs
  simpa [List.mem_replicate] using Text.lineFeed_notMem_of_mem_lines he

/-- A rendered object is the braces and its lines, with line feeds between them. -/
theorem render_eq_intercalate (h : o.entries ≠ []) (n : Nat) :
    o.render n = ['\n'].intercalate (['\x7b'] :: (o.lines n ++ [['\x7d']])) := by
  have hn : o.lines n ≠ [] := by
    obtain ⟨e, es, he⟩ := List.exists_cons_of_ne_nil h
    have hl := o.length_lines n
    rw [he, List.map_cons, List.sum_cons] at hl
    exact List.ne_nil_of_length_pos (by omega)
  rw [Text.intercalate_cons, List.flatMap_append, List.singleton_append]
  change _ = '\x7b' :: ((o.lines n).flatMap ('\n' :: ·) ++ ['\n', '\x7d'])
  rw [← Text.cons_intercalate_lineFeed hn]
  rfl

/-- A rendered object that is cut at its line feeds. -/
theorem splitOn_render (h : o.entries ≠ []) (n : Nat) :
    (o.render n).splitOn '\n' = ['\x7b'] :: (o.lines n ++ [['\x7d']]) := by
  rw [render_eq_intercalate h]
  refine List.splitOn_intercalate '\n' (fun l hl => ?_) (List.cons_ne_nil _ _)
  rw [List.mem_cons, List.mem_append, List.mem_singleton] at hl
  rcases hl with rfl | hl | rfl
  · decide
  · exact lineFeed_notMem_of_mem_lines hl
  · decide

theorem innerLines_render (h : o.entries ≠ []) (n : Nat) :
    Text.innerLines (o.render n) = o.lines n := by
  rw [Text.innerLines, splitOn_render h, List.tail_cons, List.dropLast_concat]

/-- Taking the indent from a rendered object gives it as it is rendered without one. -/
theorem outdent?_render (h : o.entries ≠ []) (n : Nat) :
    Text.outdent? n (o.render n) = some (o.render 0) := by
  rw [Text.outdent?, innerLines_render h, lines_eq_map, Text.mapM_isPrefixOf?, splitOn_render h,
    render_eq_intercalate h]
  simp

end Object

end StyleObject
