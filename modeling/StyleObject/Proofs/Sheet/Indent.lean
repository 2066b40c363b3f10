import StyleObject.Proofs.Object.Indent
import StyleObject.Proofs.Sheet.Object

/-!
# Style sheets under two indents

The indent is used when an object is written and not before. So two indents give the same fault, or
the same object, whose two texts are one text with more or fewer spaces before its inner lines.
-/
namespace StyleObject

/-- The text of an object with indent `n` is its text without one, with `n` spaces before each line
but the first and the last. An entry has a line for each of its line feeds, and one more. -/
structure Object.LaidOut (o : Object) (n : Nat) : Prop where
  lines : (o.render n).splitOn '\n' =
    ['\x7b'] :: ((Text.innerLines (o.render 0)).map (List.replicate n ' ' ++ ·) ++ [['\x7d']])
  count : (Text.innerLines (o.render n)).length =
    (o.entries.map fun e => e.text.count '\n' + 1).sum

theorem Object.laidOut {o : Object} (h : o.entries ≠ []) (n : Nat) : o.LaidOut n where
  lines := by rw [splitOn_render h, innerLines_render h, ← lines_eq_map]
  count := by rw [innerLines_render h, length_lines]

namespace Sheet

/-- Two results under the indents `n` and `m` differ only in them. -/
inductive DifferInIndent (n m : Nat) : Except Fault Text → Except Fault Text → Prop where
  | failed (fault : Fault) : DifferInIndent n m (.error fault) (.error fault)
  | written {text text' plain : Text} (h : Text.outdent? n text = some plain)
    (h' : Text.outdent? m text' = some plain) : DifferInIndent n m (.ok text) (.ok text')

/-- The indent has no part in what the object of a style sheet is. -/
theorem object_indent (options : Options) (n : Nat) (css : Text) :
    object { options with indent := n } css = object options css := rfl

theorem render_differInIndent (options : Options) (css : Text) (n m : Nat) :
    DifferInIndent n m (render { options with indent := n } css)
      (render { options with indent := m } css) := by
  simp only [render, object_indent]
  cases ho : object options css with
  | error fault => exact .failed fault
  | ok o =>
    have hn := entries_ne_nil_of_object ho
    exact .written (Object.outdent?_render hn n) (Object.outdent?_render hn m)

/-- The indent is pure layout. However an object that is not empty came about, its text is the
braces with the lines of its entries between them, each behind exactly the indent; none is added and
none is lost. Under two indents a style sheet has one fault, or its two texts are the same when each
is freed of its indent. -/
theorem indent_is_layout :
    (∀ (duplicates : Duplicates) (es : List Entry),
      ((Object.empty duplicates).insertAll es).isEmpty = false →
        ∀ n, ((Object.empty duplicates).insertAll es).LaidOut n) ∧
    ∀ (options : Options) (css : Text) (n m : Nat),
      DifferInIndent n m (render { options with indent := n } css)
        (render { options with indent := m } css) := by
  refine ⟨fun duplicates es h n => Object.laidOut (fun he => ?_) n, render_differInIndent⟩
  rw [Object.isEmpty, he] at h
  cases h

/-- A line that is empty is indented too, and a carriage return before a line feed is lost under
every indent. -/
theorem indent_is_layout_returns :
    ((Object.empty .keepAll).insertAll
      [⟨['a'], .single, "1\r\n\n\r2".toList⟩]).isEmpty = false ∧
    (((Object.empty .keepAll).insertAll
      [⟨['a'], .single, "1\r\n\n\r2".toList⟩]).render 1).splitOn '\n' =
        ["\x7b".toList, " a: 1".toList, " ".toList, " \r2,".toList, "\x7d".toList] := by
  have h : ((Object.empty .keepAll).insertAll
      [⟨['a'], .single, "1\r\n\n\r2".toList⟩]).isEmpty = false := rfl
  refine ⟨h, ((indent_is_layout.1 _ _ h) 1).lines.trans ?_⟩
  decide

end Sheet

end StyleObject
