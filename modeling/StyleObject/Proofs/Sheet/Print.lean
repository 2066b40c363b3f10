import StyleObject.Proofs.Block.Print
import StyleObject.Proofs.Text.Kept
import StyleObject.Sheet

/-!
# Printing the declarations of a style sheet

A flat style sheet is tight and has no comment, and flattening leaves every such text as it is. The
block that is printed from the declarations of a style sheet is such a text: its comment marks are
those of the flat style sheet, in the same order. So reading it gives the declarations back.
-/
namespace StyleObject.Sheet

open Block Text

theorem tight_flatten (css : Text) : Tight (flatten css) := tight_squeeze _

theorem not_hasComment_flatten (css : Text) : ¬ HasComment (flatten css) := fun h =>
  not_hasComment_dropComments css ((kept_squeeze _).marks.comment h)

theorem flatten_of_tight {t : Text} (ht : Tight t) (hc : ¬ HasComment t) : flatten t = t := by
  rw [flatten, dropComments_of_not_hasComment hc, squeeze_of_tight ht]

/-- Flattening twice is flattening once. -/
theorem flatten_flatten (css : Text) : flatten (flatten css) = flatten css :=
  flatten_of_tight (tight_flatten css) (not_hasComment_flatten css)

/-- The fields of a style sheet are tight. -/
theorem tight_of_mem_fields {mode : Mode} {css : Text} {ds : List Declaration}
    (h : declarations mode css = .ok ds) : ∀ t ∈ fields ds, Tight t := by
  intro t ht
  have hi : t <:+: flatten css := (inOrder_of_read h).infix_of_mem ht
  have hc : Clean t := clean_fields_iff.2 (clean_of_read h) t ht
  rw [← trim_of_trimmed hc.toTrimmed]
  exact (tight_flatten css).trim_of_isInfix hi

/-- Printed declarations of tight fields go on with a tight text. -/
theorem tight_append_printed {ds : List Declaration} (h : ∀ t ∈ fields ds, Tight t) {x : Text}
    (hx : Tight x) (hn : x ≠ []) :
    Tight (x ++ ds.flatMap printDeclaration) ∧ x ++ ds.flatMap printDeclaration ≠ [] := by
  induction ds generalizing x with
  | nil => simpa using ⟨hx, hn⟩
  | cons d ds ih =>
    have hds : ∀ t ∈ fields ds, Tight t := fun t ht => h t (List.mem_append_right _ ht)
    have hp : Tight (d.property ++ [':']) :=
      (h d.property (by simp [fields])).append (tight_singleton rfl)
    have hv : Tight (d.value ++ [';']) :=
      (h d.value (by simp [fields])).append (tight_singleton rfl)
    have hd : Tight (x ++ ' ' :: (d.property ++ [':']) ++ ' ' :: (d.value ++ [';'])) :=
      (hx.space hp hn (by simp)).space hv (by simp) (by simp)
    have he : x ++ (d :: ds).flatMap printDeclaration =
        x ++ ' ' :: (d.property ++ [':']) ++ ' ' :: (d.value ++ [';']) ++
          ds.flatMap printDeclaration := by
      simp [printDeclaration]
    rw [he]
    exact ih hds hd (by simp)

theorem tight_print {ds : List Declaration} (h : ∀ t ∈ fields ds, Tight t) : Tight (print ds) := by
  obtain ⟨ht, hn⟩ := tight_append_printed h (x := ['\x7b']) (tight_singleton rfl) (by simp)
  exact ht.space (tight_singleton rfl) hn (by simp)

/-- Declarations that are written one after the other have no comment marks but those of a text in
which their fields stand in order. -/
theorem marksWithin_flatMap {f g : Declaration → Text} (hf : ∀ d, MarksWithin (f d) d.property)
    (hg : ∀ d, MarksWithin (g d) d.value) {x : Char} (hx : x ≠ '/' ∧ x ≠ '*') {u : Text}
    (hu : ∀ t, MarksWithin u t) {ds : List Declaration} {t : Text} (h : InOrder (fields ds) t) :
    MarksWithin ((ds.flatMap fun d => f d ++ ':' :: ' ' :: g d ++ [x]) ++ u) t := by
  induction ds generalizing t with
  | nil => exact hu t
  | cons d ds ih =>
    rcases h with _ | ⟨gap, _, h⟩
    rcases h with _ | ⟨gap', _, h⟩
    have hv := MarksWithin.seam hx (hg d) (ih h) []
    have hp := MarksWithin.seam (x := ':') (by decide) (hf d)
      (.cons (x := ' ') (by decide) hv) gap'
    simpa using hp.append_left gap

/-- A printed block has no comment marks but those of a text in which its fields stand in order. -/
theorem marksWithin_print {ds : List Declaration} {t : Text} (h : InOrder (fields ds) t) :
    MarksWithin (print ds) t := by
  have hu : ∀ t, MarksWithin [' ', '\x7d'] t := fun t =>
    .cons (by decide) (.cons (by decide) (.of_isInfix List.nil_infix))
  have hm := marksWithin_flatMap (f := fun d => ' ' :: d.property) (g := Declaration.value)
    (x := ';') (fun d => .cons (by decide) (.refl d.property)) (fun d => .refl d.value) (by decide)
    hu h
  exact .cons (by decide) hm

/-- Printing the declarations of a style sheet and reading the printed block gives them back, in
every mode. -/
theorem declarations_print {mode : Mode} {css : Text} {ds : List Declaration}
    (h : declarations mode css = .ok ds) (hn : ds ≠ []) (mode' : Mode) :
    declarations mode' (print ds) = .ok ds := by
  have ht : Tight (print ds) := tight_print (tight_of_mem_fields h)
  have hc : ¬ HasComment (print ds) := fun hc =>
    not_hasComment_flatten css ((marksWithin_print (inOrder_of_read h)).comment hc)
  rw [declarations, flatten_of_tight ht hc]
  exact read_print (clean_of_read h) hn mode'

/-- An unclosed comment mark and empty fields are printed and read back. -/
theorem declarations_print_unclosed :
    declarations .strict "\x7ba/*  :  ; : x/y ;  \x7d".toList =
      .ok [⟨"a/*".toList, []⟩, ⟨[], "x/y".toList⟩] ∧
    declarations .lenient "\x7b a/*: ; : x/y; \x7d".toList =
      .ok [⟨"a/*".toList, []⟩, ⟨[], "x/y".toList⟩] := by
  have hf : flatten "\x7ba/*  :  ; : x/y ;  \x7d".toList = "\x7ba/* : ; : x/y ; \x7d".toList := by
    rw [flatten, dropComments_of_none (by decide)]
    decide
  have hd : declarations .strict "\x7ba/*  :  ; : x/y ;  \x7d".toList =
      .ok [⟨"a/*".toList, []⟩, ⟨[], "x/y".toList⟩] := by
    rw [declarations, hf]
    decide
  exact ⟨hd, declarations_print hd (by decide) .lenient⟩

end StyleObject.Sheet
