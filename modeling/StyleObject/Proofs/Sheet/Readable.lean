import StyleObject.Proofs.Object.Reader
import StyleObject.Proofs.Sheet.Object
import StyleObject.Proofs.Sheet.Print
import StyleObject.Proofs.Value.Written

/-!
# Reading a rendered style sheet

The fields of a style sheet without backslashes are ordinary texts, whatever quotes, brackets,
commas and colons they hold. So the keys and values of its object are in the grammar, and the
rendered object is read back as the fields of its entries and as nothing else.
-/
namespace StyleObject.Sheet

open Block Text Grammar

/-- Flattening leaves no spaces but U+0020, and it brings in no backslash. -/
theorem ordinary_flatten {css : Text} (h : '\\' ∉ css) : Ordinary (flatten css) := by
  intro c hc
  rcases mem_squeeze hc with rfl | ⟨hm, hs⟩
  · decide
  · refine ⟨?_, ?_, ?_⟩
    · rintro rfl
      exact h (mem_dropComments hm)
    · rintro rfl
      exact absurd hs (by decide)
    · rintro rfl
      exact absurd hs (by decide)

/-- The declarations of a style sheet without backslashes hold ordinary texts. -/
theorem ordinary_of_declarations {mode : Mode} {css : Text} {ds : List Declaration}
    (h : '\\' ∉ css) (hd : declarations mode css = .ok ds) :
    ∀ d ∈ ds, Ordinary d.property ∧ Ordinary d.value := by
  have hi : ∀ t ∈ fields ds, Ordinary t := fun t ht =>
    (ordinary_flatten h).of_isInfix ((inOrder_of_read hd).infix_of_mem ht)
  exact forall_mem_fields.1 hi

theorem isObject_render {options : Options} {css : Text} {o : Object} (h : '\\' ∉ css)
    (ho : object options css = .ok o) :
    IsObject options.indent (o.entries.map Entry.field) (o.render options.indent) := by
  obtain ⟨ds, hd, -, rfl⟩ := exists_declarations_of_object ho
  have hds := ordinary_of_declarations h hd
  have hes : ∀ e ∈ (objectOf options ds).entries, Ordinary e.name ∧ Written e.value.text := by
    have hempty : ∀ e ∈ (Object.empty options.duplicates).entries,
        Ordinary e.name ∧ Written e.value.text := fun e he => absurd he List.not_mem_nil
    refine Object.forall_mem_insertAll Ordinary (fun v => Written v.text) hempty fun e he => ?_
    obtain ⟨d, hm, rfl⟩ := List.mem_map.1 he
    exact ⟨(hds d hm).1, written_ofRaw options _ (hds d hm).2⟩
  refine Object.isObject_render (entries_ne_nil_of_object ho) fun e he => ?_
  obtain ⟨hname, hvalue⟩ := hes e he
  obtain ⟨hkey, hreturn⟩ := isKey_ofName hname
  exact ⟨hkey, hvalue.value, by simpa [Entry.text, Entry.key] using ⟨hreturn, hvalue.noReturn⟩⟩

/-- The text of a style sheet without backslashes is an object of the grammar, a reader that knows
the indent finds the entries in it, and it is no object with other fields. -/
theorem render_readable (options : Options) {css : Text} {o : Object} (h : '\\' ∉ css)
    (ho : object options css = .ok o) :
    ∃ text, render options css = .ok text ∧
      IsObject options.indent (o.entries.map Entry.field) text ∧
      read? options.indent text = some (o.entries.map Entry.field) ∧
      ∀ fs, IsObject options.indent fs text → fs = o.entries.map Entry.field := by
  have hi := isObject_render h ho
  refine ⟨o.render options.indent, ?_, hi, hi.read?_eq, fun fs hf => hf.unique hi⟩
  rw [render, ho]

/-- A quote in a name, and a bracket and an unclosed quote in values, are read back as they are. -/
theorem render_readable_quotes :
    '\\' ∉ "\x7b-it's: [1px, x; c: 'd, 2px;\x7d".toList ∧
    (∃ o, object ⟨.strict, .keepAll, 2, none⟩ "\x7b-it's: [1px, x; c: 'd, 2px;\x7d".toList =
      .ok o) ∧
    ∃ text, render ⟨.strict, .keepAll, 2, none⟩ "\x7b-it's: [1px, x; c: 'd, 2px;\x7d".toList =
        .ok text ∧
      read? 2 text =
        some [⟨"'-it\\'s'".toList, "['[1', 'x']".toList⟩, ⟨['c'], "'d, 2'".toList⟩] := by
  have hb : '\\' ∉ "\x7b-it's: [1px, x; c: 'd, 2px;\x7d".toList := by decide
  have hf : flatten "\x7b-it's: [1px, x; c: 'd, 2px;\x7d".toList =
      "\x7b-it's: [1px, x; c: 'd, 2px;\x7d".toList := by
    rw [flatten, dropComments_of_none (by decide)]
    decide
  have hd : declarations .strict "\x7b-it's: [1px, x; c: 'd, 2px;\x7d".toList =
      .ok [⟨"-it's".toList, "[1px, x".toList⟩, ⟨['c'], "'d, 2px".toList⟩] := by
    rw [declarations, hf]
    decide
  have ho : object ⟨.strict, .keepAll, 2, none⟩ "\x7b-it's: [1px, x; c: 'd, 2px;\x7d".toList =
      .ok (objectOf ⟨.strict, .keepAll, 2, none⟩
        [⟨"-it's".toList, "[1px, x".toList⟩, ⟨['c'], "'d, 2px".toList⟩]) := by
    rw [object, hd]
  obtain ⟨text, hr, -, hread, -⟩ := render_readable _ hb ho
  refine ⟨hb, ⟨_, ho⟩, text, hr, hread.trans ?_⟩
  decide

end StyleObject.Sheet
