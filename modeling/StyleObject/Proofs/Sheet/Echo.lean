import StyleObject.Proofs.Object.Frame
import StyleObject.Proofs.Object.Insert
import StyleObject.Proofs.Sheet.Object
import StyleObject.Proofs.Sheet.Print
import StyleObject.Proofs.Value.Kept

/-!
# Rendering twice

The keys and values of an object are flat, and its text has no comment as long as the entries stand
in the order of the declarations, or no comment mark opens. So flattening the text leaves its frame
as it is, and every reading stops at the delimiter behind the first colon: what is rendered is no
style sheet, and a second rendering gives it back.
-/
namespace StyleObject.Sheet

open Block Text

variable {options : Options} {css : Text} {o : Object}

/-- A flat text without comment marks but those of `t`. -/
structure Quiet (t s : Text) : Prop where
  flat : Flat s
  marks : MarksWithin s t

theorem flat_ofName {name : Text} (h : Flat name) : Flat (Key.ofName name) := by
  rcases Key.kept_or_neutral name with hk | hn
  · exact (flat_of_kept hk).2 h
  · exact flat_of_neutral hn

theorem quiet_entry (options : Options) {d : Declaration} {t : Text} (h : CleanDeclaration d)
    (hp : d.property <:+: t) (hv : d.value <:+: t) :
    Quiet t (entry options d).key ∧ Quiet t (entry options d).value.text := by
  have hk := Value.kept_ofRaw options (Key.ofName d.property) d.value
  exact ⟨⟨flat_ofName h.property.toFlat, (Key.marksWithin_ofName d.property).trans (.of_isInfix hp)⟩,
    ⟨(flat_of_kept hk).2 h.value.toFlat, hk.marks.trans (.of_isInfix hv)⟩⟩

/-- The keys and values of an object are flat, and their comment marks are those of the style
sheet. -/
theorem quiet_entries (h : object options css = .ok o) :
    ∀ e ∈ o.entries, Quiet (flatten css) e.key ∧ Quiet (flatten css) e.value.text := by
  obtain ⟨ds, hd, -, rfl⟩ := exists_declarations_of_object h
  refine Object.forall_mem_insertAll (fun name => Quiet (flatten css) (Key.ofName name))
    (fun v => Quiet (flatten css) v.text) (fun e he => absurd he List.not_mem_nil) fun e he => ?_
  obtain ⟨d, hm, rfl⟩ := List.mem_map.1 he
  have hi : ∀ t ∈ fields ds, t <:+: flatten css := fun t ht => (inOrder_of_read hd).infix_of_mem ht
  obtain ⟨hp, hv⟩ := forall_mem_fields.1 hi d hm
  exact quiet_entry options (clean_of_read hd d hm) hp hv

/-- The entries of declarations have no comment marks but those of a text in which the fields stand
in order. -/
theorem marksWithin_bare (options : Options) {ds : List Declaration} {t : Text}
    (h : InOrder (fields ds) t) : MarksWithin (Object.bare (ds.map (entry options))) t := by
  have hm := marksWithin_flatMap (f := fun d => Key.ofName d.property)
    (g := fun d => (entry options d).value.text) (x := ',')
    (fun d => Key.marksWithin_ofName d.property) (fun d => (Value.kept_ofRaw options _ d.value).marks)
    (by decide) (fun t => .cons (x := '\x7d') (by decide) (.of_neutral neutral_nil t)) h
  have ht : (ds.map (entry options)).flatMap Entry.text =
      ds.flatMap fun d => Key.ofName d.property ++ ':' :: ' ' :: (entry options d).value.text ++
        [','] := by
    rw [List.flatMap_map]
    refine List.flatMap_congr fun d _ => ?_
    simp [Entry.text, Entry.key, entry]
  rw [Object.bare, ht]
  exact .cons (by decide) hm

/-- A rendered object has no comment. Where a later value may take an earlier place, this needs a
style sheet in which no comment mark is left open. -/
theorem not_hasComment_render (h : options.duplicates = .keepAll ∨ ¬ Opens (dropComments css))
    (ho : object options css = .ok o) (n : Nat) : ¬ HasComment (o.render n) := by
  intro hc
  have hb : HasComment (Object.bare o.entries) := (o.kept_render n).marks.comment hc
  rcases h with h | h
  · -- The entries stand in the order of the declarations.
    obtain ⟨ds, hd, -, rfl⟩ := exists_declarations_of_object ho
    have he : (objectOf options ds).entries = ds.map (entry options) :=
      Object.entries_insertAll_of_keepAll h (ds.map (entry options))
    rw [he] at hb
    exact not_hasComment_flatten css ((marksWithin_bare options (inOrder_of_read hd)).comment hb)
  · -- The order of the entries does not matter when none of them opens a comment.
    have hf : ¬ Opens (flatten css) := fun hf => h ((kept_squeeze _).marks.opens hf)
    refine Object.not_opens_bare (fun e he => ?_) hb.opens
    obtain ⟨hk, hv⟩ := quiet_entries ho e he
    exact ⟨fun hm => hf (hk.marks.opens hm), fun hm => hf (hv.marks.opens hm)⟩

/-- A rendered object has the braces and one colon for each entry at its top. -/
theorem delimiters_flatten_render
    (h : options.duplicates = .keepAll ∨ ¬ Opens (dropComments css))
    (ho : object options css = .ok o) (n : Nat) :
    delimiters (flatten (o.render n)) =
      .openBrace :: (List.replicate o.size .colon ++ [.closeBrace]) := by
  have hk : Kept (flatten (o.render n)) (Object.bare o.entries) := by
    rw [flatten, dropComments_of_not_hasComment (not_hasComment_render h ho n)]
    exact (kept_squeeze _).trans (o.kept_render n)
  rw [delimiters_of_kept hk]
  exact Object.delimiters_bare fun e he =>
    ⟨(quiet_entries ho e he).1.flat, (quiet_entries ho e he).2.flat⟩

theorem size_pos (ho : object options css = .ok o) : 0 < o.size :=
  List.length_pos_iff.2 (entries_ne_nil_of_object ho)

/-- Whatever the options are, reading a rendered object stops behind its first colon. -/
theorem exists_render_eq_error (h : options.duplicates = .keepAll ∨ ¬ Opens (dropComments css))
    (ho : object options css = .ok o) (n : Nat) :
    ∃ offset, ∀ options', render options' (o.render n) =
      .error (.unexpected (if 1 < o.size then .colon else .closeBrace) offset .value) := by
  obtain ⟨offset, hr⟩ := read_of_delimiters (size_pos ho) (delimiters_flatten_render h ho n)
  refine ⟨offset, fun options' => ?_⟩
  rw [render, object, declarations, hr]

/-- Rendering twice is rendering once, if every declaration is kept or no comment mark opens. What
is rendered is no style sheet for any options: the fault is the colon of the second entry or, if
there is no second one, the closing brace. -/
theorem renderOrEcho_twice (options : Options) {css : Text}
    (h : options.duplicates = .keepAll ∨ ¬ Opens (dropComments css)) :
    renderOrEcho options (renderOrEcho options css) = renderOrEcho options css ∧
    ∀ out, render options css = .ok out →
      ∃ o, object options css = .ok o ∧ out = o.render options.indent ∧ 0 < o.size ∧
        ∃ offset, ∀ options', render options' out =
          .error (.unexpected (if 1 < o.size then .colon else .closeBrace) offset .value) := by
  refine ⟨?_, fun out hr => ?_⟩
  · cases hr : render options css with
    | ok out =>
      obtain ⟨o, ho, rfl⟩ := object_of_render hr
      obtain ⟨offset, he⟩ := exists_render_eq_error h ho options.indent
      have hone : renderOrEcho options css = o.render options.indent := by rw [renderOrEcho, hr]
      rw [hone, renderOrEcho, he options]
    | error fault =>
      have hone : renderOrEcho options css = css := by rw [renderOrEcho, hr]
      rw [hone, hone]
  · obtain ⟨o, ho, rfl⟩ := object_of_render hr
    exact ⟨o, ho, rfl, size_pos ho, exists_render_eq_error h ho options.indent⟩

/-- A semicolon in parentheses and an opening comment mark stand in the object, which is given back
as it is. -/
theorem renderOrEcho_twice_unclosed :
    render ⟨.lenient, .keepAll, 2, none⟩ "a/*: f(;) 2px; b: c;".toList =
      .ok "\x7b\n  'a/*': ['f(;)', 2],\n  b: 'c',\n\x7d".toList ∧
    renderOrEcho ⟨.lenient, .keepAll, 2, none⟩
        "\x7b\n  'a/*': ['f(;)', 2],\n  b: 'c',\n\x7d".toList =
      "\x7b\n  'a/*': ['f(;)', 2],\n  b: 'c',\n\x7d".toList ∧
    ∃ offset, render {} "\x7b\n  'a/*': ['f(;)', 2],\n  b: 'c',\n\x7d".toList =
      .error (.unexpected .colon offset .value) := by
  have hf : flatten "a/*: f(;) 2px; b: c;".toList = "a/*: f(;) 2px; b: c;".toList := by
    rw [flatten, dropComments_of_none (by decide)]
    decide
  have hd : declarations .lenient "a/*: f(;) 2px; b: c;".toList =
      .ok [⟨"a/*".toList, "f(;) 2px".toList⟩, ⟨['b'], ['c']⟩] := by
    rw [declarations, hf]
    decide
  have ho : object ⟨.lenient, .keepAll, 2, none⟩ "a/*: f(;) 2px; b: c;".toList =
      .ok (objectOf ⟨.lenient, .keepAll, 2, none⟩
        [⟨"a/*".toList, "f(;) 2px".toList⟩, ⟨['b'], ['c']⟩]) := by
    rw [object, hd]
  have hr : render ⟨.lenient, .keepAll, 2, none⟩ "a/*: f(;) 2px; b: c;".toList =
      .ok "\x7b\n  'a/*': ['f(;)', 2],\n  b: 'c',\n\x7d".toList := by
    rw [render, ho]
    decide
  have hk : Options.duplicates ⟨.lenient, .keepAll, 2, none⟩ = .keepAll ∨
      ¬ Opens (dropComments "a/*: f(;) 2px; b: c;".toList) := Or.inl rfl
  obtain ⟨htwice, hout⟩ := renderOrEcho_twice ⟨.lenient, .keepAll, 2, none⟩ hk
  obtain ⟨o, ho', -, -, offset, he⟩ := hout _ hr
  have hone : renderOrEcho ⟨.lenient, .keepAll, 2, none⟩ "a/*: f(;) 2px; b: c;".toList =
      "\x7b\n  'a/*': ['f(;)', 2],\n  b: 'c',\n\x7d".toList := by rw [renderOrEcho, hr]
  have hs : 1 < o.size := by
    rw [← Except.ok.inj (ho.symm.trans ho')]
    decide
  rw [hone] at htwice
  refine ⟨hr, htwice, offset, ?_⟩
  rw [he, if_pos hs]

end StyleObject.Sheet
