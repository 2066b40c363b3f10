import StyleObject.Proofs.Block.Field

/-!
# Printing a block

Declarations are printed on one line, as a block or as a list without the opening brace. Every field
of clean declarations is a segment of the printed text, so reading it in any mode gives the same
declarations back. Since only clean fields are ever read, these are all that can be read.
-/
namespace StyleObject.Block

/-- A declaration as it is printed, with a space in front of it. -/
def printDeclaration (d : Declaration) : Text :=
  ' ' :: d.property ++ ':' :: ' ' :: d.value ++ [';']

/-- The block of some declarations on one line. -/
def print (ds : List Declaration) : Text := '\x7b' :: ds.flatMap printDeclaration ++ [' ', '\x7d']

/-- Some declarations on one line, without the opening brace. -/
def printList (ds : List Declaration) : Text :=
  (ds.flatMap fun d => d.property ++ ':' :: ' ' :: d.value ++ [';', ' ']) ++ ['\x7d']

theorem space_cons_printList (ds : List Declaration) :
    ' ' :: printList ds = ds.flatMap printDeclaration ++ [' ', '\x7d'] := by
  induction ds with
  | nil => rfl
  | cons d ds ih =>
    rw [List.flatMap_cons, List.append_assoc, ← ih]
    simp [printList, printDeclaration]

/-- A block is an opening brace and a list. -/
theorem print_eq_cons_printList (ds : List Declaration) :
    print ds = '\x7b' :: ' ' :: printList ds := by
  rw [space_cons_printList]
  rfl

/-- The segments of the printed declarations. -/
def printedSegments (ds : List Declaration) : List Segment :=
  ds.flatMap fun d => [⟨' ' :: d.property, .colon⟩, ⟨' ' :: d.value, .semicolon⟩]

/-- The segments of the printed declarations and of the closing brace. -/
def closedSegments (ds : List Declaration) : List Segment :=
  printedSegments ds ++ [⟨[' '], .closeBrace⟩]

@[simp] theorem printedSegments_cons (d : Declaration) (ds : List Declaration) :
    printedSegments (d :: ds) =
      ⟨' ' :: d.property, .colon⟩ :: ⟨' ' :: d.value, .semicolon⟩ :: printedSegments ds := rfl

theorem join_printedSegments (ds : List Declaration) :
    join (printedSegments ds) = ds.flatMap printDeclaration := by
  rw [join, printedSegments, List.flatMap_assoc]
  refine List.flatMap_congr fun d _ => ?_
  simp [printDeclaration, Delimiter.char]

theorem join_closedSegments (ds : List Declaration) :
    join (closedSegments ds) = ' ' :: printList ds := by
  rw [space_cons_printList, ← join_printedSegments, closedSegments, join, join, List.flatMap_append]
  rfl

theorem flat_space_append {t : Text} (h : Flat t) : Flat (' ' :: t) :=
  (flat_of_blank Text.blank_space).append h

theorem flat_of_mem_closedSegments {ds : List Declaration} (h : ∀ d ∈ ds, CleanDeclaration d) :
    ∀ s ∈ closedSegments ds, Flat s.text := by
  intro s hs
  rcases List.mem_append.1 hs with hs | hs
  · obtain ⟨d, hd, hs⟩ := List.mem_flatMap.1 hs
    have hc := h d hd
    rcases List.mem_pair.1 hs with rfl | rfl
    · exact flat_space_append hc.property.toFlat
    · exact flat_space_append hc.value.toFlat
  · obtain rfl := List.mem_singleton.1 hs
    exact flat_of_blank Text.blank_space

/-- The segments of printed declarations hold these declarations. -/
theorem declarationsOf_printedSegments {ds : List Declaration} (h : ∀ d ∈ ds, CleanDeclaration d)
    (ss : List Segment) :
    declarationsOf (printedSegments ds ++ ss) = ds ++ declarationsOf ss := by
  induction ds with
  | nil => rfl
  | cons d ds ih =>
    have hd := h d List.mem_cons_self
    have hds : ∀ e ∈ ds, CleanDeclaration e := fun e he => h e (List.mem_cons_of_mem _ he)
    rw [printedSegments_cons, List.cons_append, List.cons_append, declarationsOf,
      if_pos ⟨rfl, rfl⟩, ih hds, Text.trim_space_append hd.property.toTrimmed,
      Text.trim_space_append hd.value.toTrimmed, List.cons_append]

theorem declarationsOf_closedSegments {ds : List Declaration} (h : ∀ d ∈ ds, CleanDeclaration d) :
    declarationsOf (closedSegments ds) = ds := by
  rw [closedSegments, declarationsOf_printedSegments h]
  exact List.append_nil ds

theorem after?_printedSegments {p : Phase} {ds : List Declaration}
    (h : p = .between ∨ p = .opened ∧ ds ≠ []) :
    p.after? ((printedSegments ds).map Segment.delimiter) = some .between := by
  induction ds generalizing p with
  | nil =>
    obtain rfl : p = .between := h.resolve_right fun h => h.2 rfl
    rfl
  | cons d ds ih =>
    rcases h with rfl | ⟨rfl, -⟩
    · exact ih (Or.inl rfl)
    · exact ih (Or.inl rfl)

theorem after?_closedSegments {p : Phase} {ds : List Declaration}
    (h : p = .between ∨ p = .opened ∧ ds ≠ []) :
    p.after? ((closedSegments ds).map Segment.delimiter) = some .closed := by
  rw [closedSegments, List.map_append, Phase.after?_append, after?_printedSegments h]
  rfl

/-- Flat segments whose delimiters are a whole block are read as what they hold. -/
theorem read_join {ss : List Segment} (hs : ∀ s ∈ ss, Flat s.text)
    (hf : ss.map Segment.delimiter ∈ form) (mode : Mode) :
    read mode (join ss) = .ok (declarationsOf ss) := by
  have hd := delimiters_join_append hs marks_nil
  have hds := declarationsFrom_join_append hs marks_nil
  rw [List.append_nil] at hd hds
  have ht : (delimiters (join ss)).take (marks (join ss)).length = delimiters (join ss) :=
    List.take_of_length_le (by simp [delimiters])
  rw [read_of_mem_form mode (by rwa [ht, hd]), List.take_length, hds]

/-- A printed block is read back in every mode. -/
theorem read_print {ds : List Declaration} (h : ∀ d ∈ ds, CleanDeclaration d) (hn : ds ≠ [])
    (mode : Mode) : read mode (print ds) = .ok ds := by
  have hp : print ds = join (⟨[], .openBrace⟩ :: closedSegments ds) := by
    rw [print_eq_cons_printList, ← join_closedSegments]
    rfl
  have hs : ∀ s ∈ (⟨[], .openBrace⟩ :: closedSegments ds : List Segment), Flat s.text :=
    List.forall_mem_cons.2 ⟨flat_nil, flat_of_mem_closedSegments h⟩
  have hd : declarationsOf (⟨[], .openBrace⟩ :: closedSegments ds) = ds := by
    obtain ⟨d, ds, rfl⟩ := List.exists_cons_of_ne_nil hn
    exact declarationsOf_closedSegments h
  rw [hp, read_join hs (mem_form_iff.2 (after?_closedSegments (Or.inr ⟨rfl, hn⟩))), hd]

/-- A printed list is read back in every mode. -/
theorem read_printList {ds : List Declaration} (h : ∀ d ∈ ds, CleanDeclaration d) (hn : ds ≠ [])
    (mode : Mode) : read mode (printList ds) = .ok ds := by
  obtain ⟨d, ds, rfl⟩ := List.exists_cons_of_ne_nil hn
  obtain ⟨hd, hds⟩ := List.forall_mem_cons.1 h
  set ss : List Segment :=
    ⟨d.property, .colon⟩ :: ⟨' ' :: d.value, .semicolon⟩ :: closedSegments ds with hss
  have hp : printList (d :: ds) = join ss := by
    have hj : join (closedSegments (d :: ds)) = ' ' :: join ss := rfl
    rw [join_closedSegments] at hj
    exact (List.cons.inj hj).2
  have hs : ∀ s ∈ ss, Flat s.text :=
    List.forall_mem_cons.2 ⟨hd.property.toFlat, List.forall_mem_cons.2
      ⟨flat_space_append hd.value.toFlat, flat_of_mem_closedSegments hds⟩⟩
  have hf : ss.map Segment.delimiter ∈ form :=
    mem_form_iff.2 (after?_closedSegments (p := .between) (Or.inl rfl))
  have hds' : declarationsOf ss = d :: ds := by
    rw [hss, declarationsOf, if_pos ⟨rfl, rfl⟩, declarationsOf_closedSegments hds,
      Text.trim_of_trimmed hd.property.toTrimmed, Text.trim_space_append hd.value.toTrimmed]
  rw [hp, read_join hs hf, hds']

/-- The fields of what is read are trimmed and balanced, and their delimiters are sheltered by
parentheses. One or more declarations with such fields are what is read from their block and from
their list, in every mode. -/
theorem read_exactly_clean (mode : Mode) :
    (∀ t ds, read mode t = .ok ds →
      ∀ x ∈ fields ds, Text.Trimmed x ∧ Balanced x ∧ Sheltered x) ∧
    ∀ ds, ds ≠ [] → (∀ x ∈ fields ds, Text.Trimmed x ∧ Balanced x ∧ Sheltered x) →
      read mode (print ds) = .ok ds ∧ read mode (printList ds) = .ok ds := by
  simp only [← clean_iff, clean_fields_iff]
  refine ⟨fun t ds h => clean_of_read h, fun ds hn h => ?_⟩
  exact ⟨read_print h hn mode, read_printList h hn mode⟩

/-- A semicolon behind a parenthesis that is closed too early is text, and a property may be
empty. -/
theorem read_exactly_clean_early :
    (∀ x ∈ fields [⟨['a'], ");(".toList⟩, ⟨[], "f(:)".toList⟩],
      Text.Trimmed x ∧ Balanced x ∧ Sheltered x) ∧
    read .strict "\x7b a: );(; : f(:); \x7d".toList =
      .ok [⟨['a'], ");(".toList⟩, ⟨[], "f(:)".toList⟩] ∧
    read .strict "a: );(; : f(:); \x7d".toList =
      .ok [⟨['a'], ");(".toList⟩, ⟨[], "f(:)".toList⟩] := by
  have h : ∀ x ∈ fields [⟨['a'], ");(".toList⟩, ⟨[], "f(:)".toList⟩],
      Text.Trimmed x ∧ Balanced x ∧ Sheltered x := by decide
  exact ⟨h, (read_exactly_clean .strict).2 _ (by decide) h⟩

end StyleObject.Block
