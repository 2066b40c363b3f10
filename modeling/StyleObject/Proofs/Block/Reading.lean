import StyleObject.Proofs.Block.Form
import StyleObject.Proofs.Block.Mark

/-!
# Reading a block by its form

What a scan holds behind a text is said by the marks of that text alone. Each character keeps this
invariant, so a scan stops at the first mark that the form of a block does not allow, or at the
closing brace, or at the end of the text. From this follows the answer of reading for every text.
-/
namespace StyleObject.Block

/-- What a scan holds behind the text `u`, said by the marks of `u`. -/
structure Holds (u : Text) (s : Scan) : Prop where
  phase : Phase.start.after? (delimiters u) = some s.phase
  depth : s.depth = (u.count '(' : Int) - u.count ')'
  offset : s.offset = Text.byteLength u
  buffer : s.buffer = u.drop (lastStop 0 (marks u))
  declarations : s.declarations = declarationsFrom 0 (marks u)
  /-- The property is the text before the last mark, while this is a colon. -/
  property : s.phase = .value → ∃ ms m, marks u = ms ++ [m] ∧ m.delimiter = .colon ∧
    s.property = some (m.textFrom (lastStop 0 ms))
  noProperty : s.phase ≠ .value → s.property = none

theorem holds_start : Holds [] {} where
  phase := rfl
  depth := rfl
  offset := rfl
  buffer := rfl
  declarations := rfl
  property := by simp
  noProperty := by simp

namespace Holds

variable {u : Text} {s : Scan}

theorem balanced_iff (h : Holds u s) : Balanced u ↔ s.depth = 0 := by
  have hd := h.depth
  unfold Balanced
  omega

theorem mark?_eq (h : Holds u s) (c : Char) : mark? u c = (s.delimiter? c).map (⟨u, ·⟩) := by
  unfold mark? Scan.delimiter?
  by_cases hu : Balanced u
  · rw [if_pos hu, if_pos (h.balanced_iff.1 hu)]
  · rw [if_neg hu, if_neg (mt h.balanced_iff.2 hu)]
    rfl

theorem marks_concat_of_none (h : Holds u s) {c : Char} (hc : s.delimiter? c = none) :
    marks (u ++ [c]) = marks u := by
  simp [marks_concat, h.mark?_eq, hc]

theorem marks_concat_of_some (h : Holds u s) {c : Char} {d : Delimiter}
    (hc : s.delimiter? c = some d) : marks (u ++ [c]) = marks u ++ [⟨u, d⟩] := by
  simp [marks_concat, h.mark?_eq, hc]

theorem delimiters_concat_of_some (h : Holds u s) {c : Char} {d : Delimiter}
    (hc : s.delimiter? c = some d) : delimiters (u ++ [c]) = delimiters u ++ [d] := by
  simp [delimiters, h.marks_concat_of_some hc]

theorem eq_char (hc : s.delimiter? c = some d) : s.depth = 0 ∧ c = d.char := by
  unfold Scan.delimiter? at hc
  split at hc
  · next h => exact ⟨h, Delimiter.ofChar?_eq_some_iff.1 hc⟩
  · cases hc

/-- A collected character belongs to the text behind the last mark. -/
theorem collect (h : Holds u s) {c : Char} (hc : s.delimiter? c = none) :
    Holds (u ++ [c]) (s.collect c) := by
  have hm := h.marks_concat_of_none hc
  refine ⟨?_, ?_, ?_, ?_, ?_, ?_, h.noProperty⟩
  · simpa [delimiters, hm, Scan.collect] using h.phase
  · have ht : turn c = ([c].count '(' : Int) - [c].count ')' := by
      unfold turn
      split <;> simp_all
    simp only [Scan.collect, h.depth, ht, List.count_append]
    omega
  · simp [Scan.collect, h.offset]
  · rw [hm, List.drop_append_of_le_length (lastStop_marks_le u), ← h.buffer]
    rfl
  · rw [hm]
    exact h.declarations
  · rw [hm]
    exact h.property

/-- A delimiter that may stand here adds its mark, and a semicolon adds a declaration. -/
theorem move (h : Holds u s) {c : Char} {d : Delimiter} {q : Phase}
    (hc : s.delimiter? c = some d) (hq : s.phase.next? d = some q) :
    Holds (u ++ [c]) (s.move d q) := by
  obtain ⟨-, rfl⟩ := eq_char hc
  have hm := h.marks_concat_of_some hc
  refine ⟨?_, ?_, ?_, ?_, ?_, ?_, ?_⟩
  · rw [h.delimiters_concat_of_some hc, Phase.after?_concat, h.phase]
    exact hq
  · have hp : d.char ≠ '(' ∧ d.char ≠ ')' := by cases d <;> decide
    simp [h.depth, hp.1, hp.2]
  · simp [h.offset]
  · simp [hm, Mark.stop]
  · rw [hm]
    by_cases hd : d = .semicolon
    · subst hd
      obtain ⟨hv, -⟩ := Phase.next?_semicolon.1 hq
      obtain ⟨ms, m, hms, hd, hp⟩ := h.property hv
      have hb : Text.trim s.buffer = Mark.textFrom m.stop ⟨u, .semicolon⟩ := by
        rw [h.buffer, hms, lastStop_concat]
        rfl
      have hds : s.declarations = declarationsFrom 0 ms := by
        rw [h.declarations, hms, declarationsFrom_concat _ _ (by simp [hd])]
      rw [Scan.move_semicolon_declarations, hds, hp, hb, hms, List.append_assoc]
      exact (declarationsFrom_concat_pair 0 ms hd rfl).symm
    · rw [Scan.move_declarations hd, declarationsFrom_concat 0 _ hd]
      exact h.declarations
  · intro hv
    obtain rfl : d = .colon := Phase.eq_colon_of_next?_value (hq.trans (congrArg some hv))
    refine ⟨marks u, ⟨u, .colon⟩, hm, rfl, ?_⟩
    rw [Scan.move_colon_property, h.buffer]
    rfl
  · intro hv
    cases d with
    | colon => cases hp : s.phase <;> simp_all [Phase.next?]
    | semicolon => rfl
    | _ =>
      apply h.noProperty
      intro hp
      simp [hp, Phase.next?] at hq

/-- One character keeps the invariant. -/
theorem step (h : Holds u s) {c : Char} {s' : Scan} (hs : s.step c = .ok s') :
    Holds (u ++ [c]) s' := by
  rcases Scan.step_eq_ok.1 hs with ⟨hc, rfl⟩ | ⟨d, q, hc, hq, rfl⟩
  · exact h.collect hc
  · exact h.move hc hq

/-- A scan goes on to the closing brace or to the end of the text. -/
theorem run (h : Holds u s) {r : Text} {s' : Scan} (hr : s.run r = .ok s') :
    ∃ v, v <+: r ∧ Holds (u ++ v) s' ∧ (s'.phase ≠ .closed → v = r) := by
  induction r generalizing u s with
  | nil =>
    cases hr
    exact ⟨[], List.prefix_refl _, by simpa using h, fun _ => rfl⟩
  | cons c r ih =>
    by_cases hp : s.phase = .closed
    · rw [Scan.run_closed hp] at hr
      cases hr
      exact ⟨[], List.nil_prefix, by simpa using h, fun hn => absurd hp hn⟩
    · rw [Scan.run, if_neg hp] at hr
      split at hr
      · next s₁ hs =>
        obtain ⟨v, hv, hh, he⟩ := ih (h.step hs) hr
        rw [List.append_assoc] at hh
        exact ⟨c :: v, (List.prefix_cons_inj c).2 hv, hh, fun hn => by rw [he hn]⟩
      · cases hr

/-- A fault of a scan is the first mark that may not stand where it does. -/
theorem run_error (h : Holds u s) {r : Text} {f : Fault} (hr : s.run r = .error f) :
    ∃ v d w s', r = v ++ d.char :: w ∧ Holds (u ++ v) s' ∧ s'.delimiter? d.char = some d ∧
      s'.phase ≠ .closed ∧ s'.phase.next? d = none ∧
      f = .unexpected d (Text.byteLength (u ++ v)) s'.phase := by
  induction r generalizing u s with
  | nil => cases hr
  | cons c r ih =>
    by_cases hp : s.phase = .closed
    · rw [Scan.run_closed hp] at hr
      cases hr
    · rw [Scan.run, if_neg hp] at hr
      split at hr
      · next s₁ hs =>
        obtain ⟨v, d, w, s', rfl, hh, hd, hn, hq, hf⟩ := ih (h.step hs) hr
        rw [List.append_assoc] at hh hf
        exact ⟨c :: v, d, w, s', rfl, hh, hd, hn, hq, hf⟩
      · next f' hs =>
        cases hr
        obtain ⟨d, hd, hq, rfl⟩ := Scan.step_eq_error.1 hs
        obtain ⟨-, rfl⟩ := eq_char hd
        refine ⟨[], d, r, s, rfl, ?_, hd, hp, hq, ?_⟩
        · rwa [List.append_nil]
        · rw [List.append_nil, h.offset]

/-- The text that a scan has left over is the text behind the last mark. -/
theorem leftover_eq (h : Holds u s) : s.leftover = restOf u := by
  rw [Scan.leftover, h.buffer, restOf]

theorem declarations_eq_nil_iff (h : Holds u s) :
    s.declarations = [] ↔ .semicolon ∉ delimiters u := by
  rw [h.declarations, ← List.length_eq_zero_iff, length_declarationsFrom 0 h.phase]
  exact List.count_eq_zero

end Holds

/-- The answer for a text that ends before its closing brace. Text that is left over is a fault if
the mode is strict or no semicolon stands at the top. -/
def answerAtEnd (mode : Mode) (t : Text) : Except Fault (List Declaration) :=
  if restOf t ≠ [] ∧ (mode = .strict ∨ .semicolon ∉ delimiters t) then
    .error (.unterminated (restOf t))
  else if mode = .strict then .error .unclosed
  else .ok (declarationsFrom 0 (marks t))

theorem Holds.finish_closed {u : Text} {s : Scan} (h : Holds u s) (mode : Mode)
    (hc : s.phase = .closed) : s.finish mode = .ok (declarationsFrom 0 (marks u)) := by
  rw [Scan.finish.eq_def, if_pos hc, h.declarations]

theorem Holds.finish_open {u : Text} {s : Scan} (h : Holds u s) (mode : Mode)
    (hc : s.phase ≠ .closed) : s.finish mode = answerAtEnd mode u := by
  rw [Scan.finish.eq_def, if_neg hc, h.leftover_eq, answerAtEnd, ← h.declarations]
  simp only [h.declarations_eq_nil_iff]
  cases mode <;> simp

/-- Reading a text stops behind a whole block, or at a delimiter that may not stand where it does,
or at the end of the text. -/
theorem read_cases (mode : Mode) (t : Text) :
    (∃ v, v <+: t ∧ delimiters v ∈ form ∧ read mode t = .ok (declarationsFrom 0 (marks v))) ∨
    (∃ v d p, v ++ [d.char] <+: t ∧ Balanced v ∧ Phase.start.after? (delimiters v) = some p ∧
      p ≠ .closed ∧ p.next? d = none ∧
      read mode t = .error (.unexpected d (Text.byteLength v) p)) ∨
    (∃ p, Phase.start.after? (delimiters t) = some p ∧ p ≠ .closed ∧
      read mode t = answerAtEnd mode t) := by
  cases hr : Scan.run {} t with
  | ok s =>
    have hread : read mode t = s.finish mode := by rw [read, hr]
    obtain ⟨v, hv, h, he⟩ := holds_start.run hr
    by_cases hc : s.phase = .closed
    · refine Or.inl ⟨v, hv, ?_, hread.trans (h.finish_closed mode hc)⟩
      rw [mem_form_iff, ← hc]
      exact h.phase
    · obtain rfl := he hc
      exact Or.inr (Or.inr ⟨s.phase, h.phase, hc, hread.trans (h.finish_open mode hc)⟩)
  | error f =>
    obtain ⟨v, d, w, s, rfl, h, hd, hc, hq, rfl⟩ := holds_start.run_error hr
    refine Or.inr (Or.inl ⟨v, d, s.phase, ?_, ?_, h.phase, hc, hq, by rw [read, hr]; rfl⟩)
    · exact ⟨w, by simp⟩
    · exact h.balanced_iff.2 (Holds.eq_char hd).1

/-- A mark that may not stand where it does ends every way to go on with a block. -/
theorem not_begins_concat {w : List Delimiter} {d : Delimiter} {p : Phase}
    (hp : Phase.start.after? w = some p) (hq : p.next? d = none) : ¬ Begins (w ++ [d]) := by
  rw [begins_iff]
  rintro ⟨q, h⟩
  obtain ⟨r, hr, hd⟩ := Phase.after?_concat_eq_some.1 h
  obtain rfl := Option.some.inj (hp.symm.trans hr)
  cases hq.symm.trans hd

theorem delimiters_take (t : Text) (n : Nat) :
    (delimiters t).take n = ((marks t).take n).map Mark.delimiter := by
  rw [delimiters, List.map_take]

theorem concat_prefix_delimiters {v t : Text} {d : Delimiter} (hb : Balanced v)
    (h : v ++ [d.char] <+: t) :
    marks v ++ [⟨v, d⟩] <+: marks t ∧ delimiters v ++ [d] <+: delimiters t := by
  obtain ⟨w, rfl⟩ := h
  have hm := marks_isPrefix (v ++ [d.char]) w
  rw [marks_concat_delimiter hb] at hm
  refine ⟨hm, ?_⟩
  have hd := hm.map Mark.delimiter
  rwa [List.map_append] at hd

/-- No whole block is among the delimiters that go on with one that may not stand where it does. -/
theorem notMem_form_of_stuck {w v u : List Delimiter} {d : Delimiter} {p : Phase}
    (hp : Phase.start.after? w = some p) (hc : p ≠ .closed) (hq : p.next? d = none)
    (hw : w ++ [d] <+: u) (hv : v <+: u) : v ∉ form := by
  intro h
  have hn := not_begins_concat hp hq
  rcases List.prefix_or_prefix_of_prefix hv hw with hl | hl
  · rcases List.prefix_concat_iff.1 hl with rfl | hl
    · exact hn (begins_of_mem_form h)
    · exact notMem_form_of_isPrefix hp hc hl h
  · exact hn ((begins_of_mem_form h).of_isPrefix hl)

/-- A whole block is read to its closing brace, and what is behind it does not matter. -/
theorem read_of_mem_form (mode : Mode) {t : Text} {n : Nat} (h : (delimiters t).take n ∈ form) :
    read mode t = .ok (declarationsFrom 0 ((marks t).take n)) := by
  rcases read_cases mode t with ⟨v, hv, hf, hr⟩ | ⟨v, d, p, hv, hb, hp, hc, hq, -⟩ | ⟨p, hp, hc, -⟩
  · have ht := take_length_marks hv
    have he : (delimiters t).take n = delimiters v := by
      refine form_prefix_unique h hf (List.take_prefix n _) ?_
      obtain ⟨w, rfl⟩ := hv
      exact delimiters_isPrefix v w
    have hl : ((marks t).take n).length = (marks v).length := by
      simpa [delimiters_take, delimiters] using congrArg List.length he
    have hm : (marks t).take n = marks v := by
      rw [← ht, ← hl, List.length_take, List.take_eq_take_min]
    rw [hr, hm]
  · exact absurd h (notMem_form_of_stuck hp hc hq (concat_prefix_delimiters hb hv).2
      (List.take_prefix n _))
  · exact absurd h (notMem_form_of_isPrefix hp hc (List.take_prefix n _))

/-- The first delimiter that ends every way to go on with a block is a fault. -/
theorem read_of_not_begins (mode : Mode) {t : Text} (h : ∀ n, (delimiters t).take n ∉ form)
    (hn : ¬ Begins (delimiters t)) :
    ∃ n m p, (marks t)[n]? = some m ∧ Begins ((delimiters t).take n) ∧
      ¬ Begins ((delimiters t).take (n + 1)) ∧
      Phase.start.after? ((delimiters t).take n) = some p ∧
      read mode t = .error (.unexpected m.delimiter (Text.byteLength m.before) p) := by
  rcases read_cases mode t with ⟨v, hv, hf, -⟩ | ⟨v, d, p, hv, hb, hp, hc, hq, hr⟩ | ⟨p, hp, -, -⟩
  · have hd : (delimiters t).take (marks v).length = delimiters v := by
      rw [delimiters_take, take_length_marks hv, delimiters]
    exact absurd hf (hd ▸ h _)
  · obtain ⟨⟨r, hm⟩, -⟩ := concat_prefix_delimiters hb hv
    have h₁ : (delimiters t).take (marks v).length = delimiters v := by
      rw [delimiters_take, ← hm, List.append_assoc, List.take_left, delimiters]
    have h₂ : (delimiters t).take ((marks v).length + 1) = delimiters v ++ [d] := by
      rw [delimiters_take, ← hm, List.take_left' (by simp), List.map_append, delimiters]
      rfl
    refine ⟨(marks v).length, ⟨v, d⟩, p, by simp [← hm], ?_, ?_, ?_, hr⟩
    · rw [h₁]
      exact begins_iff.2 ⟨p, hp⟩
    · rw [h₂]
      exact not_begins_concat hp hq
    · rw [h₁]
      exact hp
  · exact absurd (begins_iff.2 ⟨p, hp⟩) hn

/-- A text that begins a block and does not end it is judged by what is left over. -/
theorem read_of_begins (mode : Mode) {t : Text} (h : ∀ n, (delimiters t).take n ∉ form)
    (hb : Begins (delimiters t)) : read mode t = answerAtEnd mode t := by
  rcases read_cases mode t with ⟨v, hv, hf, -⟩ | ⟨v, d, p, hv, hl, hp, -, hq, -⟩ | ⟨p, -, -, hr⟩
  · have hd : (delimiters t).take (marks v).length = delimiters v := by
      rw [delimiters_take, take_length_marks hv, delimiters]
    exact absurd hf (hd ▸ h _)
  · exact absurd (hb.of_isPrefix (concat_prefix_delimiters hl hv).2) (not_begins_concat hp hq)
  · exact hr

/-- Reading a text gives what the form of its delimiters says. If some of them from the first on are
a whole block, it gives the declarations of that block. Else, if they do not begin a block, it names
the first of them at which they stop to begin one. Else the text ends before the closing brace. -/
theorem read_by_form (mode : Mode) (t : Text) :
    (∀ n, (delimiters t).take n ∈ form →
      read mode t = .ok (declarationsFrom 0 ((marks t).take n))) ∧
    ((∀ n, (delimiters t).take n ∉ form) → ¬ Begins (delimiters t) →
      ∃ n m p, (marks t)[n]? = some m ∧ Begins ((delimiters t).take n) ∧
        ¬ Begins ((delimiters t).take (n + 1)) ∧
        Phase.start.after? ((delimiters t).take n) = some p ∧
        read mode t = .error (.unexpected m.delimiter (Text.byteLength m.before) p)) ∧
    ((∀ n, (delimiters t).take n ∉ form) → Begins (delimiters t) →
      read mode t =
        if restOf t ≠ [] ∧ (mode = .strict ∨ .semicolon ∉ delimiters t) then
          .error (.unterminated (restOf t))
        else if mode = .strict then .error .unclosed
        else .ok (declarationsFrom 0 (marks t))) :=
  ⟨fun _ h => read_of_mem_form mode h, read_of_not_begins mode, read_of_begins mode⟩

end StyleObject.Block
