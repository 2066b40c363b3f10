import StyleObject.Proofs.Block.Append
import StyleObject.Proofs.Block.Segment
import StyleObject.Proofs.Block.Reading

/-!
# Selectors

What stands before the declarations of a block does not count. A scan that has entered a block
through its brace and a scan of the bare declarations go on side by side: they differ in the phase
until the first colon, which both allow, and in the bytes that the selector and the brace take.
-/
namespace StyleObject

/-- The fault of a text that stands `n` bytes further on. -/
def Fault.behind (n : Nat) : Fault → Fault
  | unexpected d offset p => unexpected d (n + offset) p
  | unterminated x => unterminated x
  | noDeclarations => noDeclarations
  | unclosed => unclosed

namespace Block

/-- The phase within a block that stands for a phase without its brace. -/
def Phase.enter : Phase → Phase
  | start => opened
  | p => p

/-- The scan within a block, behind `n` bytes, that stands for a scan without its brace. -/
def Scan.enter (n : Nat) (s : Scan) : Scan :=
  { s with phase := s.phase.enter, offset := n + s.offset }

variable {n : Nat} {p q : Phase} {d : Delimiter} {s : Scan} {c : Char} {mode : Mode} {t u r : Text}

theorem Phase.enter_eq_closed : p.enter = closed ↔ p = closed := by cases p <;> simp [enter]

theorem Phase.enter_of_ne_start (h : p ≠ start) : p.enter = p := by
  cases p with
  | start => contradiction
  | _ => rfl

/-- No delimiter leads back to the start. -/
theorem Phase.ne_start_of_next? (h : p.next? d = some q) : q ≠ start := by
  cases p <;> cases d <;> simp [next?] at h <;> subst h <;> decide

/-- Within a block a delimiter moves the phase as it does without the brace, if only a colon comes
first. -/
theorem Phase.next?_enter (h : p = start → d = .colon) : p.enter.next? d = p.next? d := by
  by_cases hp : p = start
  · rw [hp, h hp]
    rfl
  · rw [enter_of_ne_start hp]

/-- At the start no delimiter has been read. -/
theorem Holds.delimiters_eq_nil (h : Holds u s) (hs : s.phase = .start) : delimiters u = [] := by
  have hp := h.phase
  cases hd : delimiters u using List.reverseRecOn with
  | nil => rfl
  | append_singleton ds d =>
    rw [hd, hs] at hp
    obtain ⟨q, -, hq⟩ := Phase.after?_concat_eq_some.1 hp
    exact absurd rfl (Phase.ne_start_of_next? hq)

namespace Scan

theorem enter_collect : (s.enter n).collect c = (s.collect c).enter n := by
  simp [enter, collect, Nat.add_assoc]

theorem enter_move (hq : q ≠ .start) : (s.enter n).move d q = (s.move d q).enter n := by
  have he : (s.move d q).enter n =
      { s.move d q with phase := q.enter, offset := n + (s.offset + d.char.utf8Size) } := rfl
  rw [he, Phase.enter_of_ne_start hq, ← Nat.add_assoc]
  rfl

/-- The two scans read one character alike. -/
theorem step_enter (h : s.phase = .start → ∀ d ∈ s.delimiter? c, d = .colon) :
    (s.enter n).step c = ((s.step c).map (enter n)).mapError (Fault.behind n) := by
  have hc : (s.enter n).delimiter? c = s.delimiter? c := rfl
  rw [step, step, hc]
  cases hd : s.delimiter? c with
  | none => exact congrArg Except.ok enter_collect
  | some d =>
    have hp : (s.enter n).phase.next? d = s.phase.next? d :=
      Phase.next?_enter fun hs => h hs d hd
    simp only [hp]
    cases hq : s.phase.next? d with
    | some q => exact congrArg Except.ok (enter_move (Phase.ne_start_of_next? hq))
    | none =>
      -- Only a colon may come at the start, and it moves both scans.
      have hs : s.phase ≠ .start := by
        intro hs
        rw [hs, h hs d hd] at hq
        cases hq
      have he : (s.enter n).phase = s.phase := Phase.enter_of_ne_start hs
      rw [he]
      rfl

/-- The two scans read a text alike, if the first delimiter at its top is a colon. -/
theorem run_enter (h : Holds u s) (hr : ∀ d ∈ (delimiters (u ++ r)).head?, d = .colon) :
    (s.enter n).run r = ((s.run r).map (enter n)).mapError (Fault.behind n) := by
  induction r generalizing u s with
  | nil => rfl
  | cons c r ih =>
    by_cases hc : s.phase = .closed
    · rw [run_closed hc, run_closed (Phase.enter_eq_closed.2 hc)]
      rfl
    · have hn : (s.enter n).phase ≠ .closed := mt Phase.enter_eq_closed.1 hc
      have hs : s.phase = .start → ∀ d ∈ s.delimiter? c, d = .colon := by
        intro hs d hd
        have hp := delimiters_isPrefix (u ++ [c]) r
        rw [h.delimiters_concat_of_some hd, h.delimiters_eq_nil hs, List.append_assoc] at hp
        obtain ⟨ds, hds⟩ := hp
        have hds : d :: ds = delimiters (u ++ c :: r) := hds
        exact hr d (by rw [← hds]; rfl)
      rw [run, run, if_neg hc, if_neg hn, step_enter hs]
      cases hstep : s.step c with
      | error f => rfl
      | ok s' => exact ih (h.step hstep) (by rwa [List.append_assoc])

/-- The two scans end alike. -/
theorem finish_enter : (s.enter n).finish mode = (s.finish mode).mapError (Fault.behind n) := by
  have hl : (s.enter n).leftover = s.leftover := rfl
  have hd : (s.enter n).declarations = s.declarations := rfl
  have hc : (s.enter n).phase = .closed ↔ s.phase = .closed := Phase.enter_eq_closed
  unfold finish
  rw [hl, hd]
  simp only [hc]
  split
  · rfl
  · split
    · rfl
    · cases mode <;> rfl

/-- A scan goes through a text that begins a block and does not end it. -/
theorem exists_run_of_after? (h : Phase.start.after? (delimiters t) = some p) (hp : p ≠ .closed) :
    ∃ s, run {} t = .ok s ∧ Holds t s := by
  cases hr : run {} t with
  | ok s =>
    obtain ⟨v, hv, hh, he⟩ := holds_start.run hr
    obtain ⟨w, rfl⟩ := hv
    have hc : s.phase ≠ .closed := by
      intro hc
      have hf : delimiters v ∈ form := mem_form_iff.2 (hc ▸ hh.phase)
      exact notMem_form_of_isPrefix h hp (delimiters_isPrefix v w) hf
    exact ⟨s, rfl, he hc ▸ hh⟩
  | error f =>
    obtain ⟨v, d, w, s, rfl, hh, hd, -, hq, -⟩ := holds_start.run_error hr
    have hb : Balanced v := hh.balanced_iff.2 (Holds.eq_char hd).1
    have hv : v ++ [d.char] <+: v ++ d.char :: w := ⟨w, by simp⟩
    have hf : Begins (delimiters v ++ [d]) :=
      (begins_iff.2 ⟨p, h⟩).of_isPrefix (concat_prefix_delimiters hb hv).2
    exact absurd hf (not_begins_concat hh.phase hq)

/-- Behind a selector and the opening brace, a scan stands within the block as another one stands at
the start of the text behind them. -/
theorem run_selector (h : Flat t) :
    run {} (t ++ ['\x7b']) = .ok (enter (Text.byteLength t + 1) {}) := by
  have hm : marks (t ++ ['\x7b']) = [⟨t, .openBrace⟩] := by
    have hd := marks_concat_delimiter (d := .openBrace) h.balanced
    rwa [h.marks_eq_nil, List.nil_append] at hd
  have hp : Phase.start.after? (delimiters (t ++ ['\x7b'])) = some .opened := by
    rw [delimiters, hm]
    rfl
  obtain ⟨s, hs, hh⟩ := exists_run_of_after? hp (by decide)
  have hphase : s.phase = .opened := Option.some.inj (hh.phase.symm.trans hp)
  have hdepth : s.depth = 0 :=
    hh.balanced_iff.1 ((balanced_append h.balanced _).2 (balanced_delimiter .openBrace))
  have hoffset : s.offset = Text.byteLength t + 1 := by
    rw [hh.offset, Text.byteLength_append]
    rfl
  have hbuffer : s.buffer = [] := by
    rw [hh.buffer, hm]
    simp [lastStop, Mark.stop]
  have hdeclarations : s.declarations = [] := by
    rw [hh.declarations, hm]
    rfl
  have hproperty : s.property = none := hh.noProperty (by simp [hphase])
  rw [hs]
  cases s
  simp_all [enter, Phase.enter]

end Scan

/-- A selector and the opening brace have no influence on what is read behind them: the declarations
are the same, and so is a fault, but for its place, which is as many bytes further on as they
take. -/
theorem read_selector (mode : Mode) (ht : Flat t) (hu : ∀ d ∈ (delimiters u).head?, d = .colon) :
    read mode (t ++ '\x7b' :: u) =
      (read mode u).mapError (Fault.behind (Text.byteLength t + 1)) := by
  have hrun : Scan.run {} (t ++ '\x7b' :: u) = (Scan.enter (Text.byteLength t + 1) {}).run u := by
    rw [List.append_cons]
    exact run_append_of_run (Scan.run_selector ht) u
  rw [read, read, hrun, Scan.run_enter holds_start hu]
  cases Scan.run {} u with
  | ok s => exact Scan.finish_enter
  | error f => rfl

/-- A selector of five bytes with a delimiter in its parentheses, and the brace behind it, move the
place of a fault by six. -/
theorem read_selector_fault :
    Flat "é(:)".toList ∧ (∀ d ∈ (delimiters " a (;) b: c: d".toList).head?, d = .colon) ∧
    read .strict " a (;) b: c: d".toList = .error (.unexpected .colon 11 .value) ∧
    read .strict ("é(:)".toList ++ '\x7b' :: " a (;) b: c: d".toList) =
      .error (.unexpected .colon 17 .value) := by
  have ht : Flat "é(:)".toList := flat_iff_sheltered.2 ⟨by decide, by decide⟩
  have hu : ∀ d ∈ (delimiters " a (;) b: c: d".toList).head?, d = .colon := by decide
  have hr : read .strict " a (;) b: c: d".toList = .error (.unexpected .colon 11 .value) := by
    decide
  refine ⟨ht, hu, hr, (read_selector .strict ht hu).trans ?_⟩
  rw [hr]
  decide

end Block

end StyleObject
