import StyleObject.Block.Scan

/-!
# Reading a longer text

A scan of a longer text goes on from where the scan of its first part stands, and it never takes a
declaration back. So a part of a text is read as what the whole text begins with: only text that is
left over at the end of the part may become something else.
-/
namespace StyleObject.Block

variable {mode : Mode} {t : Text} {ds : List Declaration}

namespace Scan

variable {s s' : Scan} {c : Char}

/-- One character keeps the declarations before it, in their order. -/
theorem declarations_prefix_step (h : s.step c = .ok s') : s.declarations <+: s'.declarations := by
  rcases step_eq_ok.1 h with ⟨-, rfl⟩ | ⟨d, next, -, -, rfl⟩
  · exact List.prefix_refl _
  · by_cases hd : d = .semicolon
    · rw [hd, move_semicolon_declarations]
      exact List.prefix_append _ _
    · simp only [move_declarations hd, List.prefix_refl]

theorem declarations_prefix_run (h : s.run t = .ok s') : s.declarations <+: s'.declarations := by
  induction t generalizing s with
  | nil =>
    cases h
    exact List.prefix_refl _
  | cons c r ih =>
    rw [run] at h
    split at h
    · cases h
      exact List.prefix_refl _
    · split at h
      · next s₁ hs => exact (declarations_prefix_step hs).trans (ih h)
      · cases h

/-- A scan that is finished gives the declarations that it holds. -/
theorem declarations_of_finish (h : s.finish mode = .ok ds) : s.declarations = ds := by
  unfold finish at h
  split at h
  · exact Except.ok.inj h
  · split at h
    · cases h
    · cases mode with
      | strict => cases h
      | lenient => exact Except.ok.inj h

/-- The strict mode finishes only behind the closing brace. -/
theorem closed_of_finish_strict (h : s.finish .strict = .ok ds) : s.phase = .closed := by
  unfold finish at h
  split at h
  · assumption
  · split at h <;> cases h

theorem finish_of_closed (h : s.phase = .closed) (mode : Mode) :
    s.finish mode = .ok s.declarations := if_pos h

theorem finish_ne_unexpected (d : Delimiter) (offset : Nat) (p : Phase) :
    s.finish mode ≠ .error (.unexpected d offset p) := by
  intro h
  unfold finish at h
  split at h
  · cases h
  · split at h
    · cases h
    · cases mode <;> cases h

end Scan

theorem exists_run_of_read (h : read mode t = .ok ds) :
    ∃ s, Scan.run {} t = .ok s ∧ s.finish mode = .ok ds := by
  unfold read at h
  split at h
  · next s hs => exact ⟨s, hs, h⟩
  · cases h

/-- A delimiter that may not stand where it does is a fault of the scan, which knows no mode. -/
theorem read_eq_unexpected {d : Delimiter} {offset : Nat} {p : Phase} :
    read mode t = .error (.unexpected d offset p) ↔
      Scan.run {} t = .error (.unexpected d offset p) := by
  unfold read
  cases Scan.run {} t with
  | ok s => simp [Scan.finish_ne_unexpected]
  | error f => simp

theorem run_append_of_run {s : Scan} (h : Scan.run {} t = .ok s) (u : Text) :
    Scan.run {} (t ++ u) = s.run u := by
  rw [Scan.run_append, h]
  rfl

/-- What is read from a text stays when more text comes behind it. A delimiter that may not stand
where it does is the fault of the longer text too, a whole block stays as it is, and the
declarations of a block that stops early are the first ones of the longer text. -/
theorem read_append_stable (t u : Text) (mode mode' : Mode) :
    (∀ d offset p, read mode t = .error (.unexpected d offset p) →
      read mode' (t ++ u) = .error (.unexpected d offset p)) ∧
    (∀ ds, read .strict t = .ok ds → read mode' (t ++ u) = .ok ds) ∧
    ∀ ds ds', read .lenient t = .ok ds → read mode' (t ++ u) = .ok ds' → ds <+: ds' := by
  refine ⟨?_, ?_, ?_⟩
  · intro d offset p h
    rw [read_eq_unexpected] at h ⊢
    rw [Scan.run_append, h]
    rfl
  · intro ds h
    obtain ⟨s, hs, hf⟩ := exists_run_of_read h
    have hc := Scan.closed_of_finish_strict hf
    rw [read, run_append_of_run hs, Scan.run_closed hc]
    exact (Scan.finish_of_closed hc mode').trans (congrArg _ (Scan.declarations_of_finish hf))
  · intro ds ds' h h'
    obtain ⟨s, hs, hf⟩ := exists_run_of_read h
    obtain ⟨s', hs', hf'⟩ := exists_run_of_read h'
    rw [run_append_of_run hs] at hs'
    rw [← Scan.declarations_of_finish hf, ← Scan.declarations_of_finish hf']
    exact Scan.declarations_prefix_run hs'

/-- A text that is cut within parentheses loses no whole declaration and gains none. -/
theorem read_append_stable_cut :
    read .lenient "a: b; c: f(;".toList = .ok [⟨['a'], ['b']⟩] ∧
    read .strict "a: b; c: f(;); \x7d".toList =
      .ok [⟨['a'], ['b']⟩, ⟨['c'], "f(;)".toList⟩] ∧
    [(⟨['a'], ['b']⟩ : Declaration)] <+: [⟨['a'], ['b']⟩, ⟨['c'], "f(;)".toList⟩] := by
  have h : read .lenient "a: b; c: f(;".toList = .ok [⟨['a'], ['b']⟩] := rfl
  have h' : read .strict "a: b; c: f(;); \x7d".toList =
      .ok [⟨['a'], ['b']⟩, ⟨['c'], "f(;)".toList⟩] := rfl
  exact ⟨h, h', (read_append_stable "a: b; c: f(;".toList "); \x7d".toList .lenient .strict).2.2 _ _
    h h'⟩

end StyleObject.Block
