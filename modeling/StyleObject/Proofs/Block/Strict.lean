import StyleObject.Proofs.Block.Reading

/-!
# The two modes

A text is scanned in the same way in both modes, which only judge its end. The strict mode wants
the closing brace, and behind a closing brace there is a declaration. So the two answers for one
text go together in one of five ways, and in each of them the strict mode agrees or refuses.
-/
namespace StyleObject.Block

/-- A declaration has been ended when the block is closed, and when it may be closed. -/
theorem semicolon_mem_of_after? {w : List Delimiter} {p : Phase}
    (h : Phase.start.after? w = some p) (hp : p = .between ∨ p = .closed) : .semicolon ∈ w := by
  induction w using List.reverseRecOn generalizing p with
  | nil =>
    obtain rfl := Option.some.inj h
    simp at hp
  | append_singleton w d ih =>
    obtain ⟨q, hq, hd⟩ := Phase.after?_concat_eq_some.1 h
    rcases hp with rfl | rfl
    · obtain rfl : d = .semicolon := by cases q <;> cases d <;> simp [Phase.next?] at hd ⊢
      exact List.mem_append_right w List.mem_cons_self
    · obtain rfl : q = .between := by cases q <;> cases d <;> simp [Phase.next?] at hd ⊢
      exact List.mem_append_left [d] (ih hq (Or.inl rfl))

theorem Holds.declarations_ne_nil {u : Text} {s : Scan} (h : Holds u s)
    (hp : s.phase = .between ∨ s.phase = .closed) : s.declarations ≠ [] := by
  intro hd
  exact h.declarations_eq_nil_iff.1 hd (semicolon_mem_of_after? h.phase hp)

/-- What reading one text can give in the strict and in the lenient mode. -/
inductive Answers :
    Except Fault (List Declaration) → Except Fault (List Declaration) → Prop where
  /-- The block is closed. -/
  | closed {ds : List Declaration} (h : ds ≠ []) : Answers (.ok ds) (.ok ds)
  /-- A delimiter stands where it may not. -/
  | unexpected (d : Delimiter) (offset : Nat) (p : Phase) :
    Answers (.error (.unexpected d offset p)) (.error (.unexpected d offset p))
  /-- Text is left over and there is no declaration. -/
  | unterminated (x : Text) : Answers (.error (.unterminated x)) (.error (.unterminated x))
  /-- Text is left over behind declarations, and only the lenient mode drops it. -/
  | dropped (x : Text) {ds : List Declaration} (h : ds ≠ []) :
    Answers (.error (.unterminated x)) (.ok ds)
  /-- Nothing is left over, and only the lenient mode does without the closing brace. -/
  | unclosed (ds : List Declaration) : Answers (.error .unclosed) (.ok ds)

theorem answers_finish {s : Scan} (h : s.phase = .closed → s.declarations ≠ []) :
    Answers (s.finish .strict) (s.finish .lenient) := by
  by_cases hc : s.phase = .closed
  · simpa [Scan.finish, hc] using Answers.closed (h hc)
  · by_cases hl : s.leftover = []
    · simpa [Scan.finish, hc, hl] using Answers.unclosed s.declarations
    · by_cases hd : s.declarations = []
      · simpa [Scan.finish, hc, hl, hd] using Answers.unterminated s.leftover
      · simpa [Scan.finish, hc, hl, hd] using Answers.dropped s.leftover hd

/-- The two modes read every text in one of the five ways. -/
theorem answers_read (t : Text) : Answers (read .strict t) (read .lenient t) := by
  cases hr : Scan.run {} t with
  | ok s =>
    obtain ⟨v, -, h, -⟩ := holds_start.run hr
    rw [read, read, hr]
    exact answers_finish fun hc => h.declarations_ne_nil (Or.inr hc)
  | error f =>
    obtain ⟨v, d, w, s, -, -, -, -, -, rfl⟩ := holds_start.run_error hr
    rw [read, read, hr]
    exact .unexpected d _ s.phase

example : read .strict "a: b; c".toList = .error (.unterminated ['c']) ∧
    read .lenient "a: b; c".toList = .ok [⟨['a'], ['b']⟩] := by decide

/-- A strict answer refuses more than a lenient one and does not change it. -/
structure RefusesMore (strict lenient : Except Fault (List Declaration)) : Prop where
  ok : ∀ ds, strict = .ok ds → ds ≠ [] ∧ lenient = .ok ds
  unexpected : ∀ d offset p,
    strict = .error (.unexpected d offset p) ↔ lenient = .error (.unexpected d offset p)
  unclosed : strict = .error .unclosed → ∃ ds, lenient = .ok ds
  unterminated : ∀ x, strict = .error (.unterminated x) →
    lenient = .error (.unterminated x) ∨ ∃ ds, ds ≠ [] ∧ lenient = .ok ds
  unterminated_of_lenient : ∀ x,
    lenient = .error (.unterminated x) → strict = .error (.unterminated x)
  not_unclosed : lenient ≠ .error .unclosed

theorem Answers.refusesMore {strict lenient : Except Fault (List Declaration)}
    (h : Answers strict lenient) : RefusesMore strict lenient := by
  cases h with
  | closed hn => constructor <;> simp [hn]
  | unexpected d offset p => constructor <;> simp
  | unterminated x => constructor <;> simp
  | dropped x hn => constructor <;> simp [hn]
  | unclosed ds => constructor <;> simp

end StyleObject.Block
