import StyleObject.Proofs.Block.Segment
import StyleObject.Proofs.Block.Strict
import StyleObject.Proofs.Nesting

/-!
# The invariant of a scan

A scan closes a segment at each delimiter that it consumes, and collects everything else. So behind
every character the text that was read is the closed segments and the buffer, with nothing lost and
nothing read twice; a property waits exactly while a value is read; and the depth is that of the
parentheses, which was zero at each consumed delimiter.
-/
namespace StyleObject.Block

variable {ss : List Segment} {t u : Text} {s s' : Scan} {c : Char} {d : Delimiter} {p q : Phase}

/-- A scan that starts at a text `u` stands at `s` when it has read all of it, and has closed the
segments `ss` on its way. -/
inductive Reads : List Segment → Text → Scan → Prop where
  | start : Reads [] [] {}
  | collect {ss : List Segment} {u : Text} {s : Scan} {c : Char} (h : Reads ss u s)
    (ho : s.phase ≠ .closed) (hs : s.step c = .ok (s.collect c)) :
    Reads ss (u ++ [c]) (s.collect c)
  | consume {ss : List Segment} {u : Text} {s : Scan} {d : Delimiter} {q : Phase}
    (h : Reads ss u s) (ho : s.phase ≠ .closed) (hs : s.step d.char = .ok (s.move d q)) :
    Reads (ss ++ [⟨s.buffer, d⟩]) (u ++ [d.char]) (s.move d q)

namespace Scan

theorem run_concat (h : Scan.run {} u = .ok s) (ho : s.phase ≠ .closed)
    (hs : s.step c = .ok s') : Scan.run {} (u ++ [c]) = .ok s' := by
  rw [run_append, h]
  change s.run [c] = .ok s'
  rw [run, if_neg ho, hs]
  rfl

theorem delimiter?_of_step_eq_collect (h : s.step c = .ok (s.collect c)) :
    s.delimiter? c = none := by
  rcases step_eq_ok.1 h with ⟨hc, -⟩ | ⟨d, q, -, -, he⟩
  · exact hc
  · have hb : s.buffer ++ [c] = [] := congrArg buffer he
    simp at hb

theorem next?_of_step_eq_move (h : s.step d.char = .ok (s.move d q)) :
    s.delimiter? d.char = some d ∧ s.phase.next? d = some q := by
  rcases step_eq_ok.1 h with ⟨-, he⟩ | ⟨d', q', hc, hq, he⟩
  · have hb : [] = s.buffer ++ [d.char] := congrArg buffer he
    simp at hb
  · obtain ⟨-, hd⟩ := Holds.eq_char hc
    obtain rfl : d = d' := by
      rw [← Option.some_inj, ← Delimiter.ofChar?_char d, hd, Delimiter.ofChar?_char]
    obtain rfl : q = q' := congrArg phase he
    exact ⟨hc, hq⟩

/-- A scan that has moved behind a delimiter was outside of parentheses. -/
theorem depth_of_step_eq_move (h : s.step d.char = .ok (s.move d q)) : s.depth = 0 :=
  (Holds.eq_char (next?_of_step_eq_move h).1).1

end Scan

namespace Reads

/-- The relation is about the scans that run. -/
theorem run (h : Reads ss u s) : Scan.run {} u = .ok s := by
  induction h with
  | start => rfl
  | collect _ ho hs ih => exact Scan.run_concat ih ho hs
  | consume _ ho hs ih => exact Scan.run_concat ih ho hs

theorem holds (h : Reads ss u s) : Holds u s := by
  induction h with
  | start => exact holds_start
  | collect _ _ hs ih => exact ih.step hs
  | consume _ _ hs ih => exact ih.step hs

/-- Each step of an open scan reads on. -/
theorem step (h : Reads ss u s) (ho : s.phase ≠ .closed) (hs : s.step c = .ok s') :
    ∃ ss', Reads ss' (u ++ [c]) s' := by
  rcases Scan.step_eq_ok.1 hs with ⟨-, rfl⟩ | ⟨d, q, hc, -, rfl⟩
  · exact ⟨ss, h.collect ho hs⟩
  · obtain ⟨-, rfl⟩ := Holds.eq_char hc
    exact ⟨_, h.consume ho hs⟩

/-- What a scan has read is the segments that it has closed and its buffer. -/
theorem eq_join_append (h : Reads ss u s) : u = join ss ++ s.buffer := by
  induction h with
  | start => rfl
  | @collect ss u s c _ _ _ ih =>
    change u ++ [c] = join ss ++ (s.buffer ++ [c])
    rw [ih, List.append_assoc]
  | @consume ss u s d q _ _ _ ih =>
    rw [ih]
    simp [join]

/-- Every closed segment stands between the segments before it and a delimiter that a scan outside
of parentheses has moved behind. -/
theorem exists_level (h : Reads ss u s) {ss₁ ss₂ : List Segment} {g : Segment}
    (hs : ss = ss₁ ++ g :: ss₂) :
    ∃ s₀ q, Scan.run {} (join ss₁ ++ g.text) = .ok s₀ ∧ s₀.buffer = g.text ∧ s₀.depth = 0 ∧
      s₀.step g.delimiter.char = .ok (s₀.move g.delimiter q) := by
  induction h generalizing ss₂ with
  | start => simp at hs
  | collect _ _ _ ih => exact ih hs
  | @consume ss u s d q h _ hm ih =>
    cases ss₂ using List.reverseRecOn with
    | nil =>
      obtain ⟨rfl, hg⟩ := List.append_inj' hs rfl
      obtain rfl := List.singleton_inj.1 hg
      exact ⟨s, q, h.eq_join_append ▸ h.run, rfl, Scan.depth_of_step_eq_move hm, hm⟩
    | append_singleton ss₂ g' =>
      rw [← List.cons_append, ← List.append_assoc] at hs
      exact ih (List.append_inj' hs rfl).1

/-- A scan closes a segment at each delimiter at the top of the text. -/
theorem map_delimiter (h : Reads ss u s) : ss.map Segment.delimiter = delimiters u := by
  induction h with
  | start => rfl
  | @collect ss u s c h _ hs ih =>
    rw [delimiters, h.holds.marks_concat_of_none (Scan.delimiter?_of_step_eq_collect hs)]
    exact ih
  | @consume ss u s d q h _ hs ih =>
    rw [h.holds.delimiters_concat_of_some (Scan.next?_of_step_eq_move hs).1, ← ih]
    simp

end Reads

/-- What holds of a scan that has read the text `u` and has closed the segments `ss`. -/
structure Sound (ss : List Segment) (u : Text) (s : Scan) : Prop where
  /-- A property waits exactly while its value is read. -/
  property : s.property.isSome ↔ s.phase = .value
  /-- A semicolon finds the property of the value that it ends. -/
  named : ∀ q, s.phase.next? .semicolon = some q → ∃ name, s.property = some name ∧
    (s.move .semicolon q).declarations = s.declarations ++ [⟨name, Text.trim s.buffer⟩]
  undeclared : s.phase = .start ∨ s.phase = .opened → s.declarations = []
  declared : s.phase = .between ∨ s.phase = .closed → s.declarations ≠ []
  depth : s.depth = (u.count '(' : Int) - u.count ')'
  bounds : -(u.length : Int) ≤ s.depth ∧ s.depth ≤ u.length
  /-- A counter of 32 bits would do. -/
  counter : u.length < 2 ^ 31 → Int32.minValue.toInt ≤ s.depth ∧ s.depth ≤ Int32.maxValue.toInt
  /-- Nothing is lost and nothing is read twice. -/
  text : u = join ss ++ s.buffer
  delimiters : ss.map Segment.delimiter = delimiters u
  /-- Every delimiter that ends a segment was read outside of parentheses. -/
  level : ∀ ss₁ g ss₂, ss = ss₁ ++ g :: ss₂ →
    ∃ s₀ q, Scan.run {} (join ss₁ ++ g.text) = .ok s₀ ∧ s₀.buffer = g.text ∧ s₀.depth = 0 ∧
      s₀.step g.delimiter.char = .ok (s₀.move g.delimiter q)

/-- Before the first value there is no semicolon. -/
theorem semicolon_notMem_of_after? {w : List Delimiter} (h : Phase.start.after? w = some p)
    (hp : p = .start ∨ p = .opened) : .semicolon ∉ w := by
  induction w using List.reverseRecOn generalizing p with
  | nil => exact List.not_mem_nil
  | append_singleton w d ih =>
    obtain ⟨q, hq, hd⟩ := Phase.after?_concat_eq_some.1 h
    obtain ⟨rfl, rfl⟩ : q = .start ∧ d = .openBrace := by
      rcases hp with rfl | rfl <;> cases q <;> cases d <;> simp [Phase.next?] at hd ⊢
    simpa using ih hq (Or.inl rfl)

theorem Holds.isSome_property (h : Holds u s) : s.property.isSome ↔ s.phase = .value := by
  by_cases hv : s.phase = .value
  · obtain ⟨_, _, _, _, hp⟩ := h.property hv
    simp [hv, hp]
  · simp [hv, h.noProperty hv]

theorem Reads.sound (h : Reads ss u s) : Sound ss u s where
  property := h.holds.isSome_property
  named := by
    intro q hq
    obtain ⟨name, hn⟩ := Option.isSome_iff_exists.1
      (h.holds.isSome_property.2 (Phase.next?_semicolon.1 hq).1)
    exact ⟨name, hn, by rw [Scan.move_semicolon_declarations, hn]; rfl⟩
  undeclared := fun hp =>
    h.holds.declarations_eq_nil_iff.2 (semicolon_notMem_of_after? h.holds.phase hp)
  declared := h.holds.declarations_ne_nil
  depth := h.holds.depth
  bounds := h.holds.depth ▸ Text.depth_bounds u
  counter := fun hu => h.holds.depth ▸ Text.depth_counter hu
  text := h.eq_join_append
  delimiters := h.map_delimiter
  level := fun _ _ _ => h.exists_level

/-- How the run of a text ends at a scan that has read some of it: the block is closed, or the text
is at its end, or the next character is a fault. -/
inductive Stops (t u : Text) (s : Scan) : Except Fault Scan → Prop where
  | closed : s.phase = .closed → Stops t u s (.ok s)
  | ended : u = t → Stops t u s (.ok s)
  | faulted {c : Char} {f : Fault} : s.phase ≠ .closed → u ++ [c] <+: t → s.step c = .error f →
    Stops t u s (.error f)

theorem Reads.of_prefix (h : Reads ss u s) {v : Text} (hv : v <+: u) :
    ∃ ss' s', Reads ss' v s' := by
  induction h with
  | start =>
    obtain rfl := List.prefix_nil.1 hv
    exact ⟨_, _, .start⟩
  | collect h ho hs ih =>
    rcases List.prefix_concat_iff.1 hv with rfl | hv
    · exact ⟨_, _, h.collect ho hs⟩
    · exact ih hv
  | consume h ho hs ih =>
    rcases List.prefix_concat_iff.1 hv with rfl | hv
    · exact ⟨_, _, h.consume ho hs⟩
    · exact ih hv

/-- A scan reads on until it stops. -/
theorem Reads.exists_stops (h : Reads ss u s) (r : Text) :
    ∃ ss' v s', v <+: r ∧ Reads ss' (u ++ v) s' ∧ Stops (u ++ r) (u ++ v) s' (s.run r) := by
  induction r generalizing ss u s with
  | nil => exact ⟨ss, [], s, List.prefix_refl _, by rwa [List.append_nil], .ended rfl⟩
  | cons c r ih =>
    by_cases ho : s.phase = .closed
    · rw [Scan.run_closed ho]
      exact ⟨ss, [], s, List.nil_prefix, by rwa [List.append_nil], .closed ho⟩
    rw [Scan.run, if_neg ho]
    cases hs : s.step c with
    | error f =>
      refine ⟨ss, [], s, List.nil_prefix, by rwa [List.append_nil], .faulted ho ?_ hs⟩
      exact ⟨r, by simp⟩
    | ok s₁ =>
      obtain ⟨ss₁, h₁⟩ := h.step ho hs
      obtain ⟨ss', v, s', hv, h', hr⟩ := ih h₁
      rw [List.append_assoc, List.append_assoc] at hr
      rw [List.append_assoc] at h'
      exact ⟨ss', c :: v, s', (List.prefix_cons_inj c).2 hv, h', hr⟩

/-- The run of a text reads it from its start to where it stops, and behind every character on the
way what the scan holds is sound. -/
theorem scan_sound (t : Text) : ∃ u s, u <+: t ∧ Scan.run {} u = .ok s ∧
    Stops t u s (Scan.run {} t) ∧
    ∀ v, v <+: u → ∃ ss s, Scan.run {} v = .ok s ∧ Reads ss v s ∧ Sound ss v s := by
  obtain ⟨ss, u, s, hu, h, hr⟩ := Reads.start.exists_stops t
  rw [List.nil_append, List.nil_append] at hr
  rw [List.nil_append] at h
  refine ⟨u, s, hu, h.run, hr, fun v hv => ?_⟩
  obtain ⟨ss', s', h'⟩ := h.of_prefix hv
  exact ⟨ss', s', h'.run, h', h'.sound⟩

example : Scan.run {} "a)(: f(;)".toList =
    .ok ⟨.value, 0, 9, " f(;)".toList, some "a)(".toList, []⟩ := by decide

end StyleObject.Block
