import StyleObject.Proofs.Nesting

/-!
# The places of a separator

The nesting behind a text is where it started exactly if the text has as many opening as closing
parentheses and each of the quotes an even number of times. So a separator cuts exactly at the
places before which this holds, and the pieces of a text are what stands between these places.
-/
namespace StyleObject.Nesting

/-- A text with as many opening as closing parentheses and an even number of each quote. -/
structure Level (t : Text) : Prop where
  parentheses : t.count '(' = t.count ')'
  single : Even (t.count '\x27')
  double : Even (t.count '"')

theorem level_iff {t : Text} :
    Level t ↔ t.count '(' = t.count ')' ∧ Even (t.count '\x27') ∧ Even (t.count '"') :=
  ⟨fun h => ⟨h.parentheses, h.single, h.double⟩, fun ⟨hp, hs, hd⟩ => ⟨hp, hs, hd⟩⟩

instance (t : Text) : Decidable (Level t) := decidable_of_iff _ level_iff.symm

/-- The separator stands at position `i` of a text, at the top. -/
def IsPlace (sep : Char) (t : Text) (i : Nat) : Prop := t[i]? = some sep ∧ Level (t.take i)

instance (sep : Char) (t : Text) : DecidablePred (IsPlace sep t) := fun _ =>
  inferInstanceAs (Decidable (_ ∧ _))

/-- The positions of the separator at the top of a text, in order. -/
def places (sep : Char) (t : Text) : List Nat := (List.range t.length).filter (IsPlace sep t)

/-- The texts between some positions, from a start on. What stands at the positions is left out. -/
def between (t : Text) (start : Nat) : List Nat → List Text
  | [] => [t.drop start]
  | i :: is => (t.take i).drop start :: between t (i + 1) is

section After

variable {t : Text}

theorem depth_after (n : Nesting) (t : Text) :
    (n.after t).depth = n.depth + t.count '(' - t.count ')' := by
  induction t generalizing n with
  | nil => simp
  | cons c r ih =>
    rw [after_cons, ih, List.count_cons, List.count_cons]
    unfold advance
    split
    · simp
      omega
    · simp
      omega
    · simp
    · simp
    · next ho hc _ _ =>
      have ho : c ≠ '(' := ho
      have hc : c ≠ ')' := hc
      simp [ho, hc]

/-- A counter of 32 bits holds the depth behind every beginning of a text that is not too long. -/
theorem counter_after {u : Text} (hu : u <+: t) (h : t.length < 2 ^ 31) :
    Int32.minValue.toInt ≤ (({} : Nesting).after u).depth ∧
      (({} : Nesting).after u).depth ≤ Int32.maxValue.toInt := by
  have hd : (({} : Nesting).after u).depth = (u.count '(' : Int) - u.count ')' := by
    rw [depth_after, Int.zero_add]
  rw [hd]
  exact Text.depth_counter (Nat.lt_of_le_of_lt hu.length_le h)

theorem inSingle_advance {c : Char} (h : c ≠ '\x27') (n : Nesting) :
    (n.advance c).inSingle = n.inSingle := by
  unfold advance
  split
  · rfl
  · rfl
  · exact absurd rfl h
  · rfl
  · rfl

theorem inDouble_advance {c : Char} (h : c ≠ '"') (n : Nesting) :
    (n.advance c).inDouble = n.inDouble := by
  unfold advance
  split
  · rfl
  · rfl
  · rfl
  · exact absurd rfl h
  · rfl

/-- A flag that one character turns over, and no other, is as it was behind an even number of it. -/
theorem flag_after (flag : Nesting → Bool) {q : Char} (hq : ∀ n, flag (n.advance q) = !flag n)
    (hk : ∀ {c}, c ≠ q → ∀ n, flag (n.advance c) = flag n) (n : Nesting) (t : Text) :
    flag (n.after t) = flag n ↔ Even (t.count q) := by
  induction t generalizing n with
  | nil => simp
  | cons c r ih =>
    have hr := ih (n.advance c)
    rw [after_cons]
    by_cases hc : c = q
    · subst hc
      rw [hq, Bool.eq_not] at hr
      rw [List.count_cons_self, Nat.even_add_one, ← hr, Decidable.not_not]
    · rw [hk hc] at hr
      rw [List.count_cons_of_ne hc, hr]

/-- The counts of a text decide whether the nesting behind it is where it started. -/
theorem isTop_after_iff : (({} : Nesting).after t).isTop = true ↔ Level t := by
  have hs := flag_after inSingle (fun _ => rfl) inSingle_advance {} t
  have hd := flag_after inDouble (fun _ => rfl) inDouble_advance {} t
  have hp : (({} : Nesting).after t).depth = 0 ↔ t.count '(' = t.count ')' := by
    have hz : ({} : Nesting).depth = 0 := rfl
    rw [depth_after, hz]
    omega
  rw [isTop, Bool.and_eq_true, Bool.and_eq_true, beq_iff_eq, Bool.not_eq_true', Bool.not_eq_true',
    hp, hs, hd, level_iff, and_assoc]

end After

/-- The character at the start belongs to the first text, unless the first position is there. -/
theorem between_cons (before r : Text) (c : Char) {is : List Nat}
    (h : ∀ i ∈ is, before.length < i) :
    between (before ++ c :: r) before.length is =
      (between (before ++ c :: r) (before.length + 1) is).modifyHead (c :: ·) := by
  have h₀ : (before ++ c :: r).drop before.length = c :: r := List.drop_left
  have h₁ : (before ++ c :: r).drop (before.length + 1) = r := by simp [List.drop_append]
  cases is with
  | nil => rw [between, between, h₀, h₁, List.modifyHead_cons]
  | cons i is =>
    have hi : i - before.length = i - (before.length + 1) + 1 := by
      have := h i List.mem_cons_self
      omega
    rw [between, between, List.drop_take, List.drop_take, h₀, h₁, hi, List.take_succ_cons,
      List.modifyHead_cons]

section Pieces

variable {sep : Char} (hsep : ∀ n : Nesting, n.advance sep = n)
include hsep

theorem cutsAt_after_iff {before : Text} {c : Char} :
    cutsAt sep (({} : Nesting).after before) c = true ↔ c = sep ∧ Level before := by
  rw [cutsAt, Bool.and_eq_true, beq_iff_eq, and_comm]
  refine and_congr_right ?_
  rintro rfl
  rw [hsep, isTop_after_iff]

/-- Behind a text, the positions go on from its length. -/
theorem pieces_eq_between (before t : Text) :
    pieces sep (({} : Nesting).after before) t =
      between (before ++ t) before.length
        ((List.range' before.length t.length).filter (IsPlace sep (before ++ t))) := by
  induction t generalizing before with
  | nil => simp [pieces, between]
  | cons c r ih =>
    have hr := ih (before ++ [c])
    rw [List.append_assoc, List.singleton_append, List.length_append, List.length_singleton,
      after_append] at hr
    have hp : IsPlace sep (before ++ c :: r) before.length ↔ c = sep ∧ Level before := by
      simp [IsPlace]
    rw [List.length_cons, List.range'_succ, List.filter_cons, pieces]
    by_cases hc : c = sep ∧ Level before
    · rw [if_pos ((cutsAt_after_iff hsep).2 hc), if_pos (by simpa using hp.2 hc)]
      simpa [between] using hr
    · rw [if_neg (mt (cutsAt_after_iff hsep).1 hc), if_neg (by simpa using mt hp.1 hc),
        between_cons]
      · exact congrArg _ hr
      · intro i hi
        have hm := List.mem_range'_1.1 (List.mem_of_mem_filter hi)
        omega

/-- The pieces of a text are what stands between the places of the separator. -/
theorem pieces_eq_between_places (t : Text) :
    pieces sep {} t = between t 0 (places sep t) := by
  have h := pieces_eq_between hsep [] t
  rwa [List.length_nil, ← List.range_eq_range'] at h

end Pieces

theorem length_between (t : Text) (start : Nat) (is : List Nat) :
    (between t start is).length = is.length + 1 := by
  induction is generalizing start with
  | nil => rfl
  | cons i is ih => rw [between, List.length_cons, ih, List.length_cons]

/-- The places of the separator are where it stands behind a text with level counts. -/
theorem places_ne_nil_iff {sep : Char} {t : Text} :
    places sep t ≠ [] ↔ ∃ before after, t = before ++ sep :: after ∧ Level before := by
  constructor
  · intro h
    obtain ⟨i, hi⟩ := List.exists_mem_of_ne_nil _ h
    obtain ⟨hs, hl⟩ : IsPlace sep t i := by simpa [places] using (List.mem_filter.1 hi).2
    obtain ⟨hi, rfl⟩ := List.getElem?_eq_some_iff.1 hs
    refine ⟨t.take i, t.drop (i + 1), ?_, hl⟩
    rw [← List.drop_eq_getElem_cons, List.take_append_drop]
  · rintro ⟨before, after, rfl, hl⟩
    have hi : IsPlace sep (before ++ sep :: after) before.length := by simpa [IsPlace] using hl
    have hm : before.length ∈ places sep (before ++ sep :: after) := by simp [places, hi]
    exact List.ne_nil_of_mem hm

/-- A piece that is read on its own does not hold the separator at the top. -/
theorem occurs_of_mem_pieces {sep : Char} {p t : Text} (hp : p ∈ pieces sep {} t) :
    occurs sep p = false := by
  generalize hps : pieces sep {} t = ps at hp
  induction ps generalizing t with
  | nil => cases hp
  | cons q qs ih =>
    cases qs with
    | nil =>
      obtain rfl := List.mem_singleton.1 hp
      have ht := intercalate_pieces sep {} t
      rw [hps, List.intercalate_singleton] at ht
      rw [ht, occurs, ← Bool.not_eq_true, ← one_lt_length_pieces, hps]
      exact lt_irrefl 1
    | cons r rs =>
      obtain ⟨u, rfl, ho, ht, hu⟩ := pieces_eq_cons_cons hps
      rw [isTop_iff.1 ht] at hu
      rcases List.mem_cons.1 hp with rfl | hp
      · exact ho
      · exact ih hu hp

section Tidy

variable {sep : Char} {p t : Text}

theorem occurs_trim (h : occurs sep p = false) : occurs sep (Text.trim p) = false := by
  obtain ⟨a, b, ha, -, he⟩ := Text.exists_trim p
  rw [he, occurs, occursFrom_append, occursFrom_append, after_of_blank ha, Bool.or_eq_false_iff,
    Bool.or_eq_false_iff] at h
  exact h.1.2

/-- Spaces in place of line feeds are no other separator. -/
theorem occursFrom_map_lineFeed (hs : sep ≠ ' ') (n : Nesting) (t : Text)
    (h : occursFrom sep n t = false) :
    occursFrom sep n (t.map fun c => if c = '\n' then ' ' else c) = false := by
  induction t generalizing n with
  | nil => rfl
  | cons c r ih =>
    rw [occursFrom, Bool.or_eq_false_iff] at h
    rw [List.map_cons, occursFrom, Bool.or_eq_false_iff]
    split
    · next hc =>
      subst hc
      have hc : cutsAt sep n ' ' = false := by simp [cutsAt, Ne.symm hs]
      exact ⟨hc, ih n h.2⟩
    · exact ⟨h.1, ih _ h.2⟩

theorem occurs_tidy (h : occurs sep p = false) (hs : sep ≠ ' ' ∨ '\n' ∉ p) :
    occurs sep (tidy p) = false := by
  rcases hs with hs | hn
  · exact occursFrom_map_lineFeed hs {} _ (occurs_trim h)
  · rw [tidy_of_notMem hn]
    exact occurs_trim h

theorem lineFeed_notMem_tidy (p : Text) : '\n' ∉ tidy p := by
  intro h
  obtain ⟨c, -, hc⟩ := List.mem_map.1 h
  split at hc
  · cases hc
  · next hn => exact hn hc

theorem trimmed_tidy (p : Text) : Text.Trimmed (tidy p) := by
  have hk : ∀ c, Text.isBlank c = false → (if c = '\n' then ' ' else c) = c := by
    intro c hc
    refine if_neg ?_
    rintro rfl
    cases hc
  constructor
  · intro c hc
    rw [tidy, List.head?_map, Option.mem_map] at hc
    obtain ⟨d, hd, rfl⟩ := hc
    have hb := (Text.trimmed_trim p).first d hd
    rwa [hk d hb]
  · intro c hc
    rw [tidy, List.getLast?_map, Option.mem_map] at hc
    obtain ⟨d, hd, rfl⟩ := hc
    have hb := (Text.trimmed_trim p).last d hd
    rwa [hk d hb]

theorem tidy_eq_nil_iff : tidy p = [] ↔ Text.Blank p := by
  rw [tidy, List.map_eq_nil_iff, Text.trim_eq_nil_iff]

end Tidy

/-- Splitting a text that does not hold the separator at the top gives just that text. -/
theorem segments_of_not_occurs {sep : Char} {t : Text} (h : occurs sep t = false)
    (hn : ¬ Text.Blank t) : segments sep t = [tidy t] := by
  have ht : tidy t ≠ [] := mt tidy_eq_nil_iff.1 hn
  rw [segments, pieces_of_not_occursFrom h, List.map_singleton]
  exact (Text.dropEmptyLast_concat [] (tidy t)).trans (by simp [ht])

/-- A segment does not hold the separator at the top, and it is the only segment of itself. -/
theorem segments_of_mem_segments {sep : Char} {s t : Text} (hl : sep ≠ ' ' ∨ '\n' ∉ t)
    (hs : s ∈ segments sep t) :
    occurs sep s = false ∧ (¬ Text.Blank s → segments sep s = [s]) := by
  obtain ⟨p, hp, rfl⟩ := List.mem_map.1 ((Text.dropEmptyLast_isPrefix _).subset hs)
  have hn : sep ≠ ' ' ∨ '\n' ∉ p :=
    hl.imp_right fun hn h => hn ((isInfix_of_mem_pieces hp).subset h)
  have ho := occurs_tidy (occurs_of_mem_pieces hp) hn
  refine ⟨ho, fun hb => ?_⟩
  rw [segments_of_not_occurs ho hb, tidy_of_trimmed (trimmed_tidy p) (lineFeed_notMem_tidy p)]

/-- A text is split at the places of the separator, which are found by counting. Each piece is
trimmed, and the last one is left out if it is blank. The search for the separator finds it exactly
if it has a place. Unless line feeds become separators, no piece can be split again. -/
theorem segments_at_places {sep : Char} (hsep : sep ∉ ['(', ')', '\x27', '"']) (t : Text) :
    (∃ init last, between t 0 (places sep t) = init ++ [last] ∧
      segments sep t = init.map tidy ++ (if Text.trim last = [] then [] else [tidy last]) ∧
      (segments sep t).length = (places sep t).length + if Text.trim last = [] then 0 else 1) ∧
    (occurs sep t = true ↔ ∃ before after, t = before ++ sep :: after ∧ Level before) ∧
    (sep ≠ ' ' ∨ '\n' ∉ t → ∀ s ∈ segments sep t,
      occurs sep s = false ∧ (¬ Text.Blank s → segments sep s = [s])) := by
  have hp := pieces_eq_between_places (advance_of_notMem hsep) t
  have hl := length_between t 0 (places sep t)
  refine ⟨?_, ?_, fun h s => segments_of_mem_segments h⟩
  · have hn : between t 0 (places sep t) ≠ [] := List.ne_nil_of_length_eq_add_one hl
    obtain ⟨init, last, he⟩ := (List.eq_nil_or_concat' _).resolve_left hn
    have hs : segments sep t =
        init.map tidy ++ if Text.trim last = [] then [] else [tidy last] := by
      rw [segments, hp, he, List.map_append, List.map_singleton, Text.dropEmptyLast_concat]
      simp only [tidy, List.map_eq_nil_iff]
    have hi : init.length = (places sep t).length := by simpa [he] using hl
    refine ⟨init, last, he, hs, ?_⟩
    rw [hs, List.length_append, List.length_map, hi]
    split <;> rfl
  · rw [occurs, ← one_lt_length_pieces, hp, hl, Nat.lt_add_left_iff_pos, List.length_pos_iff,
      places_ne_nil_iff]

/-- Commas within quotes and parentheses cut nothing, and a parenthesis may be closed before it is
opened. Of two blank pieces only the last one is left out. -/
theorem segments_at_places_nested :
    ',' ∉ ['(', ')', '\x27', '"'] ∧
    places ',' "a)(b,'x,\n\"y' \",, f(,) ,\t".toList = [4, 14, 15, 22] ∧
    segments ',' "a)(b,'x,\n\"y' \",, f(,) ,\t".toList =
      ["a)(b".toList, "'x, \"y' \"".toList, [], "f(,)".toList] ∧
    segments ',' "'x, \"y' \"".toList = ["'x, \"y' \"".toList] := by
  have hsep : ',' ∉ ['(', ')', '\x27', '"'] := by decide
  have hs : segments ',' "a)(b,'x,\n\"y' \",, f(,) ,\t".toList =
      ["a)(b".toList, "'x, \"y' \"".toList, [], "f(,)".toList] := by decide
  have hb : ¬ Text.Blank "'x, \"y' \"".toList := fun hb => absurd (hb 'x' (by decide)) (by decide)
  have hp := (segments_at_places hsep "a)(b,'x,\n\"y' \",, f(,) ,\t".toList).2.2 (by decide)
  exact ⟨hsep, by decide, hs, (hp _ (by rw [hs]; simp)).2 hb⟩

end StyleObject.Nesting
