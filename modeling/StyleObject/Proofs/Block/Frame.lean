import StyleObject.Proofs.Block.Field
import StyleObject.Proofs.Text.Kept

/-!
# The frame of a block

Which delimiters stand at the top of a text is said by its frame, so texts of one frame have the
same delimiters. Where these alone do not go on as a block, reading stops in every mode: so it does
behind the first colon of a block without semicolons.
-/
namespace StyleObject.Block

open Text

variable {s t x : Text}

theorem delimiters_concat (t : Text) (c : Char) :
    delimiters (t ++ [c]) =
      delimiters t ++ if Balanced t then (Delimiter.ofChar? c).toList else [] := by
  rw [delimiters, marks_concat, List.map_append, delimiters, mark?]
  by_cases h : Balanced t
  · cases Delimiter.ofChar? c <;> simp [h]
  · simp [h]

theorem ofChar?_of_isNeutral {c : Char} (h : isNeutral c = true) : Delimiter.ofChar? c = none := by
  cases hd : Delimiter.ofChar? c with
  | none => rfl
  | some d =>
    obtain rfl := Delimiter.ofChar?_eq_some_iff.1 hd
    cases d <;> cases h

theorem balanced_frame : Balanced (frame t) ↔ Balanced t := by
  have ho : (frame t).count '(' = t.count '(' := List.count_filter (by decide)
  have hc : (frame t).count ')' = t.count ')' := List.count_filter (by decide)
  rw [Balanced, ho, hc, Balanced]

/-- The delimiters at the top are those of the frame. -/
theorem delimiters_frame (t : Text) : delimiters (frame t) = delimiters t := by
  induction t using List.reverseRecOn with
  | nil => rfl
  | append_singleton t c ih =>
    rw [frame_append, delimiters_concat]
    by_cases hc : isNeutral c = true
    · have hf : frame [c] = [] := frame_eq_nil_iff.2 (neutral_cons.2 ⟨hc, neutral_nil⟩)
      rw [hf, List.append_nil, ih, ofChar?_of_isNeutral hc]
      simp
    · have hf : frame [c] = [c] := by simp [frame, hc]
      rw [hf, delimiters_concat, ih]
      simp only [balanced_frame]

theorem flat_iff : Flat t ↔ Balanced t ∧ delimiters t = [] := by
  rw [delimiters, List.map_eq_nil_iff]
  exact ⟨fun h => ⟨h.balanced, h.marks_eq_nil⟩, fun h => ⟨h.1, h.2⟩⟩

theorem flat_of_neutral (h : Neutral t) : Flat t := by
  have hf : frame t = [] := frame_eq_nil_iff.2 h
  rw [flat_iff, ← balanced_frame, ← delimiters_frame, hf]
  exact ⟨rfl, rfl⟩

theorem delimiters_of_kept (h : Kept s t) : delimiters s = delimiters t := by
  rw [← delimiters_frame, h.frame_eq, delimiters_frame]

theorem flat_of_kept (h : Kept s t) : Flat s ↔ Flat t := by
  rw [flat_iff, flat_iff, delimiters_of_kept h, ← balanced_frame, h.frame_eq, balanced_frame]

/-- In front of other text, a flat text adds no delimiter. -/
theorem delimiters_flat_append (h : Flat x) (t : Text) : delimiters (x ++ t) = delimiters t := by
  rw [delimiters, marks_append h.balanced, h.marks_eq_nil, List.nil_append, List.map_map]
  rfl

theorem delimiters_delimiter_append (h : Flat x) (d : Delimiter) (t : Text) :
    delimiters (x ++ d.char :: t) = d :: delimiters t := by
  rw [delimiters, marks_append_delimiter h, List.map_cons, List.map_map]
  rfl

/-- A mark that may not stand where it does is the fault, in every mode. -/
theorem read_of_stuck {ms ns : List Mark} {m : Mark} {p : Phase} (ht : marks t = ms ++ m :: ns)
    (hp : Phase.start.after? (ms.map Mark.delimiter) = some p) (hc : p ≠ .closed)
    (hq : p.next? m.delimiter = none) (mode : Mode) :
    read mode t = .error (.unexpected m.delimiter (byteLength m.before) p) := by
  have hd : delimiters t = ms.map Mark.delimiter ++ m.delimiter :: ns.map Mark.delimiter := by
    rw [delimiters, ht, List.map_append, List.map_cons]
  have hfst : (delimiters t).take ms.length = ms.map Mark.delimiter := by
    rw [hd, List.take_left' (List.length_map _)]
  have hsnd : (delimiters t).take (ms.length + 1) = ms.map Mark.delimiter ++ [m.delimiter] := by
    rw [hd, List.append_cons, List.take_left' (by simp)]
  have hw : ms.map Mark.delimiter ++ [m.delimiter] <+: delimiters t := by
    rw [← hsnd]
    exact List.take_prefix _ _
  have hstuck := not_begins_concat hp hq
  obtain ⟨n, k, q, hk, hb, hnb, hq', hr⟩ := read_of_not_begins mode
    (fun n => notMem_form_of_stuck hp hc hq hw (List.take_prefix n _))
    fun h => hstuck (h.of_isPrefix hw)
  -- The delimiters before this mark begin a block, and with it they do not, so it is the one found.
  obtain rfl : n = ms.length := by
    rcases Nat.lt_trichotomy n ms.length with hn | hn | hn
    · have hpre := List.take_prefix_take_left (l := delimiters t) (Nat.succ_le_of_lt hn)
      rw [hfst] at hpre
      exact absurd ((begins_iff.2 ⟨p, hp⟩).of_isPrefix hpre) hnb
    · exact hn
    · have hpre := List.take_prefix_take_left (l := delimiters t) (Nat.succ_le_of_lt hn)
      rw [hsnd] at hpre
      exact absurd (hb.of_isPrefix hpre) hstuck
  obtain rfl : m = k := by simpa [ht] using hk
  rw [hfst, hp] at hq'
  rw [hr, Option.some.inj hq']

/-- Behind its first colon a block does not go on with a colon or the closing brace. -/
theorem read_of_delimiters {n : Nat} (hn : 0 < n)
    (h : delimiters t = .openBrace :: (List.replicate n .colon ++ [.closeBrace])) :
    ∃ offset, ∀ mode, read mode t =
      .error (.unexpected (if 1 < n then .colon else .closeBrace) offset .value) := by
  obtain ⟨v, hv⟩ : ∃ v, delimiters t =
      .openBrace :: .colon :: (if 1 < n then .colon else .closeBrace) :: v := by
    rw [h]
    rcases n with _ | _ | n
    · contradiction
    · exact ⟨[], rfl⟩
    · exact ⟨List.replicate n .colon ++ [.closeBrace], by simp [List.replicate_succ]⟩
  rw [delimiters] at hv
  obtain ⟨k, ks, ht, hk, hv⟩ := List.map_eq_cons_iff.1 hv
  obtain ⟨l, ls, rfl, hl, hv⟩ := List.map_eq_cons_iff.1 hv
  obtain ⟨m, ms, rfl, hm, -⟩ := List.map_eq_cons_iff.1 hv
  have hp : Phase.start.after? ([k, l].map Mark.delimiter) = some .value := by
    rw [List.map_cons, List.map_singleton, hk, hl]
    rfl
  have hq : Phase.value.next? m.delimiter = none := by
    rw [hm]
    split <;> rfl
  have hms : marks t = [k, l] ++ m :: ms := ht
  refine ⟨byteLength m.before, fun mode => ?_⟩
  rw [← hm]
  exact read_of_stuck hms hp (by decide) hq mode

end StyleObject.Block
