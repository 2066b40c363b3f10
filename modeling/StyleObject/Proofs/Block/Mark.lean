import Mathlib.Data.List.Basic
import StyleObject.Proofs.Block.Form
import StyleObject.Block.Scan

/-!
# The delimiters at the top of a text

A delimiter stands at the top of a text when the text before it holds as many opening as closing
parentheses. A mark is such a delimiter together with the text before it. The marks of a text say
where its declarations are: each colon ends a property and each semicolon behind a colon ends a
value, and both begin behind the mark before them.
-/
namespace StyleObject.Block

/-- A delimiter of a text and all the text before it. -/
structure Mark where
  before : Text
  delimiter : Delimiter
  deriving DecidableEq, Repr

/-- A text with as many opening as closing parentheses. -/
def Balanced (t : Text) : Prop := t.count '(' = t.count ')'

instance (t : Text) : Decidable (Balanced t) := inferInstanceAs (Decidable (_ = _))

/-- The mark that `c` is behind a text, if it is a delimiter at the top. -/
def mark? (before : Text) (c : Char) : Option Mark :=
  if Balanced before then (Delimiter.ofChar? c).map (⟨before, ·⟩) else none

/-- The delimiters at the top of a text, in order. -/
def marks (t : Text) : List Mark :=
  (List.range t.length).filterMap fun i => t[i]?.bind (mark? (t.take i))

/-- The sequence of the delimiters at the top of a text. -/
def delimiters (t : Text) : List Delimiter := (marks t).map Mark.delimiter

namespace Mark

/-- The position behind a mark. -/
def stop (m : Mark) : Nat := m.before.length + 1

/-- The text that a mark ends, from a position on. -/
def textFrom (start : Nat) (m : Mark) : Text := Text.trim (m.before.drop start)

end Mark

/-- The position behind the last mark. -/
def lastStop (start : Nat) (ms : List Mark) : Nat := (ms.getLast?.map Mark.stop).getD start

/-- The declarations between some marks, the first of which ends a text that begins at `start`. -/
def declarationsFrom (start : Nat) : List Mark → List Declaration
  | [] => []
  | [_] => []
  | m :: n :: ms =>
    if m.delimiter = .colon ∧ n.delimiter = .semicolon then
      ⟨m.textFrom start, n.textFrom m.stop⟩ :: declarationsFrom n.stop ms
    else declarationsFrom m.stop (n :: ms)

/-- The trimmed text behind the last delimiter at the top. -/
def restOf (t : Text) : Text := Text.trim (t.drop (lastStop 0 (marks t)))

@[simp] theorem marks_nil : marks [] = [] := rfl

theorem marks_concat (t : Text) (c : Char) :
    marks (t ++ [c]) = marks t ++ (mark? t c).toList := by
  have h : ∀ i ∈ List.range t.length,
      (t ++ [c])[i]?.bind (mark? ((t ++ [c]).take i)) = t[i]?.bind (mark? (t.take i)) := by
    intro i hi
    have hi := List.mem_range.1 hi
    rw [List.getElem?_append_left hi, List.take_append_of_le_length (Nat.le_of_lt hi)]
  simp only [marks, List.length_append, List.length_singleton, List.range_succ,
    List.filterMap_append]
  rw [List.filterMap_congr h]
  cases hm : mark? t c <;> simp [hm]

/-- The marks of a text are the first ones of every longer text. -/
theorem marks_isPrefix (t u : Text) : marks t <+: marks (t ++ u) := by
  induction u generalizing t with
  | nil => simp
  | cons c r ih =>
    have h := ih (t ++ [c])
    rw [marks_concat, List.append_assoc] at h
    exact (List.prefix_append _ _).trans h

theorem delimiters_isPrefix (t u : Text) : delimiters t <+: delimiters (t ++ u) :=
  (marks_isPrefix t u).map Mark.delimiter

theorem take_length_marks {t u : Text} (h : t <+: u) :
    (marks u).take (marks t).length = marks t := by
  obtain ⟨v, rfl⟩ := h
  exact (List.prefix_iff_eq_take.1 (marks_isPrefix t v)).symm

theorem marks_concat_delimiter {t : Text} {d : Delimiter} (h : Balanced t) :
    marks (t ++ [d.char]) = marks t ++ [⟨t, d⟩] := by
  simp [marks_concat, mark?, h]

theorem prefix_of_mem_marks {t : Text} {m : Mark} (h : m ∈ marks t) :
    Balanced m.before ∧ m.before ++ [m.delimiter.char] <+: t := by
  simp only [marks, List.mem_filterMap, List.mem_range, Option.bind_eq_some_iff] at h
  obtain ⟨i, hi, c, hc, hm⟩ := h
  unfold mark? at hm
  split at hm
  · next hb =>
    obtain ⟨d, hd, rfl⟩ := Option.map_eq_some_iff.1 hm
    obtain rfl := Delimiter.ofChar?_eq_some_iff.1 hd
    refine ⟨hb, ?_⟩
    have ht := List.take_add_one (l := t) (i := i)
    rw [hc] at ht
    exact ht ▸ List.take_prefix (i + 1) t
  · cases hm

theorem before_lt_of_mem_marks {t : Text} {m : Mark} (h : m ∈ marks t) :
    m.before.length < t.length := by
  have hl := (prefix_of_mem_marks h).2.length_le
  rw [List.length_append, List.length_singleton] at hl
  omega

@[simp] theorem lastStop_nil (start : Nat) : lastStop start [] = start := rfl

@[simp] theorem lastStop_concat (start : Nat) (ms : List Mark) (m : Mark) :
    lastStop start (ms ++ [m]) = m.stop := by simp [lastStop]

theorem lastStop_cons (start : Nat) (m : Mark) (ms : List Mark) :
    lastStop start (m :: ms) = lastStop m.stop ms := by
  cases ms with
  | nil => rfl
  | cons n ms => simp [lastStop, List.getLast?_cons]

theorem lastStop_marks_le (t : Text) : lastStop 0 (marks t) ≤ t.length := by
  unfold lastStop
  cases h : (marks t).getLast? with
  | none => simp
  | some m => exact before_lt_of_mem_marks (List.mem_of_getLast? h)

/-- Only a semicolon ends a declaration. -/
theorem declarationsFrom_concat (start : Nat) (ms : List Mark) {m : Mark}
    (h : m.delimiter ≠ .semicolon) :
    declarationsFrom start (ms ++ [m]) = declarationsFrom start ms := by
  induction start, ms using declarationsFrom.induct with
  | case1 start => rfl
  | case2 start n => simp [declarationsFrom, h]
  | case3 start n k ms hd ih => simpa [declarationsFrom, hd] using ih
  | case4 start n k ms hd ih => simpa [declarationsFrom, hd] using ih

/-- A colon and a semicolon make one more declaration. -/
theorem declarationsFrom_concat_pair (start : Nat) (ms : List Mark) {m n : Mark}
    (hm : m.delimiter = .colon) (hn : n.delimiter = .semicolon) :
    declarationsFrom start (ms ++ [m, n]) =
      declarationsFrom start ms ++ [⟨m.textFrom (lastStop start ms), n.textFrom m.stop⟩] := by
  induction start, ms using declarationsFrom.induct with
  | case1 start => simp [declarationsFrom, hm, hn]
  | case2 start k => simp [declarationsFrom, hm, hn, lastStop_cons]
  | case3 start j k ms hd ih => simpa [declarationsFrom, hd, lastStop_cons] using ih
  | case4 start j k ms hd ih =>
    rw [List.cons_append] at ih
    simpa [declarationsFrom, hd, lastStop_cons] using ih

/-- A phase that reads a value stands behind a colon. -/
theorem exists_colon_of_after?_value {ms : List Mark}
    (h : Phase.start.after? (ms.map Mark.delimiter) = some .value) :
    ∃ ks k, ms = ks ++ [k] ∧ k.delimiter = .colon := by
  cases ms using List.reverseRecOn with
  | nil => cases h
  | append_singleton ks k =>
    rw [List.map_append, List.map_singleton] at h
    obtain ⟨q, -, hk⟩ := Phase.after?_concat_eq_some.1 h
    exact ⟨ks, k, rfl, Phase.eq_colon_of_next?_value hk⟩

/-- Marks that begin a block hold one declaration for each semicolon. -/
theorem length_declarationsFrom {ms : List Mark} {p : Phase} (start : Nat)
    (h : Phase.start.after? (ms.map Mark.delimiter) = some p) :
    (declarationsFrom start ms).length = (ms.map Mark.delimiter).count .semicolon := by
  induction ms using List.reverseRecOn generalizing p with
  | nil => rfl
  | append_singleton ms m ih =>
    rw [List.map_append, List.map_singleton] at h ⊢
    obtain ⟨q, hq, hm⟩ := Phase.after?_concat_eq_some.1 h
    rw [List.count_append, ← ih hq]
    by_cases hd : m.delimiter = .semicolon
    · rw [hd] at hm ⊢
      obtain ⟨rfl, -⟩ := Phase.next?_semicolon.1 hm
      obtain ⟨ks, k, rfl, hk⟩ := exists_colon_of_after?_value hq
      rw [List.append_assoc, List.singleton_append, declarationsFrom_concat_pair start ks hk hd,
        declarationsFrom_concat start ks (by simp [hk])]
      simp
    · simp [declarationsFrom_concat start ms hd, hd]

end StyleObject.Block
