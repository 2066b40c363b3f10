import StyleObject.Proofs.Block.Mark

/-!
# Segments

The marks of a text cut it into segments, each of which is a flat text and the delimiter that ends
it. A flat text is balanced and has no mark, since parentheses shelter all its delimiters, so its
place in a longer text does not change what it holds. The declarations of a text are the flat texts
of its pairs of colon and semicolon.
-/
namespace StyleObject.Block

/-- A balanced text without a delimiter at the top. -/
structure Flat (t : Text) : Prop where
  balanced : Balanced t
  marks_eq_nil : marks t = []

/-- Each delimiter of the text stands where the parentheses before it are not balanced. -/
def Sheltered (t : Text) : Prop :=
  ∀ before d after, t = before ++ Delimiter.char d :: after → ¬ Balanced before

theorem marks_eq_nil_iff {t : Text} : marks t = [] ↔ Sheltered t := by
  constructor
  · rintro h before d after rfl hb
    have hp := marks_isPrefix (before ++ [d.char]) after
    rw [marks_concat_delimiter hb, List.append_assoc, List.singleton_append, h] at hp
    simpa using List.prefix_nil.1 hp
  · intro h
    refine List.eq_nil_iff_forall_not_mem.2 fun m hm => ?_
    obtain ⟨hb, after, ht⟩ := prefix_of_mem_marks hm
    rw [List.append_assoc, List.singleton_append] at ht
    exact h m.before m.delimiter after ht.symm hb

instance (t : Text) : Decidable (Sheltered t) := decidable_of_iff _ marks_eq_nil_iff

theorem flat_iff_sheltered {t : Text} : Flat t ↔ Balanced t ∧ Sheltered t := by
  rw [← marks_eq_nil_iff]
  exact ⟨fun h => ⟨h.balanced, h.marks_eq_nil⟩, fun h => ⟨h.1, h.2⟩⟩

namespace Mark

/-- The mark behind some more text. -/
def shift (u : Text) (m : Mark) : Mark := ⟨u ++ m.before, m.delimiter⟩

@[simp] theorem shift_delimiter (u : Text) (m : Mark) : (m.shift u).delimiter = m.delimiter := rfl

theorem shift_stop (u : Text) (m : Mark) : (m.shift u).stop = u.length + m.stop := by
  simp [shift, stop, Nat.add_assoc]

theorem shift_textFrom (u : Text) (k : Nat) (m : Mark) :
    (m.shift u).textFrom (u.length + k) = m.textFrom k := by
  simp only [shift, textFrom, List.drop_length_add_append]

end Mark

theorem balanced_append {u : Text} (h : Balanced u) (t : Text) :
    Balanced (u ++ t) ↔ Balanced t := by
  unfold Balanced at h ⊢
  rw [List.count_append, List.count_append]
  omega

theorem balanced_delimiter (d : Delimiter) : Balanced [d.char] := by cases d <;> decide

theorem mark?_append {u : Text} (h : Balanced u) (t : Text) (c : Char) :
    mark? (u ++ t) c = (mark? t c).map (Mark.shift u) := by
  unfold mark?
  by_cases ht : Balanced t
  · rw [if_pos ht, if_pos ((balanced_append h t).2 ht), Option.map_map]
    rfl
  · rw [if_neg ht, if_neg (mt (balanced_append h t).1 ht)]
    rfl

/-- Behind a balanced text the marks are where they are without it. -/
theorem marks_append {u : Text} (h : Balanced u) (t : Text) :
    marks (u ++ t) = marks u ++ (marks t).map (Mark.shift u) := by
  induction t using List.reverseRecOn with
  | nil => simp
  | append_singleton t c ih =>
    rw [← List.append_assoc, marks_concat, marks_concat, ih, mark?_append h]
    cases mark? t c <;> simp

theorem marks_append_delimiter {t : Text} (h : Flat t) (d : Delimiter) (r : Text) :
    marks (t ++ d.char :: r) = ⟨t, d⟩ :: (marks r).map (Mark.shift (t ++ [d.char])) := by
  have hb : Balanced (t ++ [d.char]) := (balanced_append h.balanced _).2 (balanced_delimiter d)
  rw [List.append_cons, marks_append hb, marks_concat_delimiter h.balanced, h.marks_eq_nil]
  rfl

/-- Every text has no marks, or is a flat text, a delimiter and another text. -/
theorem mark_induction {P : Text → Prop} (rest : ∀ t, marks t = [] → P t)
    (mark : ∀ (x : Text) (d : Delimiter) (t : Text), Flat x → P t → P (x ++ d.char :: t))
    (t : Text) : P t := by
  cases h : marks t with
  | nil => exact rest t h
  | cons m ms =>
    obtain ⟨hb, r, hr⟩ := prefix_of_mem_marks (h ▸ List.mem_cons_self : m ∈ marks t)
    rw [List.append_assoc, List.singleton_append] at hr
    have hf : marks m.before = [] := by
      obtain ⟨ns, hn⟩ := marks_isPrefix m.before (m.delimiter.char :: r)
      rw [hr, h] at hn
      cases hm : marks m.before with
      | nil => rfl
      | cons k ks =>
        -- The first mark would stand before itself.
        rw [hm, List.cons_append, List.cons.injEq] at hn
        have hl := before_lt_of_mem_marks (hm ▸ List.mem_cons_self : k ∈ marks m.before)
        rw [hn.1] at hl
        omega
    rw [← hr]
    exact mark m.before m.delimiter r ⟨hb, hf⟩ (mark_induction rest mark r)
termination_by t.length
decreasing_by
  rw [← hr]
  simp only [List.length_append, List.length_singleton]
  omega

/-- A text and the delimiter that ends it. -/
structure Segment where
  text : Text
  delimiter : Delimiter
  deriving DecidableEq, Repr

/-- The text of some segments. -/
def join (ss : List Segment) : Text := ss.flatMap fun s => s.text ++ [s.delimiter.char]

/-- The declarations that some segments hold. -/
def declarationsOf : List Segment → List Declaration
  | [] => []
  | [_] => []
  | s :: r :: ss =>
    if s.delimiter = .colon ∧ r.delimiter = .semicolon then
      ⟨Text.trim s.text, Text.trim r.text⟩ :: declarationsOf ss
    else declarationsOf (r :: ss)

theorem join_cons_append (s : Segment) (ss : List Segment) (t : Text) :
    join (s :: ss) ++ t = s.text ++ s.delimiter.char :: (join ss ++ t) := by
  simp [join]

/-- The marks cut every text into segments and a rest. -/
theorem exists_join (t : Text) :
    ∃ ss rest, t = join ss ++ rest ∧ (∀ s ∈ ss, Flat s.text) ∧ marks rest = [] := by
  induction t using mark_induction with
  | rest t h => exact ⟨[], t, rfl, by simp, h⟩
  | mark x d t hx ih =>
    obtain ⟨ss, rest, rfl, hss, hr⟩ := ih
    refine ⟨⟨x, d⟩ :: ss, rest, (join_cons_append ⟨x, d⟩ ss rest).symm, ?_, hr⟩
    intro s hs
    rcases List.mem_cons.1 hs with rfl | hs
    · exact hx
    · exact hss s hs

theorem declarationsFrom_shift (u : Text) (k : Nat) (ms : List Mark) :
    declarationsFrom (u.length + k) (ms.map (Mark.shift u)) = declarationsFrom k ms := by
  induction k, ms using declarationsFrom.induct with
  | case1 k => rfl
  | case2 k m => rfl
  | case3 k m n ms hd ih =>
    simp only [List.map_cons, declarationsFrom, Mark.shift_delimiter, hd, and_self, if_true,
      Mark.shift_stop, Mark.shift_textFrom, ih]
  | case4 k m n ms hd ih =>
    rw [List.map_cons] at ih
    simp only [List.map_cons, declarationsFrom, Mark.shift_delimiter, hd, if_false,
      Mark.shift_stop, ih]

theorem declarationsFrom_shift_length (u : Text) (ms : List Mark) :
    declarationsFrom u.length (ms.map (Mark.shift u)) = declarationsFrom 0 ms :=
  declarationsFrom_shift u 0 ms

/-- A colon and a semicolon that end flat texts make a declaration of them. -/
theorem declarationsFrom_pair {x y : Text} (hx : Flat x) (hy : Flat y) (t : Text) :
    declarationsFrom 0
        (marks (x ++ Delimiter.char .colon :: (y ++ Delimiter.char .semicolon :: t))) =
      ⟨Text.trim x, Text.trim y⟩ :: declarationsFrom 0 (marks t) := by
  have hk : (x ++ [Delimiter.char .colon]).length = Mark.stop ⟨x, .colon⟩ := by simp [Mark.stop]
  have hl : (y ++ [Delimiter.char .semicolon]).length = Mark.stop ⟨y, .semicolon⟩ := by
    simp [Mark.stop]
  have ht : Mark.textFrom (Mark.stop ⟨x, .colon⟩)
      (Mark.shift (x ++ [Delimiter.char .colon]) ⟨y, .semicolon⟩) = Text.trim y := by
    rw [← hk]
    exact Mark.shift_textFrom _ 0 _
  rw [marks_append_delimiter hx, marks_append_delimiter hy, List.map_cons, declarationsFrom,
    if_pos ⟨rfl, rfl⟩, ht, Mark.shift_stop, declarationsFrom_shift, ← hl,
    declarationsFrom_shift_length]
  rfl

/-- Another delimiter that ends a flat text makes none. -/
theorem declarationsFrom_other {x y : Text} {d e : Delimiter} (hx : Flat x) (hy : Flat y)
    (h : ¬ (d = .colon ∧ e = .semicolon)) (t : Text) :
    declarationsFrom 0 (marks (x ++ d.char :: (y ++ e.char :: t))) =
      declarationsFrom 0 (marks (y ++ e.char :: t)) := by
  have hk : (x ++ [d.char]).length = Mark.stop ⟨x, d⟩ := by simp [Mark.stop]
  rw [marks_append_delimiter hx, marks_append_delimiter hy,
    ← declarationsFrom_shift_length (x ++ [d.char]) (⟨y, e⟩ :: _), hk]
  exact if_neg h

theorem delimiters_join_append {ss : List Segment} {rest : Text} (hs : ∀ s ∈ ss, Flat s.text)
    (hr : marks rest = []) : delimiters (join ss ++ rest) = ss.map Segment.delimiter := by
  induction ss with
  | nil => simp [join, delimiters, hr]
  | cons s ss ih =>
    have hss : ∀ r ∈ ss, Flat r.text := fun r hm => hs r (List.mem_cons_of_mem _ hm)
    rw [join_cons_append, delimiters, marks_append_delimiter (hs s List.mem_cons_self),
      List.map_cons, List.map_map, List.map_cons, ← ih hss]
    rfl

/-- Segments may be read off the text that they are joined to. -/
theorem declarationsFrom_join_append {ss : List Segment} {rest : Text}
    (hs : ∀ s ∈ ss, Flat s.text) (hr : marks rest = []) :
    declarationsFrom 0 (marks (join ss ++ rest)) = declarationsOf ss := by
  induction ss using declarationsOf.induct with
  | case1 => simp [join, hr, declarationsFrom, declarationsOf]
  | case2 s =>
    rw [join_cons_append, marks_append_delimiter (hs s List.mem_cons_self)]
    simp [join, hr, declarationsFrom, declarationsOf]
  | case3 s r ss hd ih =>
    have hss : ∀ q ∈ ss, Flat q.text := fun q hq => hs q (by simp [hq])
    obtain ⟨x, d⟩ := s
    obtain ⟨y, e⟩ := r
    obtain ⟨rfl, rfl⟩ := hd
    rw [join_cons_append, join_cons_append]
    rw [declarationsFrom_pair (hs ⟨x, .colon⟩ (by simp)) (hs ⟨y, .semicolon⟩ (by simp)), ih hss]
    rfl
  | case4 s r ss hd ih =>
    have hss : ∀ q ∈ r :: ss, Flat q.text := fun q hq => hs q (List.mem_cons_of_mem _ hq)
    rw [declarationsOf, if_neg hd, ← ih hss, join_cons_append, join_cons_append,
      declarationsFrom_other (hs s (by simp)) (hs r (by simp)) hd]

end StyleObject.Block
