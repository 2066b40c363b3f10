import StyleObject.Block.Trace
import StyleObject.Proofs.Block.Invariant

/-!
# Traces

The moves in the trace of a block are those of the phases, one after the other from the start on,
wherever the block stops. A declaration is an event immediately before the move behind the semicolon
that ends it, and at no other place. All delimiters and declarations that the scan comes to before
it stops are there.
-/
namespace StyleObject

/-- A move, or the declaration that comes with one. -/
def Event.isStep : Event → Bool
  | .declared _ => true
  | .moved .. => true
  | _ => false

namespace Block

variable {p q : Phase} {d : Delimiter} {e : Event} {es rest : List Event} {s s' : Scan} {c : Char}
  {t u : Text} {ss : List Segment}

/-- The moves among some events are those of the phases from `p` on. -/
def Path (p : Phase) : List Event → Prop
  | [] => True
  | .moved before after d :: es => before = p ∧ p.next? d = some after ∧ Path after es
  | _ :: es => Path p es

/-- Immediately before each move behind a semicolon stands one declaration, and no declaration
stands elsewhere. -/
structure Paired (es : List Event) : Prop where
  declared : ∀ pre p q post, es = pre ++ .moved p q .semicolon :: post →
    ∃ pre' x, pre = pre' ++ [.declared x] ∧ ∀ y, pre'.getLast? ≠ some (.declared y)
  moved : ∀ pre x post, es = pre ++ .declared x :: post →
    ∃ p q post', post = .moved p q .semicolon :: post'

/-- The delimiters that the moves among some events are behind. -/
def movedOn (es : List Event) : List Delimiter :=
  es.filterMap fun e =>
    match e with
    | .moved _ _ d => some d
    | _ => none

/-- The declarations among some events. -/
def declaredIn (es : List Event) : List Declaration :=
  es.filterMap fun e =>
    match e with
    | .declared x => some x
    | _ => none

/-- The events tell of each delimiter and of each declaration that a scan of the text comes to
before it stops. -/
def Follows (t : Text) (es : List Event) : Prop :=
  ∃ u s, u <+: t ∧ Scan.run {} u = .ok s ∧ Stops t u s (Scan.run {} t) ∧
    movedOn es = delimiters u ∧ declaredIn es = s.declarations

/-- The events that can be seen of a block from a phase on, among others. -/
inductive Traced : Phase → List Event → Prop where
  | nil (p : Phase) : Traced p []
  | move {p q : Phase} {d : Delimiter} {es : List Event} (hd : d ≠ .semicolon)
    (hq : p.next? d = some q) (h : Traced q es) : Traced p (.moved p q d :: es)
  | declare (x : Declaration) {p q : Phase} {es : List Event}
    (hq : p.next? .semicolon = some q) (h : Traced q es) :
    Traced p (.declared x :: .moved p q .semicolon :: es)
  | other {e : Event} {p : Phase} {es : List Event} (he : e.isStep = false) (h : Traced p es) :
    Traced p (e :: es)

theorem Path.cons_of_not_isStep {e : Event} (he : e.isStep = false) (h : Path p es) :
    Path p (e :: es) := by
  cases e <;> first | exact h | cases he

namespace Traced

theorem of_forall (h : ∀ e ∈ es, e.isStep = false) (p : Phase) : Traced p es := by
  induction es with
  | nil => exact .nil p
  | cons e es ih =>
    exact .other (h e List.mem_cons_self) (ih fun e he => h e (List.mem_cons_of_mem _ he))

theorem append_of_forall (h : Traced p es) (hr : ∀ e ∈ rest, e.isStep = false) :
    Traced p (es ++ rest) := by
  induction h with
  | nil p => exact of_forall hr p
  | move hd hq _ ih => exact .move hd hq ih
  | declare x hq _ ih => exact .declare x hq ih
  | other he _ ih => exact .other he ih

theorem path (h : Traced p es) : Path p es := by
  induction h with
  | nil => trivial
  | move hd hq _ ih => exact ⟨rfl, hq, ih⟩
  | declare x hq _ ih => exact ⟨rfl, hq, ih⟩
  | other he _ ih => exact ih.cons_of_not_isStep he

/-- The event before a move behind a semicolon is a declaration. -/
theorem exists_declared (h : Traced p es) {pre post : List Event} {p' q' : Phase}
    (he : es = pre ++ .moved p' q' .semicolon :: post) : ∃ pre' x, pre = pre' ++ [.declared x] := by
  induction h generalizing pre with
  | nil => simp at he
  | move hd _ _ ih =>
    rcases List.cons_eq_append_iff.1 he with ⟨-, hm⟩ | ⟨pre, rfl, ht⟩
    · cases hm
      contradiction
    · obtain ⟨pre', x, rfl⟩ := ih ht
      exact ⟨_ :: pre', x, rfl⟩
  | declare x _ _ ih =>
    rcases List.cons_eq_append_iff.1 he with ⟨-, hm⟩ | ⟨pre, rfl, ht⟩
    · cases hm
    · rcases List.cons_eq_append_iff.1 ht with ⟨rfl, -⟩ | ⟨pre, rfl, hr⟩
      · exact ⟨[], x, rfl⟩
      · obtain ⟨pre', y, rfl⟩ := ih hr
        exact ⟨_ :: _ :: pre', y, rfl⟩
  | other hs _ ih =>
    rcases List.cons_eq_append_iff.1 he with ⟨-, hm⟩ | ⟨pre, rfl, ht⟩
    · cases hm
      cases hs
    · obtain ⟨pre', x, rfl⟩ := ih ht
      exact ⟨_ :: pre', x, rfl⟩

/-- The event behind a declaration is the move behind its semicolon. -/
theorem exists_moved (h : Traced p es) {pre post : List Event} {x : Declaration}
    (he : es = pre ++ .declared x :: post) : ∃ p q post', post = .moved p q .semicolon :: post' := by
  induction h generalizing pre with
  | nil => simp at he
  | move _ _ _ ih =>
    rcases List.cons_eq_append_iff.1 he with ⟨-, hm⟩ | ⟨pre, rfl, ht⟩
    · cases hm
    · exact ih ht
  | declare y _ _ ih =>
    rcases List.cons_eq_append_iff.1 he with ⟨-, hm⟩ | ⟨pre, rfl, ht⟩
    · cases hm
      exact ⟨_, _, _, rfl⟩
    · rcases List.cons_eq_append_iff.1 ht with ⟨-, hm⟩ | ⟨pre, rfl, hr⟩
      · cases hm
      · exact ih hr
  | other hs _ ih =>
    rcases List.cons_eq_append_iff.1 he with ⟨-, hm⟩ | ⟨pre, rfl, ht⟩
    · cases hm
      cases hs
    · exact ih ht

theorem paired (h : Traced p es) : Paired es where
  declared := by
    rintro pre p' q' post rfl
    obtain ⟨pre', x, rfl⟩ := h.exists_declared rfl
    refine ⟨pre', x, rfl, fun y hy => ?_⟩
    -- A second declaration would have to be followed by a move and not by the first.
    obtain ⟨ys, rfl⟩ := List.getLast?_eq_some_iff.1 hy
    rw [List.append_assoc, List.append_assoc] at h
    obtain ⟨p, q, post', hm⟩ := h.exists_moved rfl
    cases hm
  moved := fun _ _ _ => h.exists_moved

end Traced

theorem movedOn_append (es rest : List Event) : movedOn (es ++ rest) = movedOn es ++ movedOn rest :=
  List.filterMap_append

theorem declaredIn_append (es rest : List Event) :
    declaredIn (es ++ rest) = declaredIn es ++ declaredIn rest := List.filterMap_append

theorem told_of_forall (h : ∀ e ∈ es, e.isStep = false) : movedOn es = [] ∧ declaredIn es = [] := by
  induction es with
  | nil => exact ⟨rfl, rfl⟩
  | cons e es ih =>
    have he := h e List.mem_cons_self
    have hr := ih fun x hx => h x (List.mem_cons_of_mem _ hx)
    cases e <;> first | exact hr | cases he

theorem Follows.congr (h : Follows t es) (hm : movedOn rest = movedOn es)
    (hd : declaredIn rest = declaredIn es) : Follows t rest := by
  obtain ⟨u, s, hu, hs, hst, hm', hd'⟩ := h
  exact ⟨u, s, hu, hs, hst, hm.trans hm', hd.trans hd'⟩

/-- The events tell how a text is read as a block, among other events. -/
structure Tells (t : Text) (es : List Event) : Prop where
  traced : Traced .start es
  follows : Follows t es

namespace Tells

theorem append (h : Tells t es) (hr : ∀ e ∈ rest, e.isStep = false) : Tells t (es ++ rest) where
  traced := h.traced.append_of_forall hr
  follows := by
    obtain ⟨hm, hd⟩ := told_of_forall hr
    refine h.follows.congr ?_ ?_
    · rw [movedOn_append, hm, List.append_nil]
    · rw [declaredIn_append, hd, List.append_nil]

theorem cons (h : Tells t es) (he : e.isStep = false) : Tells t (e :: es) where
  traced := .other he h.traced
  follows := by cases e <;> first | exact h.follows.congr rfl rfl | cases he

end Tells

namespace Scan

/-- A delimiter that moves a scan is an event, behind the declaration that it ends. -/
theorem eventsOf_move (hc : s.delimiter? c = some d) (hq : s.phase.next? d = some q) :
    s.eventsOf c = (if d = .semicolon then
      [.declared ⟨s.property.getD [], Text.trim s.buffer⟩] else []) ++ [.moved s.phase q d] := by
  unfold eventsOf
  rw [hc]
  simp only [hq]
  cases d <;> rfl

theorem eventsOf_of_none (hc : s.delimiter? c = none) : s.eventsOf c = [] := by
  unfold eventsOf
  rw [hc]

theorem eventsOf_of_step_error {f : Fault} (h : s.step c = .error f) : s.eventsOf c = [] := by
  obtain ⟨d, hc, hq, -⟩ := step_eq_error.1 h
  unfold eventsOf
  rw [hc]
  simp only [hq]

theorem traced_trace (s : Scan) (t : Text) : Traced s.phase (s.trace t) := by
  induction t generalizing s with
  | nil => exact .nil _
  | cons c r ih =>
    by_cases ho : s.phase = .closed
    · rw [trace, if_pos ho]
      exact .nil _
    rw [trace, if_neg ho]
    cases hs : s.step c with
    | error f =>
      rw [eventsOf_of_step_error hs]
      exact .nil _
    | ok s' =>
      rcases step_eq_ok.1 hs with ⟨hc, rfl⟩ | ⟨d, q, hc, hq, rfl⟩
      · rw [eventsOf_of_none hc]
        exact ih (s.collect c)
      · rw [eventsOf_move hc hq]
        by_cases hd : d = .semicolon
        · subst hd
          exact .declare _ hq (ih (s.move .semicolon q))
        · rw [if_neg hd]
          exact .move hd hq (ih (s.move d q))

theorem trace_closed (h : s.phase = .closed) (t : Text) : s.trace t = [] := by
  cases t with
  | nil => rfl
  | cons c r => rw [trace, if_pos h]

/-- The trace goes on where the scan stands. -/
theorem trace_append (h : s.run t = .ok s') (u : Text) :
    s.trace (t ++ u) = s.trace t ++ s'.trace u := by
  induction t generalizing s with
  | nil =>
    cases h
    rfl
  | cons c r ih =>
    by_cases ho : s.phase = .closed
    · rw [run_closed ho] at h
      cases h
      rw [trace_closed ho, trace_closed ho, trace_closed ho]
      rfl
    rw [run, if_neg ho] at h
    rw [List.cons_append, trace, if_neg ho, trace, if_neg ho, List.append_assoc]
    cases hs : s.step c with
    | error f =>
      rw [hs] at h
      cases h
    | ok s₁ =>
      rw [hs] at h
      exact congrArg _ (ih h)

theorem trace_singleton (ho : s.phase ≠ .closed) (c : Char) : s.trace [c] = s.eventsOf c := by
  rw [trace, if_neg ho]
  cases s.step c <;> exact List.append_nil _

theorem isStep_of_mem_eventsOf (h : e ∈ s.eventsOf c) : e.isStep = true := by
  cases hs : s.step c with
  | error f =>
    rw [eventsOf_of_step_error hs] at h
    cases h
  | ok s' =>
    rcases step_eq_ok.1 hs with ⟨hc, -⟩ | ⟨d, q, hc, hq, -⟩
    · rw [eventsOf_of_none hc] at h
      cases h
    · rw [eventsOf_move hc hq, List.mem_append, List.mem_singleton] at h
      rcases h with h | rfl
      · split at h
        · rw [List.mem_singleton.1 h]
          rfl
        · cases h
      · rfl

theorem isStep_of_mem_trace {t : Text} (h : e ∈ s.trace t) : e.isStep = true := by
  induction t generalizing s with
  | nil => cases h
  | cons c r ih =>
    rw [trace] at h
    split at h
    · cases h
    · rcases List.mem_append.1 h with h | h
      · exact isStep_of_mem_eventsOf h
      · split at h
        · exact ih h
        · cases h

theorem eq_dropped_of_mem_finishEvents {mode : Mode} (h : e ∈ s.finishEvents mode) :
    e = .dropped s.leftover := by
  unfold finishEvents at h
  split at h
  · split at h
    · cases h
    · exact List.mem_singleton.1 h
  · cases h

end Scan

/-- A scan tells of the segments that it has closed, and of the declarations that it has found. -/
theorem Reads.told (h : Reads ss u s) :
    movedOn (Scan.trace {} u) = ss.map Segment.delimiter ∧
      declaredIn (Scan.trace {} u) = s.declarations := by
  induction h with
  | start => exact ⟨rfl, rfl⟩
  | collect h ho hs ih =>
    rw [Scan.trace_append h.run, Scan.trace_singleton ho,
      Scan.eventsOf_of_none (Scan.delimiter?_of_step_eq_collect hs), List.append_nil]
    exact ih
  | @consume ss u s d q h ho hs ih =>
    obtain ⟨hc, hq⟩ := Scan.next?_of_step_eq_move hs
    rw [Scan.trace_append h.run, Scan.trace_singleton ho, Scan.eventsOf_move hc hq, movedOn_append,
      declaredIn_append, ih.1, ih.2]
    by_cases hd : d = .semicolon
    · subst hd
      exact ⟨by simp [movedOn], rfl⟩
    · rw [if_neg hd, Scan.move_declarations hd]
      exact ⟨by simp [movedOn], List.append_nil _⟩

/-- Behind the place where the scan stops nothing is told. -/
theorem Stops.trace_eq {r : Except Fault Scan} (h : Stops t u s r) (hu : u <+: t)
    (hs : Scan.run {} u = .ok s) : Scan.trace {} t = Scan.trace {} u := by
  cases h with
  | closed hc =>
    obtain ⟨w, rfl⟩ := hu
    rw [Scan.trace_append hs, Scan.trace_closed hc, List.append_nil]
  | ended he => rw [he]
  | faulted ho hp hf =>
    obtain ⟨w, rfl⟩ := hp
    rw [List.append_assoc, Scan.trace_append hs, List.singleton_append, Scan.trace, if_neg ho,
      Scan.eventsOf_of_step_error hf, hf]
    exact List.append_nil _

theorem follows_scan (t : Text) : Follows t (Scan.trace {} t) := by
  obtain ⟨ss, u, s, hu, h, hr⟩ := Reads.start.exists_stops t
  rw [List.nil_append, List.nil_append] at hr
  rw [List.nil_append] at h
  obtain ⟨hm, hd⟩ := h.told
  rw [hr.trace_eq hu h.run]
  exact ⟨u, s, hu, h.run, hr, hm.trans h.map_delimiter, hd⟩

/-- All that is seen of a block behind its steps is the text that it leaves out. -/
theorem exists_trace_eq (mode : Mode) (t : Text) :
    ∃ rest, trace mode t = Scan.trace {} t ++ rest ∧ ∀ e ∈ rest, ∃ u, e = .dropped u := by
  refine ⟨_, rfl, fun e h => ?_⟩
  split at h
  · exact ⟨_, Scan.eq_dropped_of_mem_finishEvents h⟩
  · cases h

theorem tells_trace (mode : Mode) (t : Text) : Tells t (trace mode t) := by
  obtain ⟨rest, he, hr⟩ := exists_trace_eq mode t
  rw [he]
  refine Tells.append ⟨Scan.traced_trace {} t, follows_scan t⟩ fun e h => ?_
  obtain ⟨u, rfl⟩ := hr e h
  rfl

end Block

end StyleObject
