import Mathlib.Computability.Language
import StyleObject.Block.Phase

/-!
# The form of a block

The delimiters of a whole block are a word of a regular language: an opening brace or none, one or
more declarations, and the closing brace. The phases are a machine for this language. The machine
goes through a word exactly when the word begins a block, and it ends in the closed phase exactly
when the word is a whole block.
-/
namespace StyleObject.Block

open Computability

/-- The delimiters of one declaration. -/
def pair : Language Delimiter := {[.colon]} * {[.semicolon]}

/-- The delimiters of a block: an opening brace or none, one or more declarations, and the closing
brace. -/
def form : Language Delimiter := (1 + {[.openBrace]}) * (pair * pair∗) * {[.closeBrace]}

/-- Some block has these delimiters first. -/
def Begins (w : List Delimiter) : Prop := ∃ v, w ++ v ∈ form

namespace Phase

/-- The phase behind some delimiters, if each of them may stand where it does. -/
def after? (p : Phase) (w : List Delimiter) : Option Phase := w.foldlM next? p

@[simp] theorem after?_nil (p : Phase) : p.after? [] = some p := rfl

theorem after?_cons (p : Phase) (d : Delimiter) (w : List Delimiter) :
    p.after? (d :: w) = (p.next? d).bind (·.after? w) := rfl

theorem after?_append (p : Phase) (w v : List Delimiter) :
    p.after? (w ++ v) = (p.after? w).bind (·.after? v) := List.foldlM_append

theorem after?_concat (p : Phase) (w : List Delimiter) (d : Delimiter) :
    p.after? (w ++ [d]) = (p.after? w).bind (·.next? d) := by
  rw [after?_append]
  congr 1
  funext q
  cases h : q.next? d <;> simp [after?_cons, h]

theorem after?_concat_eq_some {p q : Phase} {w : List Delimiter} {d : Delimiter} :
    p.after? (w ++ [d]) = some q ↔ ∃ r, p.after? w = some r ∧ r.next? d = some q := by
  rw [after?_concat, Option.bind_eq_some_iff]

/-- Nothing stands behind the closing brace. -/
theorem eq_nil_of_after?_closed {v : List Delimiter} {p : Phase}
    (h : closed.after? v = some p) : v = [] ∧ p = closed := by
  cases v with
  | nil => exact ⟨rfl, (Option.some.inj h).symm⟩
  | cons d r => simp [after?_cons] at h

/-- The delimiters that may stand behind a phase, up to the end of the block. -/
def tails : Phase → Language Delimiter
  | start => form
  | opened => pair * pair∗ * {[.closeBrace]}
  | value => {[.semicolon]} * (pair∗ * {[.closeBrace]})
  | between => pair∗ * {[.closeBrace]}
  | closed => 1

theorem tails_start : start.tails = opened.tails + {[.openBrace]} * opened.tails := by
  simp only [tails, form, add_mul, one_mul, mul_assoc]

theorem tails_opened : opened.tails = {[.colon]} * value.tails := by
  simp only [tails, pair, mul_assoc]

theorem tails_value : value.tails = {[.semicolon]} * between.tails := rfl

theorem tails_between : between.tails = {[.closeBrace]} * closed.tails + opened.tails := by
  have h : (pair∗ : Language Delimiter) = 1 + pair * pair∗ :=
    (Language.one_add_self_mul_kstar_eq_kstar pair).symm
  calc between.tails = (1 + pair * pair∗) * {[.closeBrace]} := by rw [← h]; rfl
    _ = {[.closeBrace]} + opened.tails := by rw [add_mul, one_mul]; rfl
    _ = {[.closeBrace]} * closed.tails + opened.tails := by simp only [tails, mul_one]

end Phase

theorem cons_mem_singleton_mul {d e : Delimiter} {w : List Delimiter} {l : Language Delimiter} :
    d :: w ∈ ({[e]} : Language Delimiter) * l ↔ d = e ∧ w ∈ l := by
  rw [Language.mem_mul]
  constructor
  · rintro ⟨_, rfl, b, hb, h⟩
    obtain ⟨rfl, rfl⟩ := List.cons.inj h
    exact ⟨rfl, hb⟩
  · rintro ⟨rfl, h⟩
    exact ⟨[d], rfl, w, h, rfl⟩

theorem nil_notMem_singleton_mul {e : Delimiter} {l : Language Delimiter} :
    [] ∉ ({[e]} : Language Delimiter) * l := by
  rw [Language.mem_mul]
  rintro ⟨_, rfl, b, -, h⟩
  cases h

namespace Phase

theorem nil_mem_tails {p : Phase} : [] ∈ p.tails ↔ p = closed := by
  have ho : [] ∉ opened.tails := by
    rw [tails_opened]
    exact nil_notMem_singleton_mul
  cases p with
  | start =>
    rw [tails_start, Language.mem_add]
    simp [ho, nil_notMem_singleton_mul]
  | opened => simp [ho]
  | value => simp [tails_value, nil_notMem_singleton_mul]
  | between =>
    rw [tails_between, Language.mem_add]
    simp [ho, nil_notMem_singleton_mul]
  | closed => simp [tails]

/-- The machine takes a delimiter exactly when the language does. -/
theorem cons_mem_tails {p : Phase} {d : Delimiter} {w : List Delimiter} :
    d :: w ∈ p.tails ↔ ∃ q, p.next? d = some q ∧ w ∈ q.tails := by
  have ho : d :: w ∈ opened.tails ↔ d = .colon ∧ w ∈ value.tails := by
    rw [tails_opened, cons_mem_singleton_mul]
  cases p with
  | start =>
    rw [tails_start, Language.mem_add, ho, cons_mem_singleton_mul]
    cases d <;> simp [next?]
  | opened =>
    rw [ho]
    cases d <;> simp [next?]
  | value =>
    rw [tails_value, cons_mem_singleton_mul]
    cases d <;> simp [next?]
  | between =>
    rw [tails_between, Language.mem_add, ho, cons_mem_singleton_mul]
    cases d <;> simp [next?]
  | closed => simp [tails]

theorem append_mem_tails {p : Phase} {w v : List Delimiter} :
    w ++ v ∈ p.tails ↔ ∃ q, p.after? w = some q ∧ v ∈ q.tails := by
  induction w generalizing p with
  | nil => simp
  | cons d r ih =>
    rw [List.cons_append, cons_mem_tails]
    simp only [ih, after?_cons, Option.bind_eq_some_iff]
    constructor
    · rintro ⟨q, hq, s, hs, hv⟩
      exact ⟨s, ⟨q, hq, hs⟩, hv⟩
    · rintro ⟨s, ⟨q, hq, hs⟩, hv⟩
      exact ⟨q, hq, s, hs, hv⟩

/-- A block can be finished from every phase. -/
theorem tails_nonempty (p : Phase) : ∃ v, v ∈ p.tails := by
  have hb : [.closeBrace] ∈ between.tails := by simp [cons_mem_tails, next?, nil_mem_tails]
  have hv : [.semicolon, .closeBrace] ∈ value.tails := by simpa [cons_mem_tails, next?] using hb
  have ho : [.colon, .semicolon, .closeBrace] ∈ opened.tails := by
    simpa [cons_mem_tails, next?] using hv
  cases p with
  | start => exact ⟨_, by rw [tails_start]; exact Or.inl ho⟩
  | opened => exact ⟨_, ho⟩
  | value => exact ⟨_, hv⟩
  | between => exact ⟨_, hb⟩
  | closed => exact ⟨[], nil_mem_tails.2 rfl⟩

end Phase

/-- The machine ends in the closed phase exactly behind whole blocks. -/
theorem mem_form_iff {w : List Delimiter} : w ∈ form ↔ Phase.start.after? w = some .closed := by
  change w ∈ Phase.start.tails ↔ _
  rw [← List.append_nil w, Phase.append_mem_tails]
  simp [Phase.nil_mem_tails]

/-- The machine goes through a word exactly when the word begins a block. -/
theorem begins_iff {w : List Delimiter} : Begins w ↔ ∃ p, Phase.start.after? w = some p := by
  constructor
  · rintro ⟨v, hv⟩
    change w ++ v ∈ Phase.start.tails at hv
    obtain ⟨p, hp, -⟩ := Phase.append_mem_tails.1 hv
    exact ⟨p, hp⟩
  · rintro ⟨p, hp⟩
    obtain ⟨v, hv⟩ := p.tails_nonempty
    refine ⟨v, ?_⟩
    change w ++ v ∈ Phase.start.tails
    exact Phase.append_mem_tails.2 ⟨p, hp, hv⟩

theorem begins_of_mem_form {w : List Delimiter} (h : w ∈ form) : Begins w :=
  ⟨[], by rwa [List.append_nil]⟩

theorem Begins.of_isPrefix {w v : List Delimiter} (h : w <+: v) (hv : Begins v) : Begins w := by
  obtain ⟨r, rfl⟩ := h
  obtain ⟨u, hu⟩ := hv
  exact ⟨r ++ u, by rwa [← List.append_assoc]⟩

/-- No whole block lies in a word that leaves a block open. -/
theorem notMem_form_of_isPrefix {w v : List Delimiter} {p : Phase}
    (hv : Phase.start.after? v = some p) (hp : p ≠ .closed) (h : w <+: v) : w ∉ form := by
  intro hw
  obtain ⟨r, rfl⟩ := h
  rw [Phase.after?_append, mem_form_iff.1 hw] at hv
  exact hp (Phase.eq_nil_of_after?_closed hv).2

/-- Of the words that begin one word, at most one is a whole block. -/
theorem form_prefix_unique {w v u : List Delimiter} (hw : w ∈ form) (hv : v ∈ form)
    (hwu : w <+: u) (hvu : v <+: u) : w = v := by
  wlog h : w <+: v generalizing w v
  · exact (this hv hw hvu hwu ((List.prefix_or_prefix_of_prefix hwu hvu).resolve_left h)).symm
  obtain ⟨r, rfl⟩ := h
  rw [mem_form_iff] at hw hv
  rw [Phase.after?_append, hw] at hv
  simp [(Phase.eq_nil_of_after?_closed hv).1]

end StyleObject.Block
