import StyleObject.Object
import StyleObject.Proofs.Object.Grammar
import StyleObject.Proofs.Text.Line

/-!
# The text of an object

An object is rendered line by line. As long as no entry has a carriage return, this is the text of
its entries with the indent behind every line feed, so a rendered object is one of the grammar if
its keys and values are.
-/
namespace StyleObject

namespace Grammar

/-- The lines of a text with the indent in front of them. -/
theorem flatMap_splitOn (n : Nat) (t : Text) :
    ((t.splitOn '\n').map (List.replicate n ' ' ++ ·)).flatMap ('\n' :: ·) =
      indentLines n ('\n' :: t) := by
  induction t with
  | nil => simp
  | cons c r ih =>
    rw [List.splitOn_cons_eq_if_modifyHead]
    by_cases hc : c = '\n'
    · subst hc
      simp [ih]
    · obtain ⟨l, ls, hs⟩ := List.exists_cons_of_ne_nil (List.splitOn_ne_nil '\n' r)
      rw [hs] at ih ⊢
      simpa [hc] using ih

end Grammar

/-- The field of an entry. -/
def Entry.field (e : Entry) : Grammar.Field := ⟨e.key, e.value.text⟩

open Grammar

theorem Entry.indentLines_text (n : Nat) {e : Entry} (h : IsKey e.key) :
    indentLines n ('\n' :: e.text) = itemText n e.field ++ [','] := by
  have hk := indentLines_of_notMem (n := n) (notMem_lineFeed_of_isKey h)
  simp [Entry.text, Entry.field, itemText, hk]

namespace Object

variable {o : Object} {n : Nat}

theorem render_eq_flatMap (hn : o.entries ≠ []) (hr : ∀ e ∈ o.entries, '\r' ∉ e.text) :
    o.render n =
      '\x7b' :: (o.entries.flatMap fun e => indentLines n ('\n' :: e.text)) ++ ['\n', '\x7d'] := by
  have hl : ∀ e ∈ o.entries, Text.lines e.text = e.text.splitOn '\n' := fun e he =>
    Text.lines_eq_splitOn (hr e he) (List.suffix_append _ _)
  have hi : (o.lines n).flatMap ('\n' :: ·) =
      o.entries.flatMap fun e => indentLines n ('\n' :: e.text) := by
    rw [Object.lines, List.map_flatMap, List.flatMap_assoc]
    refine List.flatMap_congr fun e he => ?_
    rw [hl e he, flatMap_splitOn]
  have hne : o.lines n ≠ [] := by
    intro h
    rw [h] at hi
    obtain ⟨e, es, he⟩ := List.exists_cons_of_ne_nil hn
    rw [he] at hi
    cases hi
  rw [← hi, ← Text.cons_intercalate_lineFeed hne]
  simp [render]

/-- An object whose keys and values are in the grammar is rendered as an object with its fields. -/
theorem isObject_render (hn : o.entries ≠ [])
    (h : ∀ e ∈ o.entries, IsKey e.key ∧ IsValue e.value.text ∧ '\r' ∉ e.text) :
    IsObject n (o.entries.map Entry.field) (o.render n) := by
  refine ⟨?_, ?_, ?_⟩
  · rw [render_eq_flatMap hn fun e he => (h e he).2.2, List.flatMap_map]
    congr 2
    exact List.flatMap_congr fun e he => Entry.indentLines_text n (h e he).1
  · intro f hf
    obtain ⟨e, he, rfl⟩ := List.mem_map.1 hf
    exact (h e he).1
  · intro f hf
    obtain ⟨e, he, rfl⟩ := List.mem_map.1 hf
    exact (h e he).2.1

/-- What holds of every name and every value that is added holds of every entry. -/
theorem forall_mem_insert (P : Text → Prop) (Q : Value → Prop) {name : Text} {value : Value}
    (h : ∀ e ∈ o.entries, P e.name ∧ Q e.value) (hp : P name) (hq : Q value) :
    ∀ e ∈ (o.insert name value).entries, P e.name ∧ Q e.value := by
  intro e he
  unfold insert at he
  split at he
  · next k _ =>
    obtain ⟨i, hi, rfl⟩ := List.mem_iff_getElem.1 he
    simp only [setValue, List.getElem_modify]
    have hm := h _ (List.getElem_mem (by simpa [setValue] using hi))
    split
    · exact ⟨hm.1, hq⟩
    · exact hm
  · rcases List.mem_append.1 he with he | he
    · exact h e he
    · obtain rfl := List.mem_singleton.1 he
      exact ⟨hp, hq⟩

theorem forall_mem_insertAll (P : Text → Prop) (Q : Value → Prop) {es : List Entry}
    (h : ∀ e ∈ o.entries, P e.name ∧ Q e.value) (hes : ∀ e ∈ es, P e.name ∧ Q e.value) :
    ∀ e ∈ (o.insertAll es).entries, P e.name ∧ Q e.value := by
  induction es generalizing o with
  | nil => exact h
  | cons d ds ih =>
    have hd := hes d List.mem_cons_self
    exact ih (forall_mem_insert P Q h hd.1 hd.2) fun e he => hes e (List.mem_cons_of_mem _ he)

theorem size_le_insert (o : Object) (name : Text) (value : Value) :
    o.size ≤ (o.insert name value).size := by
  unfold insert
  split
  · simp [size, setValue]
  · simp [size, push]

theorem size_le_insertAll (o : Object) (es : List Entry) : o.size ≤ (o.insertAll es).size := by
  induction es generalizing o with
  | nil => exact Nat.le_refl _
  | cons e es ih => exact (o.size_le_insert e.name e.value).trans (ih _)

/-- The first entry that is added to an empty object stays in it. -/
theorem entries_insertAll_ne_nil (duplicates : Duplicates) {es : List Entry} (hn : es ≠ []) :
    ((empty duplicates).insertAll es).entries ≠ [] := by
  obtain ⟨e, es, rfl⟩ := List.exists_cons_of_ne_nil hn
  have hp : (empty duplicates).position? e.key = none := by
    cases duplicates <;> simp [position?, empty]
  have hs : ((empty duplicates).insert e.name e.value).size = 1 := by
    unfold insert
    rw [show (empty duplicates).position? (Key.ofName e.name) = none from hp]
    simp [push, size, empty]
  have hle := size_le_insertAll ((empty duplicates).insert e.name e.value) es
  rw [hs] at hle
  exact List.ne_nil_of_length_pos hle

end Object

end StyleObject
