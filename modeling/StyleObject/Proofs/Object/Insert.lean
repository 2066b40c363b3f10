import Mathlib.Data.List.Basic
import Mathlib.Data.List.Find
import Mathlib.Data.List.Induction
import StyleObject.Object

/-!
# What insertions leave in an object

When every declaration is kept, an object holds the insertions as they came. When the last one
wins, it holds one entry for each key, with the name that came first and the value that came last,
and the position of a key is where its entry stands. An insertion keeps this invariant, so it holds
behind every run of them.
-/
namespace StyleObject

/-- An element that a list holds already is no new one at its end. -/
theorem eraseDups_concat_of_mem {ks : List Text} {k : Text} (h : k ∈ ks) :
    (ks ++ [k]).eraseDups = ks.eraseDups := by
  have hr : [k].removeAll ks = [] := by simp [List.removeAll, h]
  rw [List.eraseDups_append, hr]
  exact List.append_nil _

theorem eraseDups_concat_of_notMem {ks : List Text} {k : Text} (h : k ∉ ks) :
    (ks ++ [k]).eraseDups = ks.eraseDups ++ [k] := by
  have hr : [k].removeAll ks = [k] := by simp [List.removeAll, h]
  rw [List.eraseDups_append, hr]
  rfl

/-- Distinct images of elements come first where the elements do. -/
theorem eraseDups_map {f : Text → Text} {ks : List Text}
    (h : ∀ a ∈ ks, ∀ b ∈ ks, f a = f b → a = b) : (ks.map f).eraseDups = ks.eraseDups.map f := by
  induction ks using List.reverseRecOn with
  | nil => rfl
  | append_singleton ks k ih =>
    have ih := ih fun a ha b hb =>
      h a (List.mem_append_left _ ha) b (List.mem_append_left _ hb)
    rw [List.map_append, List.map_singleton]
    by_cases hk : k ∈ ks
    · rw [eraseDups_concat_of_mem hk, eraseDups_concat_of_mem (List.mem_map_of_mem hk), ih]
    · have hf : f k ∉ ks.map f := by
        intro hm
        obtain ⟨a, ha, he⟩ := List.mem_map.1 hm
        have hak : a = k := h a (List.mem_append_left _ ha) k (by simp) he
        exact hk (hak ▸ ha)
      rw [eraseDups_concat_of_notMem hk, eraseDups_concat_of_notMem hf, ih, List.map_append,
        List.map_singleton]

/-- An element that a list does not hold stands in one place behind it. -/
theorem getElem?_concat_eq_some_iff {ks : List Text} {k key : Text} {i : Nat} (hk : k ∉ ks) :
    (ks ++ [k])[i]? = some key ↔ if k = key then i = ks.length else ks[i]? = some key := by
  rcases Nat.lt_trichotomy i ks.length with hi | rfl | hi
  · rw [List.getElem?_append_left hi]
    split
    · next he =>
      subst he
      have hn : ks[i]? ≠ some k := fun h => hk (List.mem_of_getElem? h)
      exact iff_of_false hn (by omega)
    · rfl
  · simp
  · rw [List.getElem?_eq_none (by simp; omega), List.getElem?_eq_none (by omega)]
    split
    · exact iff_of_false (by simp) (by omega)
    · rfl

namespace Entry

/-- The first entry with a key. -/
def first? (es : List Entry) (key : Text) : Option Entry := es.find? fun e => e.key = key

/-- The last entry with a key. -/
def last? (es : List Entry) (key : Text) : Option Entry := es.reverse.find? fun e => e.key = key

/-- The entry of a key with the name from its first entry and the value from its last one. -/
def settled? (es : List Entry) (key : Text) : Option Entry :=
  (first? es key).bind fun f => (last? es key).map fun l => ⟨f.name, l.value⟩

/-- One such entry for each key, in the order in which the keys first come. -/
def settle (es : List Entry) : List Entry := (es.map key).eraseDups.filterMap (settled? es)

variable {es : List Entry} {e d : Entry} {k : Text}

theorem first?_concat_of_some (h : first? es k = some d) (e : Entry) :
    first? (es ++ [e]) k = some d := by
  rw [first?, List.find?_append]
  rw [first?] at h
  rw [h]
  rfl

theorem first?_concat_of_notMem (h : e.key ∉ es.map key) : first? (es ++ [e]) e.key = some e := by
  have hn : es.find? (fun d => d.key = e.key) = none := by simpa [List.find?_eq_none] using h
  rw [first?, List.find?_append, hn]
  simp

theorem last?_concat (es : List Entry) (e : Entry) (k : Text) :
    last? (es ++ [e]) k = if e.key = k then some e else last? es k := by
  rw [last?, List.reverse_append, List.reverse_singleton, List.singleton_append, List.find?_cons]
  by_cases h : e.key = k <;> simp [h, last?]

/-- The last entry under a name. -/
def lastNamed? (es : List Entry) (name : Text) : Option Entry :=
  es.reverse.find? fun e => e.name = name

/-- Where a key has one name, the last entry with the key is the last one under the name. -/
theorem last?_eq_lastNamed? {name : Text} (h : ∀ e ∈ es, e.key = k ↔ e.name = name) :
    last? es k = lastNamed? es name :=
  List.find?_congr fun e he => decide_eq_decide.2 (h e (List.mem_reverse.1 he))

end Entry

namespace Object

variable {o : Object} {es : List Entry}

/-- The keys of the entries, in order. -/
def keys (o : Object) : List Text := o.entries.map Entry.key

theorem insertAll_concat (o : Object) (es : List Entry) (e : Entry) :
    o.insertAll (es ++ [e]) = (o.insertAll es).insert e.name e.value := List.foldl_concat _ o e es

theorem duplicates_insertAll (o : Object) (es : List Entry) :
    (o.insertAll es).duplicates = o.duplicates := by
  induction es generalizing o with
  | nil => rfl
  | cons e es ih => exact (ih (o.insert e.name e.value)).trans (duplicates_insert o e.name e.value)

/-- Every declaration is kept in its place. -/
theorem entries_insertAll_of_keepAll (h : o.duplicates = .keepAll) (es : List Entry) :
    (o.insertAll es).entries = o.entries ++ es := by
  induction es using List.reverseRecOn with
  | nil => simp [insertAll]
  | append_singleton es e ih =>
    have hd : (o.insertAll es).duplicates = .keepAll := (duplicates_insertAll o es).trans h
    have hp : (o.insertAll es).position? (Key.ofName e.name) = none := by simp [position?, hd]
    rw [insertAll_concat, insert, hp]
    simp [push, ih]

theorem keys_setValue (o : Object) (i : Nat) (v : Value) : (o.setValue i v).keys = o.keys := by
  apply List.ext_getElem?
  intro j
  simp only [keys, setValue, List.getElem?_map, List.getElem?_modify]
  by_cases h : i = j
  · cases o.entries[j]? <;> simp [h, Entry.key]
  · cases o.entries[j]? <;> simp [h]

theorem mem_setValue {i : Nat} {v : Value} {e : Entry} (h : e ∈ (o.setValue i v).entries) :
    ∃ j d, o.entries[j]? = some d ∧ e = ⟨d.name, if i = j then v else d.value⟩ := by
  obtain ⟨j, hj⟩ := List.mem_iff_getElem?.1 h
  rw [setValue, List.getElem?_modify] at hj
  obtain ⟨d, hd, rfl⟩ := Option.map_eq_some_iff.1 hj
  refine ⟨j, d, hd, ?_⟩
  split <;> rfl

/-- What the insertions `es` leave in an object in which the last declaration wins. -/
structure Settled (es : List Entry) (o : Object) : Prop where
  duplicates : o.duplicates = .lastWins
  /-- One entry for each key, in the order in which the keys first came. -/
  keys : o.keys = (es.map Entry.key).eraseDups
  /-- The name that came first with the key of an entry. -/
  name : ∀ e ∈ o.entries, ∃ d, Entry.first? es e.key = some d ∧ d.name = e.name
  /-- The value that came last with it. -/
  value : ∀ e ∈ o.entries, ∃ d, Entry.last? es e.key = some d ∧ d.value = e.value
  /-- The position of a key is where it stands, and no other key has one. -/
  position : ∀ (key : Text) (i : Nat), o.positions[key]? = some i ↔ o.keys[i]? = some key

namespace Settled

theorem start : Settled [] (empty .lastWins) where
  duplicates := rfl
  keys := rfl
  name := by simp
  value := by simp
  position := by simp [empty, Object.keys]

theorem position?_eq (h : Settled es o) (key : Text) : o.position? key = o.positions[key]? := by
  rw [position?, h.duplicates]

/-- A position is that of an entry. -/
theorem lt_size (h : Settled es o) {key : Text} {i : Nat} (hi : o.position? key = some i) :
    i < o.size := by
  rw [h.position?_eq, h.position] at hi
  obtain ⟨hl, -⟩ := List.getElem?_eq_some_iff.1 hi
  simpa [Object.keys, size] using hl

/-- The key of an insertion has a position. -/
theorem exists_position? (h : Settled es o) {e : Entry} (he : e ∈ es) :
    ∃ i, o.position? e.key = some i ∧ o.keys[i]? = some e.key := by
  have hk : e.key ∈ o.keys := by
    rw [h.keys, List.mem_eraseDups]
    exact List.mem_map_of_mem he
  obtain ⟨i, hi⟩ := List.mem_iff_getElem?.1 hk
  exact ⟨i, by rwa [h.position?_eq, h.position], hi⟩

/-- A key that has come before keeps its entry, which takes the new value. -/
theorem setValue (h : Settled es o) {e : Entry} {i : Nat} (hi : o.keys[i]? = some e.key) :
    Settled (es ++ [e]) (o.setValue i e.value) := by
  have hk : e.key ∈ es.map Entry.key := by
    rw [← List.mem_eraseDups, ← h.keys]
    exact List.mem_of_getElem? hi
  refine ⟨h.duplicates, ?_, fun d hd => ?_, fun d hd => ?_, fun key j => ?_⟩
  · rw [keys_setValue, h.keys, List.map_append, List.map_singleton, eraseDups_concat_of_mem hk]
  · obtain ⟨j, c, hc, rfl⟩ := mem_setValue hd
    obtain ⟨f, hf, hn⟩ := h.name c (List.mem_of_getElem? hc)
    exact ⟨f, Entry.first?_concat_of_some hf e, hn⟩
  · obtain ⟨j, c, hc, rfl⟩ := mem_setValue hd
    have hj : o.keys[j]? = some c.key := by simp [Object.keys, hc]
    change ∃ d, Entry.last? (es ++ [e]) c.key = some d ∧ _
    rw [Entry.last?_concat]
    by_cases hij : i = j
    · subst hij
      have he : e.key = c.key := Option.some.inj (hi.symm.trans hj)
      exact ⟨e, if_pos he, (if_pos rfl).symm⟩
    · -- Another entry has another key, since a key has one position only.
      have he : e.key ≠ c.key := by
        intro he
        rw [← h.position] at hi hj
        rw [he] at hi
        exact hij (Option.some.inj (hi.symm.trans hj))
      obtain ⟨l, hl, hv⟩ := h.value c (List.mem_of_getElem? hc)
      exact ⟨l, (if_neg he).trans hl, hv.trans (if_neg hij).symm⟩
  · rw [keys_setValue]
    exact h.position key j

/-- A new key gets an entry behind the others. -/
theorem push (h : Settled es o) {e : Entry} (hk : e.key ∉ o.keys) :
    Settled (es ++ [e]) (o.push e) := by
  have hes : e.key ∉ es.map Entry.key := by rwa [h.keys, List.mem_eraseDups] at hk
  have hkeys : (o.push e).keys = o.keys ++ [e.key] := by simp [Object.keys, Object.push]
  refine ⟨h.duplicates, ?_, fun d hd => ?_, fun d hd => ?_, fun key i => ?_⟩
  · rw [hkeys, h.keys, List.map_append, List.map_singleton, eraseDups_concat_of_notMem hes]
  · rcases List.mem_append.1 hd with hd | hd
    · obtain ⟨f, hf, hn⟩ := h.name d hd
      exact ⟨f, Entry.first?_concat_of_some hf e, hn⟩
    · obtain rfl := List.mem_singleton.1 hd
      exact ⟨d, Entry.first?_concat_of_notMem hes, rfl⟩
  · rw [Entry.last?_concat]
    rcases List.mem_append.1 hd with hd | hd
    · have he : e.key ≠ d.key := fun he => hk (he ▸ List.mem_map_of_mem hd)
      obtain ⟨l, hl, hv⟩ := h.value d hd
      exact ⟨l, (if_neg he).trans hl, hv⟩
    · obtain rfl := List.mem_singleton.1 hd
      exact ⟨d, if_pos rfl, rfl⟩
  · have hp : (o.push e).positions = o.positions.insert e.key o.keys.length := by
      simp [Object.push, h.duplicates, Object.keys]
    rw [hkeys, hp, Std.HashMap.getElem?_insert, getElem?_concat_eq_some_iff hk, ← h.position]
    by_cases he : e.key = key
    · simp [he, eq_comm]
    · simp [he]

/-- An insertion keeps the invariant. -/
theorem insert (h : Settled es o) (e : Entry) :
    Settled (es ++ [e]) (o.insert e.name e.value) := by
  rw [Object.insert]
  cases hp : o.position? (Key.ofName e.name) with
  | some i =>
    rw [h.position?_eq, h.position] at hp
    exact h.setValue hp
  | none =>
    refine h.push fun hk => ?_
    obtain ⟨i, hi⟩ := List.mem_iff_getElem?.1 hk
    rw [← h.position, ← h.position?_eq] at hi
    cases hp.symm.trans hi

theorem settled?_eq (h : Settled es o) {e : Entry} (hm : e ∈ o.entries) :
    Entry.settled? es e.key = some e := by
  obtain ⟨f, hf, hn⟩ := h.name e hm
  obtain ⟨l, hl, hv⟩ := h.value e hm
  rw [Entry.settled?, hf, hl, Option.bind_some, Option.map_some, hn, hv]

/-- An insertion gives its value to the entry with its key and leaves the others as they are. -/
theorem getElem?_insert (h : Settled es o) {i : Nat} {d : Entry} (hd : o.entries[i]? = some d)
    (e : Entry) : (o.insert e.name e.value).entries[i]? =
      some ⟨d.name, if e.key = d.key then e.value else d.value⟩ := by
  have hk : o.keys[i]? = some d.key := by simp [Object.keys, hd]
  rw [Object.insert]
  cases hp : o.position? (Key.ofName e.name) with
  | some j =>
    rw [h.position?_eq, h.position] at hp
    have hj : e.key = d.key ↔ j = i := by
      constructor
      · intro he
        rw [← h.position] at hk hp
        rw [← he] at hk
        exact Option.some.inj (hp.symm.trans hk)
      · rintro rfl
        exact Option.some.inj (hp.symm.trans hk)
    simp only [Object.setValue, List.getElem?_modify, hd, hj]
    split <;> rfl
  | none =>
    have hn : e.key ≠ d.key := by
      intro he
      rw [← h.position, ← he, ← h.position?_eq] at hk
      cases hp.symm.trans hk
    have hi : i < o.entries.length := (List.getElem?_eq_some_iff.1 hd).1
    rw [if_neg hn]
    exact (List.getElem?_append_left hi).trans hd

theorem insertAll (h : Settled es o) (es' : List Entry) :
    Settled (es ++ es') (o.insertAll es') := by
  induction es' using List.reverseRecOn with
  | nil => simpa [Object.insertAll] using h
  | append_singleton es' e ih =>
    rw [insertAll_concat, ← List.append_assoc]
    exact ih.insert e

/-- An entry stays where it is and takes the last value that is inserted with its key. -/
theorem getElem?_insertAll (h : Settled es o) {i : Nat} {d : Entry} (hd : o.entries[i]? = some d)
    (es' : List Entry) : (o.insertAll es').entries[i]? =
      some ⟨d.name, ((Entry.last? es' d.key).map Entry.value).getD d.value⟩ := by
  induction es' using List.reverseRecOn with
  | nil => exact hd
  | append_singleton es' e ih =>
    rw [insertAll_concat, (h.insertAll es').getElem?_insert ih, Entry.last?_concat]
    have hk : Entry.key ⟨d.name, ((Entry.last? es' d.key).map Entry.value).getD d.value⟩ = d.key :=
      rfl
    rw [hk]
    by_cases he : e.key = d.key
    · rw [if_pos he, if_pos he]
      rfl
    · rw [if_neg he, if_neg he]

/-- The insertions alone tell what is left. -/
theorem entries_eq (h : Settled es o) : o.entries = Entry.settle es := by
  calc o.entries
      = o.entries.filterMap some := List.filterMap_some.symm
    _ = o.entries.filterMap (Entry.settled? es ∘ Entry.key) :=
        List.filterMap_congr fun e hm => (h.settled?_eq hm).symm
    _ = Entry.settle es := by rw [← List.filterMap_map, ← Object.keys, h.keys, Entry.settle]

end Settled

/-- Every run of insertions leaves an object settled. -/
theorem settled_insertAll (es : List Entry) : Settled es ((empty .lastWins).insertAll es) :=
  Settled.start.insertAll es

/-- Every run of insertions follows its policy. When every declaration is kept, the entries are the
insertions. When the last one wins, the entries are those of the same run with every declaration
kept, settled: for each key the first name and the last value. Then each key has the position of
its only entry, nothing else has a position, and no position is out of range. -/
theorem insertAll_by_policy (es : List Entry) :
    ((empty .keepAll).insertAll es).entries = es ∧
    ((empty .lastWins).insertAll es).entries =
      Entry.settle ((empty .keepAll).insertAll es).entries ∧
    Settled es ((empty .lastWins).insertAll es) ∧
    ∀ key i, ((empty .lastWins).insertAll es).position? key = some i →
      i < ((empty .lastWins).insertAll es).size := by
  have hk : ((empty .keepAll).insertAll es).entries = es := entries_insertAll_of_keepAll rfl es
  have hs := settled_insertAll es
  refine ⟨hk, ?_, hs, fun key i => hs.lt_size⟩
  rw [hk]
  exact hs.entries_eq

end Object

end StyleObject
