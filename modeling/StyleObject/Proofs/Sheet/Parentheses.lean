import StyleObject.Proofs.Block.Field
import StyleObject.Sheet

/-!
# The parentheses of a style sheet

A delimiter ends a field where as many parentheses have been opened as closed, so every property and
value holds as many of both. The depth has a sign, and a parenthesis may be closed before it is
opened. So a field is well nested exactly if the depth of the style sheet does not fall below zero
within it.
-/
namespace StyleObject

namespace Block

/-- A text that opens each parenthesis before it closes it, and that closes all it opens. -/
structure WellNested (t : Text) : Prop where
  balanced : Balanced t
  prefix_le : ∀ u, u <+: t → u.count ')' ≤ u.count '('

instance (t : Text) : Decidable (WellNested t) :=
  decidable_of_iff (Balanced t ∧ ∀ u ∈ t.inits, u.count ')' ≤ u.count '(')
    ⟨fun h => ⟨h.1, fun u hu => h.2 u ((List.mem_inits u t).2 hu)⟩,
      fun h => ⟨h.balanced, fun u hu => h.prefix_le u ((List.mem_inits u t).1 hu)⟩⟩

/-- In front of a text, a balanced text moves none of its depths. -/
theorem wellNested_iff_behind {before t : Text} (hb : Balanced before) (ht : Balanced t) :
    WellNested t ↔ ∀ u, before <+: u → u <+: before ++ t → u.count ')' ≤ u.count '(' := by
  unfold Balanced at hb
  constructor
  · rintro h _ ⟨u, rfl⟩ hu
    have hl := h.prefix_le u ((List.prefix_append_right_inj before).1 hu)
    rw [List.count_append, List.count_append]
    omega
  · intro h
    refine ⟨ht, fun u hu => ?_⟩
    have hl := h (before ++ u) (List.prefix_append before u)
      ((List.prefix_append_right_inj before).2 hu)
    rw [List.count_append, List.count_append] at hl
    omega

theorem balanced_join {ss : List Segment} (h : ∀ s ∈ ss, Flat s.text) : Balanced (join ss) := by
  induction ss with
  | nil => rfl
  | cons s ss ih =>
    obtain ⟨hs, hss⟩ := List.forall_mem_cons.1 h
    have hb : Balanced (s.text ++ [s.delimiter.char]) :=
      (balanced_append hs.balanced _).2 (balanced_delimiter s.delimiter)
    rw [join, List.flatMap_cons]
    exact (balanced_append hb _).2 (ih hss)

/-- Behind a balanced text, each segment stands in the text of all. -/
theorem exists_place_of_mem {ss : List Segment} (h : ∀ s ∈ ss, Flat s.text) {s : Segment}
    (hs : s ∈ ss) :
    ∃ before after, join ss = before ++ Text.trim s.text ++ after ∧ Balanced before := by
  obtain ⟨pre, post, rfl⟩ := List.append_of_mem hs
  obtain ⟨a, b, ha, -, he⟩ := Text.exists_trim s.text
  have hpre : ∀ r ∈ pre, Flat r.text := fun r hr => h r (List.mem_append_left _ hr)
  refine ⟨join pre ++ a, b ++ s.delimiter.char :: join post, ?_,
    (balanced_append (balanced_join hpre) a).2 (flat_of_blank ha).balanced⟩
  calc join (pre ++ s :: post) = join pre ++ (s.text ++ s.delimiter.char :: join post) := by
        simp [join]
    _ = join pre ++ (a ++ Text.trim s.text ++ b ++ s.delimiter.char :: join post) := by rw [← he]
    _ = _ := by simp only [List.append_assoc]

/-- Each field stands behind a balanced part of the text that it is read from. -/
theorem exists_place_of_read {mode : Mode} {t : Text} {ds : List Declaration}
    (h : read mode t = .ok ds) :
    ∀ x ∈ fields ds, ∃ before after, t = before ++ x ++ after ∧ Balanced before := by
  obtain ⟨ss, rest, rfl, hss, rfl⟩ := exists_join_of_read h
  have hplace : ∀ s ∈ ss, ∃ before after,
      join ss ++ rest = before ++ Text.trim s.text ++ after ∧ Balanced before := by
    intro s hs
    obtain ⟨before, after, he, hb⟩ := exists_place_of_mem hss hs
    exact ⟨before, after ++ rest, by rw [he, List.append_assoc], hb⟩
  rw [forall_mem_fields]
  intro d hd
  obtain ⟨s, hs, r, hr, rfl⟩ := exists_of_mem_declarationsOf hd
  exact ⟨hplace s hs, hplace r hr⟩

end Block

namespace Sheet

open Block Text

/-- Every property and value of a style sheet holds as many opening as closing parentheses, and so
does the flat text before it. It is well nested exactly if no part of the flat text that ends within
it closes more parentheses than it opens, and thus if no part of the flat text does so at all. -/
theorem fields_wellNested_iff {mode : Mode} {css : Text} {ds : List Declaration}
    (h : declarations mode css = .ok ds) :
    ∀ x ∈ fields ds, Balanced x ∧
      (∃ before after, flatten css = before ++ x ++ after ∧ Balanced before ∧
        (WellNested x ↔
          ∀ u, before <+: u → u <+: before ++ x → u.count ')' ≤ u.count '(')) ∧
      ((∀ u, u <+: flatten css → u.count ')' ≤ u.count '(') → WellNested x) := by
  intro x hx
  have hb : Balanced x := (clean_fields_iff.2 (clean_of_read h) x hx).balanced
  obtain ⟨before, after, ht, hbefore⟩ := exists_place_of_read h x hx
  have hw := wellNested_iff_behind hbefore hb
  refine ⟨hb, ⟨before, after, ht, hbefore, hw⟩, fun hu => ?_⟩
  refine hw.2 fun u _ hp => hu u (hp.trans ?_)
  exact ⟨after, ht.symm⟩

/-- A value with a delimiter and another parenthesis within its parentheses is well nested. -/
theorem fields_wellNested_deep :
    declarations .strict "\x7ba: f(;(b)); \x7d".toList = .ok [⟨['a'], "f(;(b))".toList⟩] ∧
    WellNested "f(;(b))".toList := by
  have hf : flatten "\x7ba: f(;(b)); \x7d".toList = "\x7ba: f(;(b)); \x7d".toList := by
    rw [flatten, dropComments_of_none (by decide)]
    decide
  have hd : declarations .strict "\x7ba: f(;(b)); \x7d".toList =
      .ok [⟨['a'], "f(;(b))".toList⟩] := by
    rw [declarations, hf]
    decide
  have hw : WellNested "\x7ba: f(;(b)); \x7d".toList := by decide
  refine ⟨hd, ((fields_wellNested_iff hd) "f(;(b))".toList (by decide)).2.2 ?_⟩
  rw [hf]
  exact hw.prefix_le

/-- A parenthesis that is closed before it is opened is part of a value. -/
theorem not_wellNested_early :
    declarations .strict "\x7b a: )(; \x7d".toList = .ok [⟨['a'], ")(".toList⟩] ∧
    declarations .lenient "\x7b a: )(; \x7d".toList = .ok [⟨['a'], ")(".toList⟩] ∧
    ¬ WellNested ")(".toList := by
  have hf : flatten "\x7b a: )(; \x7d".toList = "\x7b a: )(; \x7d".toList := by
    rw [flatten, dropComments_of_none (by decide)]
    decide
  refine ⟨?_, ?_, by decide⟩
  all_goals
    rw [declarations, hf]
    decide

end Sheet

end StyleObject
