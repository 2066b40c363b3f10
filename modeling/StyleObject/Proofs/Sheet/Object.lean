import StyleObject.Proofs.Object.Render
import StyleObject.Sheet

/-!
# The object of a style sheet

An object comes from declarations, of which there is at least one, and so it has an entry.
-/
namespace StyleObject.Sheet

variable {options : Options} {css : Text} {o : Object}

theorem exists_declarations_of_object (h : object options css = .ok o) :
    ∃ ds, declarations options.mode css = .ok ds ∧ ds ≠ [] ∧ o = objectOf options ds := by
  unfold object at h
  split at h
  · cases h
  · next d ds hd => exact ⟨d :: ds, hd, List.cons_ne_nil d ds, (Except.ok.inj h).symm⟩
  · cases h

theorem entries_ne_nil_of_object (h : object options css = .ok o) : o.entries ≠ [] := by
  obtain ⟨ds, -, hn, rfl⟩ := exists_declarations_of_object h
  exact Object.entries_insertAll_ne_nil options.duplicates (by simpa using hn)

theorem object_of_render {out : Text} (h : render options css = .ok out) :
    ∃ o, object options css = .ok o ∧ out = o.render options.indent := by
  rw [render] at h
  split at h
  · next o ho => exact ⟨o, ho, (Except.ok.inj h).symm⟩
  · cases h

end StyleObject.Sheet
