import StyleObject.Object
import StyleObject.Proofs.Block.Frame

/-!
# The frame of an object

Lines and indents are neutral, so a rendered object keeps its entries as they stand between the
braces. If its keys and values are flat, the delimiters at its top are the braces and a colon for
each entry.
-/
namespace StyleObject.Object

open Block Text

variable {es : List Entry}

/-- The entries between braces, without lines and indents. -/
def bare (es : List Entry) : Text := '\x7b' :: (es.flatMap Entry.text ++ ['\x7d'])

theorem along_lines (o : Object) (n : Nat) :
    Along Kept (o.lines n) (o.entries.flatMap Entry.text) := by
  have hi : Neutral (List.replicate n ' ') := by
    intro c hc
    rw [List.eq_of_mem_replicate hc]
    rfl
  have hl : Along Kept (o.entries.flatMap fun e => Text.lines e.text)
      (o.entries.flatMap Entry.text) :=
    Along.flatMap (g := Entry.text) (fun e => Text.along_lines e.text) o.entries
  exact hl.map fun l _ h => (Kept.neutral_append hi l).trans h

theorem kept_render (o : Object) (n : Nat) : Kept (o.render n) (bare o.entries) := by
  have hj : Kept (['\n'].intercalate (o.lines n)) (o.entries.flatMap Entry.text) :=
    (o.along_lines n).join (by simp) (by decide)
  have hk : Kept (['\n'] ++ ['\n'].intercalate (o.lines n) ++ ['\n'])
      (o.entries.flatMap Entry.text) := (Kept.pad (by decide) (by decide) _).trans hj
  have he : o.render n =
      '\x7b' :: (['\n'] ++ ['\n'].intercalate (o.lines n) ++ ['\n'] ++ ['\x7d']) := by
    simp [render]
  rw [he]
  exact hk.between (by decide) (by decide)

/-- The delimiters of entries with flat keys and values. -/
theorem delimiters_bare (h : ∀ e ∈ es, Flat e.key ∧ Flat e.value.text) :
    delimiters (bare es) =
      .openBrace :: (List.replicate es.length .colon ++ [.closeBrace]) := by
  have hs : delimiters (es.flatMap Entry.text ++ ['\x7d']) =
      List.replicate es.length .colon ++ [.closeBrace] := by
    induction es with
    | nil => exact delimiters_delimiter_append flat_nil .closeBrace []
    | cons e es ih =>
      obtain ⟨hk, hv⟩ := h e List.mem_cons_self
      have hf : Flat (' ' :: e.value.text ++ [',']) :=
        ((flat_of_neutral (t := [' ']) (by decide)).append hv).append
          (flat_of_neutral (t := [',']) (by decide))
      have ht : (e :: es).flatMap Entry.text ++ ['\x7d'] =
          e.key ++ Delimiter.char .colon ::
            (' ' :: e.value.text ++ [','] ++ (es.flatMap Entry.text ++ ['\x7d'])) := by
        simp [Entry.text, Delimiter.char]
      rw [ht, delimiters_delimiter_append hk, delimiters_flat_append hf,
        ih fun d hd => h d (List.mem_cons_of_mem _ hd)]
      rfl
  rw [← hs]
  exact delimiters_delimiter_append flat_nil .openBrace _

/-- Entries that open no comment open none together. -/
theorem not_opens_bare (h : ∀ e ∈ es, ¬ Opens e.key ∧ ¬ Opens e.value.text) :
    ¬ Opens (bare es) := by
  have hn : ¬ Opens [] := by
    unfold Opens
    decide
  refine not_opens_seam (x := '\x7b') (by decide) hn ?_
  induction es with
  | nil => exact not_opens_seam (x := '\x7d') (by decide) hn hn
  | cons e es ih =>
    obtain ⟨hk, hv⟩ := h e List.mem_cons_self
    have hr := ih fun d hd => h d (List.mem_cons_of_mem _ hd)
    have hv' := not_opens_seam (x := ' ') (by decide) hn
      (not_opens_seam (x := ',') (by decide) hv hr)
    simpa [Entry.text] using not_opens_seam (x := ':') (by decide) hk hv'

end StyleObject.Object
