import StyleObject.Command.Arguments

/-!
# Asking for the whole log

The flag that asks for all events to be logged can be put before every command line without it. The
other words are then read as they are read without it.
-/
namespace StyleObject.Command.Arguments

variable {a b : Arguments} {items : List Item} {item : Item}

/-- The same arguments, with all events logged. -/
def withAll (a : Arguments) : Arguments := { a with verbose := true }

theorem setFlag_withAll {f : Flag} (h : f ≠ .verbose) :
    a.withAll.setFlag f = (a.setFlag f).map withAll := by
  cases f with
  | verbose => contradiction
  | _ =>
    simp only [setFlag, apply_ite (Except.map withAll)]
    rfl

theorem setValue_withAll (s : Setting) (v : Text) :
    a.withAll.setValue s v = (a.setValue s v).map withAll := by
  cases s with
  | important => rfl
  | indent =>
    cases hi : readIndent? v <;> simp only [setValue, hi, apply_ite (Except.map withAll)] <;> rfl
  | _ =>
    simp only [setValue, apply_ite (Except.map withAll)]
    rfl

theorem setPath_withAll (p : Text) : a.withAll.setPath p = (a.setPath p).map withAll := by
  simp only [setPath, apply_ite (Except.map withAll)]
  rfl

theorem add_withAll (h : item ≠ .flag .verbose) :
    a.withAll.add item = (a.add item).map withAll := by
  cases item with
  | flag f => exact setFlag_withAll fun hf => h (congrArg Item.flag hf)
  | setting s v => exact setValue_withAll s v
  | path p => exact setPath_withAll p

/-- Nothing but the flag asks for all events. -/
theorem verbose_of_add (h : a.add item = .ok b) :
    b.verbose = true ↔ a.verbose = true ∨ item = .flag .verbose := by
  cases item with
  | flag f => cases f <;> simp only [add, setFlag] at h <;> split at h <;> cases h <;> simp
  | setting s v =>
    cases s <;> simp only [add, setValue] at h <;> (repeat' split at h) <;> cases h <;> simp
  | path p =>
    simp only [add, setPath] at h
    (repeat' split at h) <;> cases h
    simp

/-- Items without the flag are gathered alike. -/
theorem foldlM_withAll (h : items.foldlM add a = .ok b) (hb : b.verbose = false) :
    a.verbose = false ∧ items.foldlM add a.withAll = .ok b.withAll := by
  induction items generalizing a with
  | nil =>
    cases h
    exact ⟨hb, rfl⟩
  | cons item items ih =>
    rw [List.foldlM_cons] at h ⊢
    cases hc : a.add item with
    | error misuse =>
      rw [hc] at h
      cases h
    | ok c =>
      rw [hc] at h
      obtain ⟨hv, hf⟩ := ih h
      have hi := mt (verbose_of_add hc).2 (by simp [hv])
      rw [not_or] at hi
      rw [add_withAll hi.2, hc]
      exact ⟨by simpa using hi.1, hf⟩

theorem ofWords_verbose {words : List Text} (h : ofWords words = .ok a) (ha : a.verbose = false) :
    ofWords ("--verbose".toList :: words) = .ok a.withAll := by
  have hw : Word.ofText "--verbose".toList = .long "verbose".toList none := by decide
  have hl : Item.ofLong "verbose".toList none = .ok ([.flag .verbose], none) := rfl
  unfold ofWords at h ⊢
  cases hi : Item.ofWords none words with
  | error misuse =>
    rw [hi] at h
    cases h
  | ok items =>
    have he : Item.ofWords none ("--verbose".toList :: words) = .ok (.flag .verbose :: items) := by
      simp only [Item.ofWords, hw, hl, hi]
      rfl
    rw [hi] at h
    rw [he]
    exact (foldlM_withAll h ha).2

end StyleObject.Command.Arguments
